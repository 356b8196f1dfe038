import UsCtrl.ConfigSteps
import UsCtrl.PanelShadows

/-!
# What a live field stands for

A save writes the whole live configuration, so the stored value of a field is safe only while the
live one stands for it. It does not after a load whose read failed, which leaves the factory default
in its place, and after a DHCP lease, which leaves the leased octet (`FieldSource`). A SAVE of the
panel moreover copies the shadows of its page group over the live values before it stores them
(`Call.copies`), whether anybody has typed into them or not.

`stored_kept` follows one field through a run in which nobody edits it (`Untouched`): nobody types
into its shadow, and no key and no request changes it. If every save finds the field standing for
its stored value and copies nothing else over it, or is to store what is stored already
(`SavesFaithful`), then the stored value never changes, except that a finished cycle is counted.
-/

set_option autoImplicit false
set_option relaxedAutoImplicit false

namespace UsCtrl

open Foundation

/-! ### Calls that change a field -/

/-- The controller run on from a state. -/
def runFrom (build : Build) (start : Sys) : Machine Sys Call where
  start := start
  exec call s := call.exec build s

/-- The setting that carries a field, if a SAVE copies it from a shadow. -/
def StoredField.setting : StoredField → Option PanelSetting
  | .commAddr => some .commAddress
  | .commSpeed => some .commSpeed
  | .commParity => some .commParity
  | .commMode => some .commMode
  | .etherIp _ => some .etherIp
  | .etherNm _ => some .etherNm
  | .etherGw _ => some .etherGw
  | _ => none

/-- The part of its setting's value that a field holds. -/
def StoredField.part (field : StoredField) : SettingVal → ℤ
  | .num value => value
  | .octets value =>
    match field with
    | .etherIp octet | .etherNm octet | .etherGw octet => value.get octet
    | _ => 0
  | .flag value => value.toNat

theorem part_live {field : StoredField} {setting : PanelSetting}
    (hsetting : field.setting = some setting) (s : Sys) :
    field.part (setting.live s) = s.cfg.value field := by
  cases field with
  | commAddr | commSpeed | commParity | commMode | etherIp _ | etherNm _ | etherGw _ =>
    obtain rfl := Option.some.inj hsetting
    rfl
  | _ => cases hsetting

/-- A field with a shadow is edited by typing into it, the others by a key other than SAVE and
CANCEL that changes the live value, the counter also by ticking its reset. A master edits by a
request that changes the live value. -/
def Edits (build : Build) (field : StoredField) (call : Call) (s : Sys) : Prop :=
  match call with
  | .frame f =>
    match field.setting with
    | some setting => (Call.frame f).types setting s = true
    | none => f.key ≠ some .dataSave ∧
        ((appLcdInputDispatch f s).cfg.value field ≠ s.cfg.value field ∨
          field = .workCnt ∧ f.key = some .stdSetupParam ∧ f.word = 5)
  | .modbusTick _ => (call.exec build s).cfg.value field ≠ s.cfg.value field
  | _ => False

instance (build : Build) (field : StoredField) (call : Call) (s : Sys) :
    Decidable (Edits build field call s) :=
  match call with
  | .frame f =>
    match hsetting : field.setting with
    | some setting => decidable_of_iff ((Call.frame f).types setting s = true)
        (by rw [Edits, hsetting])
    | none => decidable_of_iff (f.key ≠ some .dataSave ∧
        ((appLcdInputDispatch f s).cfg.value field ≠ s.cfg.value field ∨
          field = .workCnt ∧ f.key = some .stdSetupParam ∧ f.word = 5)) (by rw [Edits, hsetting])
  | .modbusTick input => inferInstanceAs
      (Decidable (((Call.modbusTick input).exec build s).cfg.value field ≠ s.cfg.value field))
  | .lcdTick | .weldTick _ | .overloadTick _ | .inputTick _ | .hornTick _ | .seekResetTick _
  | .regTick _ | .ethTick _ | .faultAlarmTick _ | .buzzerTick _ => instDecidableFalse

/-! ### What a SAVE copies -/

/-- What a call copies over the live value: a SAVE the shadow of the field, if the group of the
shown page commits it, and zero over the counter, if its reset is ticked. -/
def Call.copies (call : Call) (field : StoredField) (s : Sys) : Option ℤ :=
  match call with
  | .frame f =>
    if f.key = some .dataSave ∧ f.word = 1 then
      match field.setting with
      | some setting =>
        if (setupGroup s).commits (.num s.lcd.tempCommMode) setting then
          some (field.part (setting.shadow s.lcd))
        else none
      | none =>
        if field = .workCnt ∧ setupGroup s = .std ∧ s.lcd.tempCntReset = true then some 0 else none
    else none
  | _ => none

/-- The value of the field that a save is to store, but for the count of a cycle. -/
def Call.found (call : Call) (field : StoredField) (s : Sys) : ℤ :=
  (call.copies field s).getD (s.cfg.value field)

/-- What the SAVE variable leaves live. -/
theorem dataSaveCommit_value {f : FrameIn} (hkey : f.key = some .dataSave) (hword : f.word = 1)
    (field : StoredField) (s : Sys) :
    (dataSaveCommit f.bus f.tPage s).cfg.value field = (Call.frame f).found field s := by
  rw [Call.found, Call.copies, if_pos ⟨hkey, hword⟩]
  cases hsetting : field.setting with
  | some setting =>
    rw [← part_live hsetting, dataSaveCommit_live]
    dsimp only
    split_ifs
    · rfl
    · exact part_live hsetting s
  | none =>
    have hcfg : (dataSaveCommit f.bus f.tPage s).cfg = (dataSaveGroup s).cfg :=
      changePage_cfg f.tPage _
    have hprocess := congrArg (fun cfg : AppConfig ↦ cfg.value field)
      (dataSaveGroup_config s).process
    rw [hcfg]
    cases field with
    | workCnt =>
      show ((dataSaveGroup s).cfg.workCnt : ℤ) = _
      rw [dataSaveGroup_workCnt]
      simp only [true_and]
      split_ifs <;> rfl
    | commAddr | commSpeed | commParity | commMode | etherIp _ | etherNm _ | etherGw _ =>
      cases hsetting
    | _ => exact hprocess

/-- No key but SAVE and CANCEL touches a field with a shadow. -/
theorem panelKey_shadowed {key : PanelKey} (hkey : key ≠ .dataSave) {field : StoredField}
    {setting : PanelSetting} (hsetting : field.setting = some setting) (f : FrameIn) (s : Sys) :
    (panelKeyHandler key f.word f s).cfg.value field = s.cfg.value field := by
  rcases panelKey_config hkey f s with hcfg | ⟨runMode, hcfg⟩
  · rw [hcfg]
    cases field with
    | commAddr | commSpeed | commParity | commMode | etherIp _ | etherNm _ | etherGw _ =>
      unfold panelConfigEdit
      cases key <;> first | rfl | (dsimp only; split_ifs <;> rfl)
    | _ => cases hsetting
  · rw [hcfg]
    cases field <;> first | rfl | cases hsetting

/-! ### Cycles counted -/

/-- The call ends a weld cycle, which counts it. -/
def Call.countsCycle (call : Call) (s : Sys) : Bool :=
  match call with
  | .weldTick _ => (weldEdges call s).cycleDone
  | _ => false

/-- A value after a call that counts: `work_cnt` goes up. -/
def StoredField.counted (field : StoredField) (call : Call) (s : Sys) (value : ℤ) : ℤ :=
  if field = .workCnt ∧ call.countsCycle s = true then (value + 1) % 4294967296 else value

theorem saves_of_countsCycle (build : Build) {call : Call} {s : Sys}
    (hcount : call.countsCycle s = true) : Saves build call s = true := by
  cases call with
  | weldTick tick => exact hcount
  | _ => cases hcount

/-- Counting and cutting to the record commute. -/
theorem kept_count (field : StoredField) (call : Call) (s : Sys) (value : ℤ) :
    field.kept (field.counted call s value) = field.counted call s (field.kept value) := by
  unfold StoredField.counted
  split_ifs with hcount
  · rw [hcount.1]
    dsimp only [StoredField.kept]
    omega
  · rfl

/-- A counted value is a value of its record. -/
theorem kept_counted {field : StoredField} {value : ℤ} (hkept : field.kept value = value)
    (call : Call) (s : Sys) :
    field.kept (field.counted call s value) = field.counted call s value := by
  rw [kept_count, hkept]

/-- Different values of a record are counted to different ones. -/
theorem counted_inj {field : StoredField} {value other : ℤ} (hvalue : field.kept value = value)
    (hother : field.kept other = other) (call : Call) (s : Sys) :
    field.counted call s value = field.counted call s other ↔ value = other := by
  unfold StoredField.counted
  split_ifs with hcount
  · rw [hcount.1] at hvalue hother
    dsimp only [StoredField.kept] at hvalue hother
    omega
  · rfl

/-- What is cut to the record stays as it is. -/
theorem kept_idem (field : StoredField) (value : ℤ) :
    field.kept (field.kept value) = field.kept value := by
  cases field with
  | calVal | freqCalVal =>
    dsimp only [StoredField.kept]
    rw [toUint16, toInt16, toUint16, toInt16]
    split_ifs <;> omega
  | energy | outPower | commSpeed | commParity | enEnergy | enMulti =>
    dsimp only [StoredField.kept]
    split_ifs <;> omega
  | _ =>
    dsimp only [StoredField.kept]
    omega

/-- Assumes: the call is no load, no lease of the field and no edit of it. Then it leaves the live
value it finds or copies, counted at the end of a cycle. -/
theorem exec_value (build : Build) {call : Call} {field : StoredField} {s : Sys}
    (hloads : call.loads = false) (hlease : (call.leases && field.ether) = false)
    (hedit : ¬ Edits build field call s) :
    (call.exec build s).cfg.value field = field.counted call s (call.found field s) := by
  have hidle (hnone : call.countsCycle s = false) (value : ℤ) :
      field.counted call s value = value := by
    rw [StoredField.counted, hnone]
    exact if_neg (by simp)
  by_cases hoff : call.offDesk = true
  · rw [exec_cfg build hoff s, hidle (by cases call <;> first | rfl | cases hoff)]
    cases call <;> first | rfl | cases hoff
  · cases call with
    | frame f =>
      rw [hidle rfl]
      by_cases hkey : f.key = some .dataSave
      · have hword : f.word = 1 := by simpa [Call.loads, hkey] using hloads
        rw [← dataSaveCommit_value hkey hword]
        show (appLcdInputDispatch f s).cfg.value field = _
        rw [appLcdInputDispatch, hkey]
        exact congrArg (fun t : Sys ↦ t.cfg.value field) (if_pos hword)
      · have hfound : (Call.frame f).found field s = s.cfg.value field := by
          rw [Call.found, Call.copies, if_neg fun h ↦ hkey h.1]
          rfl
        rw [hfound]
        cases hsetting : field.setting with
        | some setting =>
          show (appLcdInputDispatch f s).cfg.value field = _
          unfold appLcdInputDispatch
          cases hpressed : f.key with
          | none => rfl
          | some key => exact panelKey_shadowed (fun h ↦ hkey (h ▸ hpressed)) hsetting f s
        | none =>
          rw [Edits, hsetting] at hedit
          exact not_not.mp fun hne ↦ hedit ⟨hkey, Or.inl hne⟩
    | modbusTick input =>
      rw [hidle rfl]
      exact not_not.mp hedit
    | weldTick tick =>
      show (appWeldTick tick s).cfg.value field = field.counted _ s (s.cfg.value field)
      rw [(weldTick_desk tick s).cfg]
      cases hcount : (weldEdges (.weldTick tick) s).cycleDone with
      | false => exact (hidle hcount _).symm
      | true =>
        rw [if_pos rfl, StoredField.counted]
        have hcycle : (Call.weldTick tick).countsCycle s = true := hcount
        cases field with
        | workCnt =>
          rw [if_pos ⟨rfl, hcycle⟩]
          show (((s.cfg.workCnt + 1) % 2 ^ 32 : ℕ) : ℤ) = ((s.cfg.workCnt : ℤ) + 1) % 4294967296
          omega
        | _ => exact (if_neg fun h ↦ by cases h.1).symm
    | ethTick tick =>
      show (appEthTick tick s).cfg.value field = field.counted _ s (s.cfg.value field)
      rw [hidle rfl]
      rcases Bool.and_eq_false_iff.mp hlease with hnone | hfield
      · rw [(ethTick_cfg tick s).2 hnone]
      · obtain ⟨ip, nm, gw, hcfg⟩ := (ethTick_cfg tick s).1
        rw [hcfg]
        cases field <;> first | rfl | cases hfield
    | _ => exact absurd rfl hoff

/-! ### Runs -/

/-- What the live value of a field stands for: its stored value, a default put in its place by a
load that could not read it, or a lease. -/
inductive FieldSource
  | stored
  | factory
  | leased
  deriving DecidableEq, Repr

section Run

variable (build : Build) (start : Sys) (field : StoredField) (first : FieldSource)

/-- What the live value stands for after a run, `first` being what it stood for at the start. -/
def sourceAfter : List Call → FieldSource
  | [] => first
  | call :: past =>
    if call.loads then if call.bus.answers field then .stored else .factory
    else if Saves build call ((runFrom build start).after past) then .stored
    else if call.leases && field.ether then .leased
    else sourceAfter past

/-- The stored value at the start, with the cycles finished since then. -/
def countedValue : List Call → ℤ
  | [] => storedValue start.fram field
  | call :: past =>
    field.counted call ((runFrom build start).after past) (countedValue past)

/-- The writes of the call arrive, and it does not edit the field. -/
def Untouched : Past Call
  | [] => True
  | call :: past => call.bus.Writes ∧ ¬ Edits build field call ((runFrom build start).after past)

/-- A save finds the field standing for its stored value, and copies nothing else over it, or what
it is to store happens to be what is stored. -/
def SavesFaithful : Past Call
  | [] => True
  | call :: past => Saves build call ((runFrom build start).after past) = true →
    (sourceAfter build start field first past = .stored ∧
        ∀ value, call.copies field ((runFrom build start).after past) = some value →
          value = ((runFrom build start).after past).cfg.value field) ∨
      call.found field ((runFrom build start).after past) = countedValue build start field past

/-- What is known of a field along a faithful run. -/
structure FieldLedger (history : List Call) : Prop where
  flag : ((runFrom build start).after history).fram 0 = framInitFlagMagic
  kept : field.kept (countedValue build start field history) =
    countedValue build start field history
  stored : storedValue ((runFrom build start).after history).fram field =
    countedValue build start field history
  live : sourceAfter build start field first history = .stored →
    ((runFrom build start).after history).cfg.value field = countedValue build start field history
  factory : sourceAfter build start field first history = .factory →
    ((runFrom build start).after history).cfg.value field = appConfigFactoryDefaults.value field

variable {build start field first}

/-- A run is untouched if its writes arrive and each of its calls, tried in turn, is no edit. -/
theorem untouched_along {history : List Call} (hwrites : ∀ call ∈ history, call.bus.Writes)
    (halong : (runFrom build start).along (fun call s ↦ ¬ Edits build field call s) history start) :
    always (Untouched build start field) history := by
  induction history with
  | nil => trivial
  | cons call past ih =>
    rw [List.forall_mem_cons] at hwrites
    exact ⟨⟨hwrites.1, halong.1⟩, ih hwrites.2 halong.2⟩

/-- But for the work counter, nothing is counted. -/
theorem countedValue_eq (hfield : field ≠ .workCnt) (history : List Call) :
    countedValue build start field history = storedValue start.fram field := by
  induction history with
  | nil => rfl
  | cons call past ih => exact (if_neg fun hcount ↦ hfield hcount.1).trans ih

/-- Assumes: the source of the field at the start is what it is said to be. -/
theorem fieldLedger_start (hflag : start.fram 0 = framInitFlagMagic)
    (hkept : field.kept (storedValue start.fram field) = storedValue start.fram field)
    (hlive : first = .stored → start.cfg.value field = storedValue start.fram field)
    (hfactory : first = .factory → start.cfg.value field = appConfigFactoryDefaults.value field) :
    FieldLedger build start field first [] :=
  ⟨hflag, hkept, rfl, hlive, hfactory⟩

/-- Without a save nothing is counted. -/
theorem counted_idle {call : Call} {s : Sys} (hsave : Saves build call s = false) (value : ℤ) :
    field.counted call s value = value := by
  refine if_neg fun hcount ↦ ?_
  rw [saves_of_countsCycle build hcount.2] at hsave
  cases hsave

/-- Without a save nothing is copied. -/
theorem found_idle {call : Call} {s : Sys} (hsave : Saves build call s = false) :
    call.found field s = s.cfg.value field := by
  cases call with
  | frame f =>
    have hnone : ¬ (f.key = some .dataSave ∧ f.word = 1) := by simpa [Saves] using hsave
    rw [Call.found, Call.copies, if_neg hnone]
    rfl
  | _ => rfl

/-- A save is neither a load nor a lease. -/
theorem saves_unloaded (field : StoredField) {call : Call} {s : Sys}
    (hsave : Saves build call s = true) :
    call.loads = false ∧ (call.leases && field.ether) = false := by
  refine ⟨?_, by cases call <;> first | rfl | cases hsave⟩
  cases hloads : call.loads with
  | false => rfl
  | true => exact absurd hsave (by simp [saves_of_loads build hloads])

/-- A load makes the field stand for what it read. -/
theorem fieldLedger_load {call : Call} {past : List Call}
    (hledger : FieldLedger build start field first past) (hwrites : call.bus.Writes)
    (hloads : call.loads = true) : FieldLedger build start field first (call :: past) := by
  have hcall := exec_stored build hwrites hledger.flag
  have hsave := saves_of_loads build hloads ((runFrom build start).after past)
  have hvalue : (call.exec build ((runFrom build start).after past)).cfg.value field =
      if call.bus.answers field then countedValue build start field past
      else appConfigFactoryDefaults.value field := by
    rw [(exec_load build hloads _).1, value_loaded call.bus hledger.flag field, hledger.stored]
  have hsource : sourceAfter build start field first (call :: past) =
      if call.bus.answers field then .stored else .factory := if_pos hloads
  have hcounted : countedValue build start field (call :: past) =
      countedValue build start field past := counted_idle hsave _
  refine ⟨hcall.1, kept_counted hledger.kept call _, ?_, ?_, ?_⟩
  · rw [hcounted, ← hledger.stored]
    exact (hcall.2 field).trans (if_neg (by simp [hsave]))
  · intro h
    rw [hcounted]
    refine hvalue.trans (if_pos ?_)
    by_contra hsilent
    rw [hsource, if_neg hsilent] at h
    cases h
  · intro h
    refine hvalue.trans (if_neg fun hanswers ↦ ?_)
    rw [hsource, if_pos hanswers] at h
    cases h

/-- A save stores what it finds or copies, counted at the end of a cycle. -/
theorem save_stored {call : Call} {past : List Call}
    (hflag : ((runFrom build start).after past).fram 0 = framInitFlagMagic)
    (huntouched : Untouched build start field (call :: past))
    (hsave : Saves build call ((runFrom build start).after past) = true) :
    storedValue ((runFrom build start).after (call :: past)).fram field =
      field.counted call ((runFrom build start).after past)
        (field.kept (call.found field ((runFrom build start).after past))) := by
  obtain ⟨hloads, hlease⟩ := saves_unloaded field hsave
  refine (((exec_stored build huntouched.1 hflag).2 field).trans (if_pos hsave)).trans ?_
  rw [exec_value build hloads hlease huntouched.2, kept_count]

/-- A faithful save stores the value it finds stored, or counts it. -/
theorem fieldLedger_save {call : Call} {past : List Call}
    (hledger : FieldLedger build start field first past)
    (huntouched : Untouched build start field (call :: past))
    (hfaithful : SavesFaithful build start field first (call :: past))
    (hsave : Saves build call ((runFrom build start).after past) = true) :
    FieldLedger build start field first (call :: past) := by
  have hstored := save_stored hledger.flag huntouched hsave
  obtain ⟨hloads, hlease⟩ := saves_unloaded field hsave
  have hfound : call.found field ((runFrom build start).after past) =
      countedValue build start field past := by
    rcases hfaithful hsave with ⟨hsource, hcopies⟩ | hequal
    · rw [← hledger.live hsource, Call.found]
      cases hcopy : call.copies field ((runFrom build start).after past) with
      | none => rfl
      | some value => exact hcopies value hcopy
    · exact hequal
  have hvalue := exec_value build hloads hlease huntouched.2
  rw [hfound] at hvalue
  have hkept := kept_counted hledger.kept call ((runFrom build start).after past)
  have hsource : sourceAfter build start field first (call :: past) = .stored := by
    rw [sourceAfter, hloads, if_neg Bool.false_ne_true, if_pos hsave]
  refine ⟨(exec_stored build huntouched.1 hledger.flag).1, hkept, ?_, fun _ ↦ hvalue, fun h ↦ ?_⟩
  · rw [hstored, hfound, hledger.kept]
    rfl
  · rw [hsource] at h
    cases h

/-- Any other call keeps the field, or leases it. -/
theorem fieldLedger_quiet {call : Call} {past : List Call}
    (hledger : FieldLedger build start field first past)
    (huntouched : Untouched build start field (call :: past)) (hloads : call.loads = false)
    (hsave : Saves build call ((runFrom build start).after past) = false) :
    FieldLedger build start field first (call :: past) := by
  have hcall := exec_stored build huntouched.1 hledger.flag
  have hcounted : countedValue build start field (call :: past) =
      countedValue build start field past := counted_idle hsave _
  have hstored : storedValue ((runFrom build start).after (call :: past)).fram field =
      countedValue build start field (call :: past) := by
    rw [hcounted, ← hledger.stored]
    exact (hcall.2 field).trans (if_neg (by simp [hsave]))
  have hkept := kept_counted hledger.kept call ((runFrom build start).after past)
  have hsource : sourceAfter build start field first (call :: past) =
      if (call.leases && field.ether) = true then .leased
      else sourceAfter build start field first past := by
    rw [sourceAfter, hloads, hsave, if_neg Bool.false_ne_true, if_neg Bool.false_ne_true]
  cases hlease : (call.leases && field.ether) with
  | true =>
    rw [hlease, if_pos rfl] at hsource
    refine ⟨hcall.1, hkept, hstored, fun h ↦ ?_, fun h ↦ ?_⟩ <;> (rw [hsource] at h; cases h)
  | false =>
    rw [hlease, if_neg Bool.false_ne_true] at hsource
    have hvalue := exec_value build hloads hlease huntouched.2
    rw [counted_idle hsave, found_idle hsave] at hvalue
    refine ⟨hcall.1, hkept, hstored, fun h ↦ ?_, fun h ↦ ?_⟩
    · rw [hsource] at h
      rw [hcounted]
      exact hvalue.trans (hledger.live h)
    · rw [hsource] at h
      exact hvalue.trans (hledger.factory h)

/-- A field that nobody edits keeps its stored value in a run of faithful saves. -/
theorem stored_kept (hstart : FieldLedger build start field first []) {history : List Call}
    (huntouched : always (Untouched build start field) history)
    (hfaithful : always (SavesFaithful build start field first) history) :
    FieldLedger build start field first history := by
  induction history with
  | nil => exact hstart
  | cons call past ih =>
    have hledger := ih huntouched.2 hfaithful.2
    by_cases hloads : call.loads = true
    · exact fieldLedger_load hledger huntouched.1.1 hloads
    · by_cases hsave : Saves build call ((runFrom build start).after past) = true
      · exact fieldLedger_save hledger huntouched.1 hfaithful.1 hsave
      · exact fieldLedger_quiet hledger huntouched.1 (Bool.not_eq_true _ ▸ hloads)
          (Bool.not_eq_true _ ▸ hsave)

end Run

end UsCtrl
