import UsCtrl.ReadFault

/-!
# CANCEL and the panel session

The panel edits the live configuration as its keys are pressed, and CANCEL takes the edits back by
loading the configuration from the FRAM. That is a rollback to the start of the session as long as
the FRAM still holds the values of that time. But every other save writes the whole live
configuration, the pending edits with it.

`sessionValue` is what CANCEL is to restore of a process parameter: its value at the start of the
session, or the one a master has written since. `rollback_iff` says when it does: the FRAM holds the
session values all along exactly if every other save finds nothing pending in the parameter, and
every write of a master that stores nothing finds its value stored (`Settled`).
-/

set_option autoImplicit false
set_option relaxedAutoImplicit false

namespace UsCtrl

open Foundation

/-! ### Process parameters -/

/-- The register of a process parameter. -/
def StoredField.reg : StoredField → Option MbReg
  | .delay1 => some .delay1
  | .delay2 => some .delay2
  | .delay3 => some .delay3
  | .trigger2 => some .trigger2
  | .trigger3 => some .trigger3
  | .safty => some .enSafty
  | .runMode => some .runMode
  | .modelFreq => some .modelFreq
  | .modelType => some .modelType
  | .outPower => some .outPower
  | .onTime => some .onTime
  | .enEnergy => some .enEnergy
  | .energy => some .energy
  | .enMulti => some .enMulti
  | .multiT1 => some .multiT1
  | .multiT2 => some .multiT2
  | .multiO1 => some .multiO1
  | .multiO2 => some .multiO2
  | .timeover => some .timeover
  | .calVal => some .calVal
  | .freqCalVal => some .freqCalVal
  | _ => none

theorem reg_config {field : StoredField} {reg : MbReg} (hreg : field.reg = some reg) :
    reg ∈ configRegs := by
  cases field <;> first | (cases hreg; decide) | cases hreg

theorem value_field {field : StoredField} {reg : MbReg} (hreg : field.reg = some reg)
    (cfg : AppConfig) : cfg.value field = cfg.field reg := by
  cases field <;> first | (cases hreg; rfl) | cases hreg

/-- The fields of another register are not the parameter. -/
theorem value_withFieldsOf {field : StoredField} {reg other : MbReg}
    (hreg : field.reg = some reg) (hother : other ≠ reg) (cfg donor : AppConfig) :
    (cfg.withFieldsOf other donor).value field = cfg.value field := by
  cases field with
  | workCnt | commAddr | commSpeed | commParity | commMode | etherIp _ | etherNm _ | etherGw _ =>
    cases hreg
  | _ =>
    obtain rfl := Option.some.inj hreg
    cases other <;> first | rfl | exact absurd rfl hother

/-- The words a register takes: the enable registers take 0 and 1 only. -/
def MbReg.takes (reg : MbReg) (word : ℕ) : Bool :=
  match reg with
  | .enEnergy | .enMulti => decide (word ≤ 1)
  | _ => true

/-- A normalized word is a value of the record. -/
theorem kept_normalized {field : StoredField} {reg : MbReg} (hreg : field.reg = some reg)
    {word : ℕ} (hword : word < 65536) (htakes : reg.takes word = true) (old : ℤ) :
    field.kept (normalized reg word old) = normalized reg word old := by
  cases field with
  | delay1 | delay2 | delay3 | trigger2 | trigger3 | onTime | multiT1 | multiT2 | timeover =>
    obtain rfl := Option.some.inj hreg
    dsimp only [StoredField.kept, normalized]
    rw [cfgClampMax]
    split_ifs <;> omega
  | outPower =>
    obtain rfl := Option.some.inj hreg
    dsimp only [StoredField.kept, normalized]
    rw [cfgClampPower]
    split_ifs <;> omega
  | multiO1 | multiO2 =>
    obtain rfl := Option.some.inj hreg
    dsimp only [StoredField.kept, normalized]
    rw [cfgClampPower]
    split_ifs <;> omega
  | energy =>
    obtain rfl := Option.some.inj hreg
    dsimp only [StoredField.kept, normalized]
    split_ifs <;> omega
  | runMode | modelFreq | modelType =>
    obtain rfl := Option.some.inj hreg
    dsimp only [StoredField.kept, normalized]
    omega
  | enEnergy | enMulti =>
    obtain rfl := Option.some.inj hreg
    have hsmall : word ≤ 1 := of_decide_eq_true htakes
    dsimp only [StoredField.kept, normalized]
    rw [if_pos hsmall]
    split_ifs <;> omega
  | safty =>
    obtain rfl := Option.some.inj hreg
    dsimp only [StoredField.kept, normalized]
    split_ifs <;> rfl
  | calVal | freqCalVal =>
    obtain rfl := Option.some.inj hreg
    dsimp only [StoredField.kept, normalized, cfgCalFromWire, toInt16, toUint16]
    split_ifs <;> omega
  | _ => cases hreg

/-! ### Writes of a master -/

/-- The value a master gives a parameter in a call: the tick lets a write of its register through,
of a word the register takes. -/
def masterValue (build : Build) (field : StoredField) (call : Call) (s : Sys) : Option ℤ :=
  match call, field.reg with
  | .modbusTick input, some reg =>
    let pass := modbusPass build input s
    if pass.2.isSome ∧ gateClosed build pass.1 = false ∧
        pass.1.modbus.core.lastWriteAddr = some reg ∧ reg.takes (holding pass.1 reg) = true then
      some (normalized reg (holding pass.1 reg) (s.cfg.value field))
    else none
  | _, _ => none

theorem normalized_refused {reg : MbReg} {word : ℕ} (hrefused : reg.takes word = false) (old : ℤ) :
    normalized reg word old = old := by
  cases reg with
  | enEnergy | enMulti => exact if_neg (of_decide_eq_false hrefused)
  | _ => cases hrefused

/-- A write of a master that is saved leaves its value in the parameter. -/
theorem master_saved (build : Build) (boot : BootIn) (history : List Call) {call : Call}
    {field : StoredField} {value : ℤ}
    (hmaster : masterValue build field call (stateAfter build boot history) = some value)
    (hsave : Saves build call (stateAfter build boot history) = true) :
    (call.exec build (stateAfter build boot history)).cfg.value field = value ∧
      field.kept value = value := by
  cases call with
  | modbusTick input =>
    cases hreg : field.reg with
    | none =>
      simp only [masterValue, hreg] at hmaster
      cases hmaster
    | some reg =>
      have hstored := stored_modbusPass build input (stateAfter build boot history)
      simp only [masterValue, hreg] at hmaster
      split_ifs at hmaster with hlands
      obtain ⟨hlink, hgate, hlast, htakes⟩ := hlands
      obtain ⟨link, hlink⟩ := Option.isSome_iff_exists.mp hlink
      obtain ⟨written, word, hpoint⟩ := after_point hlink
      obtain rfl : written = reg := Option.some.inj (hpoint.last.symm.trans hlast)
      rw [hpoint.written] at hmaster htakes
      obtain rfl := Option.some.inj hmaster
      refine ⟨?_, kept_normalized hreg hpoint.bound htakes _⟩
      have hasked : (pickedBranch link input.apply
          (countApply (modbusPass build input (stateAfter build boot history)).1)).2 = true := by
        have hboth : modbusSaves build input (stateAfter build boot history) = true := hsave
        rw [modbusSaves, hlink] at hboth
        exact (Bool.and_eq_true_iff.mp hboth).2
      show (appModbusTick build input (stateAfter build boot history)).cfg.value field = _
      rw [appModbusTick_eq_pass, finishPass, hlink]
      dsimp only
      rw [value_field hreg, value_field hreg, applied_cfg hgate]
      rcases pickedBranch_cases hpoint.counted link input.apply with
        ⟨rule, hrule, hguard, hpicked⟩ | ⟨-, hpicked⟩
      · have heffect := (applyRules_effect link input.apply _ (written, rule) (mem_of_ruleOf hrule)
          (reg_config hreg)).opened hguard
        rw [hpicked, heffect.2, hpoint.counted.written, ← hstored.1]
        rfl
      · rw [hpicked] at hasked
        cases hasked
  | _ => cases hmaster

/-- The SAVE key of the panel. -/
def Call.savesKey : Call → Bool
  | .frame f => decide (f.key = some .dataSave) && decide (f.word = 1)
  | _ => false

/-- Any other save but that of SAVE finds and leaves the parameter as it is. -/
theorem other_saved (build : Build) (boot : BootIn) (history : List Call) {call : Call}
    {field : StoredField} {reg : MbReg} (hreg : field.reg = some reg)
    (hkey : call.savesKey = false)
    (hmaster : masterValue build field call (stateAfter build boot history) = none)
    (hsave : Saves build call (stateAfter build boot history) = true) :
    (call.exec build (stateAfter build boot history)).cfg.value field =
      (stateAfter build boot history).cfg.value field := by
  cases call with
  | frame f =>
    have hboth : (Call.frame f).savesKey = true := hsave
    rw [hkey] at hboth
    cases hboth
  | weldTick tick =>
    show (appWeldTick tick (stateAfter build boot history)).cfg.value field = _
    rw [(weldTick_desk tick _).cfg]
    split_ifs
    · cases field with
      | workCnt => cases hreg
      | _ => rfl
    · rfl
  | modbusTick input =>
    have hstored := stored_modbusPass build input (stateAfter build boot history)
    have hboth : modbusSaves build input (stateAfter build boot history) = true := hsave
    rw [modbusSaves] at hboth
    cases hlink : (modbusPass build input (stateAfter build boot history)).2 with
    | none =>
      rw [hlink] at hboth
      cases hboth
    | some link =>
      rw [hlink] at hboth
      have hgate : gateClosed build (modbusPass build input (stateAfter build boot history)).1 =
          false := by
        simpa using (Bool.and_eq_true_iff.mp hboth).1
      obtain ⟨written, word, hpoint⟩ := after_point hlink
      show (appModbusTick build input (stateAfter build boot history)).cfg.value field = _
      rw [appModbusTick_eq_pass, finishPass, hlink]
      dsimp only
      by_cases hwritten : written = reg
      · subst hwritten
        have hrefused : written.takes word = false := by
          by_contra htakes
          rw [Bool.not_eq_false, ← hpoint.written] at htakes
          simp only [masterValue, hreg] at hmaster
          rw [if_pos ⟨Option.isSome_iff_exists.mpr ⟨link, hlink⟩, hgate, hpoint.last, htakes⟩]
            at hmaster
          cases hmaster
        rw [value_field hreg, value_field hreg, ← hstored.1,
          applied_field hpoint hgate (reg_config hreg) link input.apply,
          normalized_refused hrefused, ite_self]
      · rw [(applied_isolated hpoint hgate link input.apply).cfg, value_withFieldsOf hreg hwritten,
          hstored.1]
  | _ => cases hsave

/-- A write of a master that stores nothing finds its value stored, and every other save finds
nothing pending: it would store of the live value what is stored already. -/
def SettledAt (build : Build) (field : StoredField) (call : Call) (s : Sys) : Prop :=
  if Saves build call s = true then
    masterValue build field call s = none →
      field.kept (s.cfg.value field) = storedValue s.fram field
  else ∀ value ∈ masterValue build field call s, storedValue s.fram field = value

instance (build : Build) (field : StoredField) (call : Call) (s : Sys) :
    Decidable (SettledAt build field call s) :=
  inferInstanceAs (Decidable (if Saves build call s = true then
    masterValue build field call s = none →
      field.kept (s.cfg.value field) = storedValue s.fram field
  else ∀ value ∈ masterValue build field call s, storedValue s.fram field = value))

/-! ### Sessions -/

section Session

variable (build : Build) (boot : BootIn) (base : List Call) (field : StoredField)

/-- The value CANCEL is to restore: the one at the start of the session, or the latest one a master
has written since. -/
def sessionValue : List Call → ℤ
  | [] => (stateAfter build boot base).cfg.value field
  | call :: past =>
    (masterValue build field call (stateAfter build boot (past ++ base))).getD (sessionValue past)

/-- The FRAM holds the session value. -/
def SessionStored : Past Call := fun session ↦
  storedValue (stateAfter build boot (session ++ base)).fram field =
    sessionValue build boot base field session

/-- Every call is settled. -/
def Settled : Past Call
  | [] => True
  | call :: past => SettledAt build field call (stateAfter build boot (past ++ base))

/-- A call of a session: its writes arrive, and it is not SAVE. -/
def InSession : Past Call
  | [] => True
  | call :: _ => call.bus.Writes ∧ call.savesKey = false

variable {build boot base field}

theorem session_flag (hflag : (stateAfter build boot base).fram 0 = framInitFlagMagic)
    {session : List Call} (hsession : always InSession session) :
    (stateAfter build boot (session ++ base)).fram 0 = framInitFlagMagic := by
  induction session with
  | nil => exact hflag
  | cons call past ih => exact (exec_stored build hsession.1.1 (ih hsession.2)).1

/-- One call keeps the session value stored exactly if it is settled. -/
theorem sessionStored_step {call : Call} {past : List Call} {reg : MbReg}
    (hreg : field.reg = some reg)
    (hflag : (stateAfter build boot (past ++ base)).fram 0 = framInitFlagMagic)
    (hcall : InSession (call :: past)) (hstored : SessionStored build boot base field past) :
    SessionStored build boot base field (call :: past) ↔
      Settled build boot base field (call :: past) := by
  have hafter := (exec_stored build hcall.1 hflag).2 field
  have hstate : stateAfter build boot (call :: past ++ base) =
      call.exec build (stateAfter build boot (past ++ base)) := rfl
  rw [SessionStored, hstate, hafter, Settled, SettledAt, sessionValue]
  rw [SessionStored] at hstored
  cases hmaster : masterValue build field call (stateAfter build boot (past ++ base)) with
  | some value =>
    rw [Option.getD_some]
    cases hsave : Saves build call (stateAfter build boot (past ++ base)) with
    | true =>
      obtain ⟨hvalue, hkept⟩ := master_saved build boot (past ++ base) hmaster hsave
      rw [if_pos rfl, if_pos rfl, hvalue, hkept]
      exact iff_of_true rfl (by rintro ⟨⟩)
    | false =>
      rw [if_neg Bool.false_ne_true, if_neg Bool.false_ne_true]
      constructor
      · rintro h _ ⟨⟩
        exact h
      · exact fun h ↦ h value rfl
  | none =>
    rw [Option.getD_none, ← hstored]
    cases hsave : Saves build call (stateAfter build boot (past ++ base)) with
    | true =>
      rw [if_pos rfl, if_pos rfl,
        other_saved build boot (past ++ base) hreg hcall.2 hmaster hsave]
      exact ⟨fun h _ ↦ h, fun h ↦ h rfl⟩
    | false =>
      rw [if_neg Bool.false_ne_true, if_neg Bool.false_ne_true]
      exact iff_of_true rfl (by rintro value ⟨⟩)

/-- Assumes: a session that starts in a reachable state of an initialised controller, with the live
value of a process parameter the stored one; its writes arrive, and SAVE is not pressed. Then the
FRAM holds the session value all along, and no pending edit is stored, exactly if all calls are
settled; and in that case every CANCEL that reads the parameter restores its session value. -/
theorem rollback_iff (build : Build) (boot : BootIn) (base session : List Call)
    {field : StoredField} {reg : MbReg} (hreg : field.reg = some reg)
    (hflag : (stateAfter build boot base).fram 0 = framInitFlagMagic)
    (hentry : (stateAfter build boot base).cfg.value field =
      storedValue (stateAfter build boot base).fram field)
    (hsession : always InSession session) :
    (always (SessionStored build boot base field) session ↔
        always (Settled build boot base field) session) ∧
      (always (Settled build boot base field) session → ∀ cancel : Call, cancel.loads = true →
        cancel.bus.answers field = true →
          (stateAfter build boot (cancel :: session ++ base)).cfg.value field =
            sessionValue build boot base field session) := by
  have hstart : SessionStored build boot base field [] := hentry.symm
  have hnow : ∀ history, always (SessionStored build boot base field) history →
      SessionStored build boot base field history := by
    intro history halways
    cases history with
    | nil => exact hstart
    | cons call past => exact halways.1
  have hiff : always (SessionStored build boot base field) session ↔
      always (Settled build boot base field) session := by
    induction session with
    | nil => exact Iff.rfl
    | cons call past ih =>
      have hpast := ih hsession.2
      have hstep (hstored : SessionStored build boot base field past) :=
        sessionStored_step hreg (session_flag hflag hsession.2) hsession.1 hstored
      constructor
      · intro h
        exact ⟨(hstep (hnow past h.2)).mp h.1, hpast.mp h.2⟩
      · intro h
        have hkept := hpast.mpr h.2
        exact ⟨(hstep (hnow past hkept)).mpr h.1, hkept⟩
  refine ⟨hiff, fun hsettled cancel hloads hanswers ↦ ?_⟩
  have hstored : SessionStored build boot base field session := hnow session (hiff.mpr hsettled)
  have hstate : stateAfter build boot (cancel :: session ++ base) =
      cancel.exec build (stateAfter build boot (session ++ base)) := rfl
  rw [hstate, (exec_load build hloads _).1, value_loaded cancel.bus (session_flag hflag hsession),
    if_pos hanswers]
  exact hstored

end Session

/-- In one iteration the operator enters the setup and takes DELAY1 to 70, and a master writes a
parameter; in the next one the operator presses CANCEL. -/
def cancelRun (request : List UInt8) : SuperloopRun where
  done := [{ serialIter 10 false request with
    frames := [keyFrame 0x1100 1 10, keyFrame 0x1203 70 10] }]
  current := { quietIter 20 with frames := [keyFrame 0x1050 0 20] }
  made := 1

/-- The calls from the entry of the setup to CANCEL. -/
def editSession (request : List UInt8) : List Call := (cancelRun request).history.tail.take 12

/-- The entry of the setup. -/
def setupEntry : List Call := [.frame (keyFrame 0x1100 1 10)]

theorem cancelRun_history (request : List UInt8) : (cancelRun request).history =
    .frame (keyFrame 0x1050 0 20) :: editSession request ++ setupEntry := rfl

theorem editSession_inSession (request : List UInt8) :
    always InSession (editSession request ++ []) := by
  refine always_append (controller stdBuild serialBoot)
    (fun call _ ↦ call.bus.writeOk = I2cBus.sound.writeOk ∧ call.savesKey = false)
    (fun _ _ h ↦ h) ?_ trivial
  refine ⟨⟨rfl, rfl⟩, ⟨rfl, rfl⟩, ⟨rfl, rfl⟩, ⟨rfl, rfl⟩, ⟨rfl, rfl⟩, ⟨rfl, rfl⟩, ⟨rfl, rfl⟩,
    ⟨rfl, rfl⟩, ⟨rfl, rfl⟩, ⟨rfl, rfl⟩, ⟨rfl, rfl⟩, ⟨rfl, rfl⟩, trivial⟩

/-- The master writes DELAY1 = 60 itself, and CANCEL restores that. -/
theorem cancel_restoresMaster :
    (stateAfter stdBuild serialBoot (cancelRun (fc06 0x0A 60)).history).cfg.value .delay1 =
      sessionValue stdBuild serialBoot setupEntry .delay1 (editSession (fc06 0x0A 60)) := by
  have hsession := editSession_inSession (fc06 0x0A 60)
  have hsettled : always (Settled stdBuild serialBoot setupEntry .delay1)
      (editSession (fc06 0x0A 60) ++ []) := by
    refine always_append (runFrom stdBuild (stateAfter stdBuild serialBoot setupEntry))
      (SettledAt stdBuild .delay1) (fun call past h ↦ ?_) (by decide +kernel) trivial
    have hstate : stateAfter stdBuild serialBoot (past ++ setupEntry) =
        (runFrom stdBuild (stateAfter stdBuild serialBoot setupEntry)).after past :=
      (controller stdBuild serialBoot).after_append past setupEntry
    rw [Settled, hstate]
    exact h
  rw [List.append_nil] at hsession hsettled
  rw [cancelRun_history]
  exact (rollback_iff stdBuild serialBoot setupEntry (editSession (fc06 0x0A 60))
    (show StoredField.delay1.reg = some .delay1 from rfl) (by decide +kernel) (by decide +kernel)
    hsession).2 hsettled (.frame (keyFrame 0x1050 0 20)) (by decide +kernel) (by decide +kernel)

/-- The master writes DELAY2, and CANCEL keeps the edit of DELAY1. -/
theorem cancel_keepsEdit :
    always InSession (editSession (fc06 0x0B 60)) ∧
      (Call.frame (keyFrame 0x1050 0 20)).loads = true ∧
      (stateAfter stdBuild serialBoot setupEntry).cfg.value .delay1 = 0 ∧
      storedValue (stateAfter stdBuild serialBoot setupEntry).fram .delay1 = 0 ∧
      sessionValue stdBuild serialBoot setupEntry .delay1 (editSession (fc06 0x0B 60)) = 0 ∧
      storedValue (stateAfter stdBuild serialBoot (cancelRun (fc06 0x0B 60)).history).fram
        .delay1 = 70 ∧
      (stateAfter stdBuild serialBoot (cancelRun (fc06 0x0B 60)).history).cfg.value .delay1 =
        70 := by
  have hsession := editSession_inSession (fc06 0x0B 60)
  rw [List.append_nil] at hsession
  refine ⟨hsession, ?_, ?_, ?_, ?_, ?_, ?_⟩ <;> decide +kernel

end UsCtrl
