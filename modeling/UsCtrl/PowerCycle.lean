import UsCtrl.FieldSource

/-!
# Power cycles

The board is switched off between any two calls of the loop, and boots again from the FRAM it left:
its life is a list of sessions (`Session`), each of which boots on what the older ones have stored.

`power_cycles` says what survives on an initialised FRAM whose writes arrive: each of the 38 records
holds what the newest save of all sessions stored, and a boot comes up with it, or with the factory
default where its read fails. The work counter is saved with every cycle, so nothing of it is lost
at all as long as every boot reads it: `workCnt_conserved` says that it is, at any time of any
session, the number of cycles finished since it was last cleared.
-/

set_option autoImplicit false
set_option relaxedAutoImplicit false

namespace UsCtrl

/-! ### The work counter -/

/-- SAVE on a setup page of the standard model, with the counter reset ticked. -/
def FrameIn.clearsCount (f : FrameIn) (s : Sys) : Bool :=
  decide (f.key = some .dataSave) && decide (f.word = 1) && decide (setupGroup s = .std) &&
    s.lcd.tempCntReset

/-- A master writes 0 into the low word of the counter, behind an open gate. -/
def modbusClearsCount (build : Build) (input : ModbusTickIn) (s : Sys) : Bool :=
  match appliedRequest build input s with
  | some (_, reg, value) => decide (reg = .workCntL) && decide (value = 0)
  | none => false

/-- The call clears the work counter. -/
def Call.clearsCount (build : Build) (call : Call) (s : Sys) : Bool :=
  match call with
  | .frame f => f.clearsCount s
  | .modbusTick input => modbusClearsCount build input s
  | _ => false

/-- Assumes: the gate is open to a 0 for the low word of the counter. Then the counter is 0. -/
theorem applied_clears {build : Build} {sensDn : Bool} {s : Sys}
    (hpoint : ApplyPoint build sensDn .workCntL 0 s) (hgate : gateClosed build s = false)
    (link : MbLink) (input : ApplyIn) :
    (appModbusApplyWrites build link input s).cfg.workCnt = 0 := by
  rw [applied_cfg hgate]
  rcases pickedBranch_cases hpoint.counted link input with ⟨rule, hrule, -, hpicked⟩ |
    ⟨hclosed, hpicked⟩
  · obtain rfl : workCntRule = rule := Option.some.inj hrule
    rw [hpicked]
    rfl
  · -- the branch is only closed to a counter that is 0 already
    have hguard := hclosed workCntRule rfl
    rw [hpicked, (stagedScan_frame .workCntL input.tStage _).unsaved rfl]
    simpa [workCntRule, hpoint.counted.last, hpoint.counted.written] using hguard

/-- Along a run a master's request keeps the counter, or clears it. -/
theorem modbusTick_workCnt (build : Build) (boot : BootIn) (history : List Call)
    (input : ModbusTickIn) :
    (appModbusTick build input (stateAfter build boot history)).cfg.workCnt =
      if modbusClearsCount build input (stateAfter build boot history) then 0
      else (stateAfter build boot history).cfg.workCnt := by
  have hstored := (stored_modbusPass build input (stateAfter build boot history)).1
  rw [appModbusTick_eq_pass, finishPass]
  cases hlink : (modbusPass build input (stateAfter build boot history)).2 with
  | none =>
    have hrequest : modbusClearsCount build input (stateAfter build boot history) = false := by
      simp [modbusClearsCount, appliedRequest, hlink]
    rw [hrequest, if_neg Bool.false_ne_true]
    exact congrArg AppConfig.workCnt hstored
  | some link =>
    obtain ⟨reg, value, hpoint⟩ := after_point hlink
    have hrequest : modbusClearsCount build input (stateAfter build boot history) =
        (!gateClosed build (modbusPass build input (stateAfter build boot history)).1 &&
          (decide (reg = .workCntL) && decide (value = 0))) := by
      have hwritten := hpoint.written
      unfold modbusClearsCount appliedRequest
      simp only [hlink, hpoint.last, hwritten]
      cases gateClosed build (modbusPass build input (stateAfter build boot history)).1 <;> rfl
    rw [hrequest, ← hstored]
    generalize (modbusPass build input (stateAfter build boot history)).1 = mid at hpoint
    dsimp only
    cases hgate : gateClosed build mid with
    | true =>
      rw [appModbusApplyWrites, hgate, if_pos rfl, (stored_gateRejectBody _).1]
      rfl
    | false =>
      have hisolated := applied_isolated hpoint hgate link input.apply
      rw [Bool.not_false, Bool.true_and]
      by_cases hreg : reg = .workCntL
      · subst hreg
        rw [decide_eq_true rfl, Bool.true_and]
        by_cases hzero : value = 0
        · rw [decide_eq_true hzero, if_pos rfl]
          exact applied_clears (hzero ▸ hpoint) hgate link input.apply
        · rw [decide_eq_false hzero, if_neg Bool.false_ne_true]
          exact congrArg AppConfig.workCnt (hisolated.count rfl hzero)
      · rw [decide_eq_false hreg, Bool.false_and, if_neg Bool.false_ne_true, hisolated.cfg]
        cases reg <;> first | rfl | exact absurd rfl hreg

/-- Along a run a call other than CANCEL clears the counter, counts a cycle, or keeps it. -/
theorem exec_workCnt (build : Build) (boot : BootIn) (history : List Call) {call : Call}
    (hloads : call.loads = false) :
    (stateAfter build boot (call :: history)).cfg.workCnt =
      if call.clearsCount build (stateAfter build boot history) then 0
      else if call.countsCycle (stateAfter build boot history)
        then ((stateAfter build boot history).cfg.workCnt + 1) % 2 ^ 32
      else (stateAfter build boot history).cfg.workCnt := by
  show (call.exec build (stateAfter build boot history)).cfg.workCnt = _
  by_cases hoff : call.offDesk = true
  · rw [exec_cfg build hoff]
    cases call <;> first | rfl | cases hoff
  · cases call with
    | frame f =>
      show (appLcdInputDispatch f (stateAfter build boot history)).cfg.workCnt = _
      generalize stateAfter build boot history = s
      show _ = if f.clearsCount s = true then 0 else s.cfg.workCnt
      unfold appLcdInputDispatch FrameIn.clearsCount
      cases hkey : f.key with
      | none => rfl
      | some key =>
        by_cases hsave : key = .dataSave
        · subst hsave
          have hword : f.word = 1 := by
            by_contra hother
            exact Bool.false_ne_true (hloads.symm.trans
              (Bool.and_eq_true_iff.mpr ⟨decide_eq_true hkey, decide_eq_true hother⟩))
          show (if f.word = 1 then dataSaveCommit f.bus f.tPage s
            else dataSaveCancel f.bus f.tPage s).cfg.workCnt = _
          rw [if_pos hword, dataSaveCommit, changePage_cfg]
          show (dataSaveGroup s).cfg.workCnt = _
          rw [dataSaveGroup_workCnt]
          simp [hword]
        · show (panelKeyHandler key f.word f s).cfg.workCnt = _
          rw [panelKey_workCnt hsave]
          simp [hsave]
    | weldTick tick =>
      show (appWeldTick tick (stateAfter build boot history)).cfg.workCnt = _
      rw [(weldTick_desk tick _).cfg]
      show _ = if (weldEdges (.weldTick tick) _).cycleDone = true then _ else _
      split_ifs <;> rfl
    | ethTick tick =>
      obtain ⟨ip, nm, gw, hcfg⟩ := (ethTick_cfg tick (stateAfter build boot history)).1
      have hcount := congrArg AppConfig.workCnt hcfg
      exact hcount
    | modbusTick input => exact modbusTick_workCnt build boot history input
    | _ => exact absurd rfl hoff

/-- A call that neither saves nor loads keeps the counter. -/
theorem workCnt_unsaved (build : Build) (boot : BootIn) (history : List Call) {call : Call}
    (hloads : call.loads = false)
    (hsave : Saves build call (stateAfter build boot history) = false) :
    (stateAfter build boot (call :: history)).cfg.workCnt =
      (stateAfter build boot history).cfg.workCnt := by
  have hexec := exec_workCnt build boot history hloads
  cases call with
  | frame f =>
    have hkept : f.clearsCount (stateAfter build boot history) = false := by
      have hunsaved : (decide (f.key = some .dataSave) && decide (f.word = 1)) = false := hsave
      rw [FrameIn.clearsCount, hunsaved]
      rfl
    rwa [show (Call.frame f).clearsCount build (stateAfter build boot history) = false from hkept]
      at hexec
  | weldTick tick =>
    rwa [show (Call.weldTick tick).countsCycle (stateAfter build boot history) = false from hsave]
      at hexec
  | modbusTick input =>
    exact congrArg AppConfig.workCnt ((modbusTick_desk build input _).calm hsave).1
  | _ => exact hexec

/-! ### Sessions -/

/-- The board between two power cuts: how it boots, and its calls, newest first. The FRAM is the one
that the session before has left. -/
structure Session where
  boot : BootIn
  calls : List Call

section Board

variable (build : Build) (first : Fram)

/-- The FRAM after a list of sessions, newest first. -/
def framAfter : List Session → Fram
  | [] => first
  | session :: older =>
    (stateAfter build { session.boot with fram := framAfter older } session.calls).fram

/-- The boot of a session on what the older ones have left. -/
def bootOn (session : Session) (older : List Session) : BootIn :=
  { session.boot with fram := framAfter build first older }

/-- The controller in the newest session. -/
def boardAfter (session : Session) (older : List Session) : Sys :=
  stateAfter build (bootOn build first session older) session.calls

/-- All writes of a session arrive. -/
def Session.Writes (session : Session) : Prop :=
  session.boot.bus.Writes ∧ ∀ call ∈ session.calls, call.bus.Writes

/-- The reads of the counter answer, at boot and at every CANCEL. -/
def Session.ReadsCount (session : Session) : Prop :=
  session.boot.bus.answers .workCnt = true ∧
    ∀ call ∈ session.calls, call.loads = true → call.bus.answers .workCnt = true

/-! ### The records -/

/-- What a session leaves in a record that held `base`: the newest save decides. -/
def savedIn (field : StoredField) (boot : BootIn) (base : ℤ) : List Call → ℤ
  | [] => base
  | call :: past =>
    if Saves build call (stateAfter build boot past)
    then field.kept ((stateAfter build boot (call :: past)).cfg.value field)
    else savedIn field boot base past

/-- What all sessions leave in a record. -/
def recordAfter (field : StoredField) : List Session → ℤ
  | [] => storedValue first field
  | session :: older =>
    savedIn build field (bootOn build first session older) (recordAfter field older) session.calls

/-- Assumes: the FRAM of the boot is initialised and the writes arrive. -/
theorem savedIn_stored (boot : BootIn) (hflag : boot.fram 0 = framInitFlagMagic)
    (hboot : boot.bus.Writes) (calls : List Call) (hcalls : ∀ call ∈ calls, call.bus.Writes) :
    (stateAfter build boot calls).fram 0 = framInitFlagMagic ∧
      ∀ field, storedValue (stateAfter build boot calls).fram field =
        savedIn build field boot (storedValue boot.fram field) calls := by
  induction calls with
  | nil =>
    have hloaded : (stateAfter build boot []).fram = (appConfigLoad boot.bus boot.fram).fram :=
      (boot_loaded build boot).2
    rw [hloaded]
    exact ⟨(flag_kept boot.bus hflag hboot appConfigFactoryDefaults).2,
      storedValue_loaded hboot hflag⟩
  | cons call past ih =>
    rw [List.forall_mem_cons] at hcalls
    obtain ⟨hpast, hstored⟩ := ih hcalls.2
    obtain ⟨hkept, hnow⟩ := exec_stored build hcalls.1 hpast
    refine ⟨hkept, fun field ↦ (hnow field).trans ?_⟩
    rw [savedIn, hstored field]
    rfl

/-- Assumes: the FRAM is initialised and the writes of all sessions arrive. Every record then holds
what the newest save has stored in it, and a boot takes it over if its read answers. -/
theorem power_cycles (hflag : first 0 = framInitFlagMagic) (sessions : List Session)
    (hwrites : ∀ session ∈ sessions, session.Writes) (field : StoredField) :
    storedValue (framAfter build first sessions) field = recordAfter build first field sessions ∧
      ∀ next : Session, (boardAfter build first ⟨next.boot, []⟩ sessions).cfg.value field =
        if next.boot.bus.answers field then recordAfter build first field sessions
        else appConfigFactoryDefaults.value field := by
  have hstored : framAfter build first sessions 0 = framInitFlagMagic ∧
      storedValue (framAfter build first sessions) field =
        recordAfter build first field sessions := by
    induction sessions with
    | nil => exact ⟨hflag, rfl⟩
    | cons session older ih =>
      rw [List.forall_mem_cons] at hwrites
      obtain ⟨holder, hrecord⟩ := ih hwrites.2
      have hsession := savedIn_stored build (bootOn build first session older) holder
        hwrites.1.1 session.calls hwrites.1.2
      refine ⟨hsession.1, (hsession.2 field).trans ?_⟩
      rw [recordAfter, ← hrecord]
      rfl
  refine ⟨hstored.2, fun next ↦ ?_⟩
  have hloaded := (boot_loaded build (bootOn build first next sessions)).1
  rw [← hstored.2]
  exact (congrArg (fun cfg : AppConfig ↦ cfg.value field) hloaded).trans
    (value_loaded next.boot.bus hstored.1 field)

/-- A session in which DELAY1 is set to 33 and saved, then one in which it is set to 44 before the
power fails. -/
def delaySessions : List Session :=
  [⟨serialBoot, [.frame (keyFrame 0x1203 44 10)]⟩,
   ⟨serialBoot, [.frame (keyFrame 0x1050 1 20), .frame (keyFrame 0x1203 33 10)]⟩]

theorem delaySessions_sound :
    ∀ session ∈ delaySessions, session.Writes ∧ session.ReadsCount := by
  simp only [delaySessions, List.forall_mem_cons, List.not_mem_nil, false_implies, implies_true,
    and_true, Session.Writes, Session.ReadsCount]
  exact ⟨⟨⟨rfl, rfl⟩, rfl, by decide⟩, ⟨⟨rfl, rfl, rfl⟩, rfl, by decide, by decide⟩⟩

theorem power_cycles_delay :
    storedValue (framAfter stdBuild serialBoot.fram delaySessions) .delay1 =
        recordAfter stdBuild serialBoot.fram .delay1 delaySessions ∧
      ∀ next : Session,
        (boardAfter stdBuild serialBoot.fram ⟨next.boot, []⟩ delaySessions).cfg.value .delay1 =
          if next.boot.bus.answers .delay1
          then recordAfter stdBuild serialBoot.fram .delay1 delaySessions
          else appConfigFactoryDefaults.value .delay1 :=
  power_cycles stdBuild serialBoot.fram rfl delaySessions
    (fun session hmem ↦ (delaySessions_sound session hmem).1) .delay1

/-- The edit that was not saved is gone. -/
example : recordAfter stdBuild serialBoot.fram .delay1 delaySessions = 33 := by decide +kernel

/-! ### The counter -/

/-- The count that the FRAM holds. -/
def storedCount (fram : Fram) : ℕ := (storedConfig (fun _ ↦ true) fram).workCnt

/-- What a session makes of a count: cycles are counted, and some calls clear it. -/
def countIn (boot : BootIn) (base : ℕ) : List Call → ℕ
  | [] => base
  | call :: past =>
    if call.clearsCount build (stateAfter build boot past) then 0
    else if call.countsCycle (stateAfter build boot past)
      then (countIn boot base past + 1) % 2 ^ 32
    else countIn boot base past

/-- The cycles finished in all sessions since the count was last cleared. -/
def countAfter : List Session → ℕ
  | [] => storedCount first
  | session :: older =>
    countIn build (bootOn build first session older) (countAfter older) session.calls

/-- The live counter and the stored one are both the count. -/
structure CountKept (count : ℕ) (s : Sys) : Prop where
  flag : s.fram 0 = framInitFlagMagic
  live : s.cfg.workCnt = count
  stored : storedValue s.fram .workCnt = (count : ℤ)
  bound : count < 2 ^ 32

theorem countKept_step {boot : BootIn} {call : Call} {past : List Call} {count : ℕ}
    (hwrites : call.bus.Writes) (hreads : call.loads = true → call.bus.answers .workCnt = true)
    (hpast : CountKept count (stateAfter build boot past)) :
    CountKept
      (if call.clearsCount build (stateAfter build boot past) then 0
        else if call.countsCycle (stateAfter build boot past) then (count + 1) % 2 ^ 32
        else count)
      (stateAfter build boot (call :: past)) := by
  obtain ⟨hflag, hstored⟩ := exec_stored build hwrites hpast.flag
  have hnow := hstored .workCnt
  cases hloads : call.loads with
  | true =>
    have hidle : call.clearsCount build (stateAfter build boot past) = false ∧
        call.countsCycle (stateAfter build boot past) = false := by
      cases call with
      | frame f =>
        obtain ⟨-, hword⟩ : f.key = some .dataSave ∧ f.word ≠ 1 := by
          simpa [Call.loads] using hloads
        exact ⟨by simp [Call.clearsCount, FrameIn.clearsCount, hword], rfl⟩
      | _ => cases hloads
    rw [hidle.1, hidle.2, if_neg Bool.false_ne_true, if_neg Bool.false_ne_true]
    rw [saves_of_loads build hloads, if_neg Bool.false_ne_true, hpast.stored] at hnow
    have hlive : (((stateAfter build boot (call :: past)).cfg.workCnt : ℕ) : ℤ) = (count : ℤ) := by
      have hvalue := value_loaded call.bus hpast.flag .workCnt
      rw [hreads hloads, if_pos rfl, hpast.stored, ← (exec_load build hloads _).1] at hvalue
      exact hvalue
    exact ⟨hflag, Int.ofNat.inj hlive, hnow, hpast.bound⟩
  | false =>
    have hlive := exec_workCnt build boot past hloads
    rw [hpast.live] at hlive
    generalize hcount : (if call.clearsCount build (stateAfter build boot past) then 0
      else if call.countsCycle (stateAfter build boot past) then (count + 1) % 2 ^ 32
      else count) = next at hlive ⊢
    have hbound : next < 2 ^ 32 := by
      rw [← hcount]
      split_ifs
      · exact Nat.two_pow_pos 32
      · exact Nat.mod_lt _ (Nat.two_pow_pos 32)
      · exact hpast.bound
    refine ⟨hflag, hlive, ?_, hbound⟩
    cases hsave : Saves build call (stateAfter build boot past) with
    | true =>
      rw [hsave, if_pos rfl] at hnow
      have hvalue : ((stateAfter build boot (call :: past)).cfg.value .workCnt : ℤ) = (next : ℤ) :=
        congrArg Int.ofNat hlive
      refine (hnow.trans (congrArg (StoredField.kept .workCnt) hvalue)).trans ?_
      show (next : ℤ) % 4294967296 = next
      omega
    | false =>
      rw [hsave, if_neg Bool.false_ne_true] at hnow
      rw [← hlive, workCnt_unsaved build boot past hloads hsave, hpast.live]
      exact hnow.trans hpast.stored

/-- Assumes: the boot finds `base` stored, and the transfers of the session arrive. -/
theorem countIn_kept (boot : BootIn) {base : ℕ} (hflag : boot.fram 0 = framInitFlagMagic)
    (hbase : storedValue boot.fram .workCnt = (base : ℤ)) (hbound : base < 2 ^ 32)
    (hwrites : boot.bus.Writes) (hread : boot.bus.answers .workCnt = true) (calls : List Call)
    (hcalls : ∀ call ∈ calls,
      call.bus.Writes ∧ (call.loads = true → call.bus.answers .workCnt = true)) :
    CountKept (countIn build boot base calls) (stateAfter build boot calls) := by
  induction calls with
  | nil =>
    obtain ⟨hcfg, hfram⟩ := boot_loaded build boot
    have hlive : (((stateAfter build boot []).cfg.workCnt : ℕ) : ℤ) = (base : ℤ) := by
      have hvalue := value_loaded boot.bus hflag .workCnt
      rw [hread, if_pos rfl, hbase, ← hcfg] at hvalue
      exact hvalue
    have hstored := storedValue_loaded hwrites hflag .workCnt
    refine ⟨?_, Int.ofNat.inj hlive, ?_, hbound⟩
    · exact (congrFun hfram 0).trans (flag_kept boot.bus hflag hwrites appConfigFactoryDefaults).2
    · exact ((congrArg (storedValue · .workCnt) hfram).trans hstored).trans hbase
  | cons call past ih =>
    rw [List.forall_mem_cons] at hcalls
    exact countKept_step build hcalls.1.1 hcalls.1.2 (ih hcalls.2)

/-- Assumes: what the older sessions have left holds their count. So does the newest session. -/
theorem session_kept (session : Session) (older : List Session)
    (hsound : session.Writes ∧ session.ReadsCount)
    (holder : framAfter build first older 0 = framInitFlagMagic ∧
      storedValue (framAfter build first older) .workCnt = (countAfter build first older : ℤ) ∧
      countAfter build first older < 2 ^ 32) :
    CountKept (countAfter build first (session :: older))
      (boardAfter build first session older) := by
  obtain ⟨⟨hboot, hwrites⟩, hread, hreads⟩ := hsound
  exact countIn_kept build (bootOn build first session older) holder.1 holder.2.1 holder.2.2 hboot
    hread session.calls fun call hcall ↦ ⟨hwrites call hcall, hreads call hcall⟩

theorem older_kept (hflag : first 0 = framInitFlagMagic) (hbytes : ByteImage first)
    (older : List Session) (hsound : ∀ other ∈ older, other.Writes ∧ other.ReadsCount) :
    framAfter build first older 0 = framInitFlagMagic ∧
      storedValue (framAfter build first older) .workCnt = (countAfter build first older : ℤ) ∧
      countAfter build first older < 2 ^ 32 := by
  induction older with
  | nil =>
    have hkept : (storedCount first : ℤ) % 4294967296 = storedCount first :=
      kept_stored hbytes .workCnt
    refine ⟨hflag, rfl, ?_⟩
    show storedCount first < 2 ^ 32
    omega
  | cons session rest ih =>
    rw [List.forall_mem_cons] at hsound
    have hkept := session_kept build first session rest hsound.1 (ih hsound.2)
    exact ⟨hkept.flag, hkept.stored, hkept.bound⟩

/-- Assumes: the FRAM is initialised, and the writes and the reads of the counter arrive in all
sessions. At any time of the newest session the live counter and the stored one are the cycles
finished since the counter was last cleared, in whatever session that was. -/
theorem workCnt_conserved (hflag : first 0 = framInitFlagMagic) (hbytes : ByteImage first)
    (session : Session) (older : List Session)
    (hsound : ∀ other ∈ session :: older, other.Writes ∧ other.ReadsCount) :
    (boardAfter build first session older).cfg.workCnt =
        countAfter build first (session :: older) ∧
      storedCount (framAfter build first (session :: older)) =
        countAfter build first (session :: older) := by
  rw [List.forall_mem_cons] at hsound
  have hkept := session_kept build first session older hsound.1
    (older_kept build first hflag hbytes older hsound.2)
  exact ⟨hkept.live, Int.ofNat.inj hkept.stored⟩

/-- The serial board with a count of seven. -/
theorem workCnt_conserved_delay :
    let image : Fram := fun addr ↦ if addr = 4 then 7 else serialBoot.fram addr
    (boardAfter stdBuild image ⟨serialBoot, [.frame (keyFrame 0x1203 44 10)]⟩
          delaySessions.tail).cfg.workCnt = countAfter stdBuild image delaySessions ∧
      storedCount (framAfter stdBuild image delaySessions) =
        countAfter stdBuild image delaySessions :=
  workCnt_conserved stdBuild _ rfl
    (by intro addr; dsimp only [serialBoot]; split_ifs <;> decide) _ _ delaySessions_sound

end Board

end UsCtrl
