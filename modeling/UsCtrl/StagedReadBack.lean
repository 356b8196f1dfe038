import UsCtrl.Staging

/-!
# What a staged register shows

The mirror skips a staged register while its field is under edit, so that such a register shows the
last word written to it, whether the gate let the write through or turned it away. The buffer takes
the word only behind an open gate. `readBack_iff` compares the two: at a mirror pass every staged
register shows what a commit would apply exactly if each staged value is also the last word written
to its register. A write to a field under edit that the closed gate turns away breaks it
(`turnedAway_shown`).
-/

set_option autoImplicit false
set_option relaxedAutoImplicit false

namespace UsCtrl

open Foundation

/-! ### Staged cells through a tick -/

/-- Without an acquire `apply_config` leaves the registers alone. -/
theorem applyConfig_holding {build : Build} {sensDn : Bool} {s : Sys}
    (hkept : (lineWanted s.cfg && !lineHeld s) = false) :
    holding (applyConfig build sensDn s) = holding s := by
  have hwant : (decide (s.cfg.commMode = 0) && decide (s.cfg.commAddress ≠ 0)) =
      lineWanted s.cfg := rfl
  simp only [applyConfig, hwant, ← lineHeld_iff]
  cases hline : lineWanted s.cfg with
  | false => rfl
  | true =>
    rw [hline, Bool.true_and, Bool.not_eq_false'] at hkept
    rw [if_pos ⟨rfl, hkept⟩]
    split_ifs <;> rfl

/-- A tick that activates no link reaches its transports with the registers it found. -/
theorem modbusHead_holding {build : Build} {input : ModbusTickIn} {s : Sys}
    (hactivates : activatesLink s = false) : holding (modbusHead build input s) = holding s := by
  obtain ⟨hcfg, -, happlied, -, -⟩ := stageTick_link build input s
  have hline : (lineWanted s.cfg && !lineHeld s) = false :=
    (Bool.or_eq_false_iff.mp hactivates).1
  have hcore : (stageTick input.tStage (holdWdtBlock input.tHold
      (remoteEnStep build input.tGate input.remoteEnPin s))).modbus.core = s.modbus.core :=
    (holdWdtBlock_core _ _).trans (remoteEnStep_core _ _ _ _)
  refine (applyConfig_holding ?_).trans (congrArg MbCore.holding hcore)
  unfold lineHeld
  rw [hcfg, happlied]
  exact hline

theorem headClears_of_activates {input : ModbusTickIn} {lastMs : ℕ} {s : Sys}
    (hkept : ¬ headClears input lastMs s) : activatesLink s = false :=
  Bool.eq_false_iff.mpr fun h ↦ hkept (Or.inr h)

/-- What a staged register holds where the tick decodes its requests: the word it held while its
field stays under edit, else the live value. -/
theorem tickMirror_holding {build : Build} {input : ModbusTickIn} {s mirrored : Sys}
    (hmirrored : tickMirror build input s = some mirrored) (field : CfgStg) :
    holding mirrored field.reg =
      if (headStage input s).dirty field then holding s field.reg
      else stgMirrorVal s.cfg field := by
  have hstage : mirrored.modbus.stage = headStage input s := by
    rw [← tickMirror_stage build, hmirrored, Option.getD_some]
  have hcfg : mirrored.cfg = s.cfg := (stored_tickMirror hmirrored).1
  have hlive (t : Sys) (ht : mirrored = mirrorLive build input.sensDn t)
      (hcell : activatesLink s = false → holding t field.reg = holding s field.reg) :
      holding mirrored field.reg = if (headStage input s).dirty field then holding s field.reg
        else stgMirrorVal s.cfg field := by
    have hshown : mirrorValue build input.sensDn t field.reg = mirrorStaged field t := by
      cases field <;> rfl
    have hkept : t.modbus.stage = headStage input s := by
      rw [← hstage, ht]
      rfl
    have hsame : t.cfg = s.cfg := by
      rw [← hcfg, ht]
      rfl
    rw [ht, holding_mirrorLive, hshown, mirrorStaged, hkept, hsame]
    split_ifs with hdirty
    · rw [Option.getD_none]
      exact hcell (headClears_of_activates ((headStage_dirty input s field).mp hdirty).2)
    · rfl
  unfold tickMirror at hmirrored
  dsimp only at hmirrored
  split_ifs at hmirrored with howned hserver
  · refine hlive _ (Option.some.inj hmirrored).symm fun hactivates ↦ ?_
    have hleave : holding (tcpLeave (modbusHead build input s)) =
        holding (modbusHead build input s) := by
      unfold tcpLeave
      split_ifs <;> rfl
    rw [hleave, modbusHead_holding hactivates]
  · refine hlive _ (Option.some.inj hmirrored).symm fun hactivates ↦ ?_
    obtain ⟨hhead, heth, hactive, -, -⟩ := modbusHead_line build input s
    rw [hhead, heth] at hserver
    have hserves : s.modbus.tcpActive = true := by
      have hquiet := (Bool.or_eq_false_iff.mp hactivates).2
      rw [decide_eq_true hserver.1, hserver.2] at hquiet
      simpa using hquiet
    have henter : tcpEnter (modbusHead build input s) = modbusHead build input s := by
      unfold tcpEnter
      rw [hactive, if_pos hserves]
    rw [henter, modbusHead_holding hactivates]

/-! ### Writes along a run -/

/-- The FC 06 that a tick decodes, whatever the gate says to it: its register and value. -/
def decodedWrite (build : Build) (input : ModbusTickIn) (s : Sys) : Option (MbReg × ℕ) :=
  let pass := modbusPass build input s
  match pass.2, pass.1.modbus.core.lastWriteAddr with
  | some _, some reg => some (reg, holding pass.1 reg)
  | _, _ => none

/-- What a tick stages it has decoded. -/
theorem decodedWrite_of_staged {build : Build} {input : ModbusTickIn} {s : Sys} {field : CfgStg}
    {value : ℕ} (hstaged : stagedWrite build input s = some (field, value)) :
    decodedWrite build input s = some (field.reg, value) := by
  obtain ⟨⟨link, reg, word⟩, hrequest, hwrite⟩ := Option.bind_eq_some_iff.mp hstaged
  obtain ⟨written, hfield, heq⟩ := Option.map_eq_some_iff.mp hwrite
  obtain ⟨rfl, rfl⟩ := Prod.mk.inj heq
  obtain rfl := MbReg.reg_of_stagedField hfield
  unfold appliedRequest at hrequest
  dsimp only at hrequest
  split at hrequest
  · rename_i served last hlink hlast
    split_ifs at hrequest
    obtain ⟨-, rfl, rfl⟩ : served = link ∧ last = written.reg ∧ _ = word := by
      simpa using hrequest
    simp only [decodedWrite, hlink, hlast]
  · cases hrequest

/-- A decoded write to a staged register is staged, or turned away. -/
theorem staged_of_decodedWrite {build : Build} {input : ModbusTickIn} {s : Sys} {field : CfgStg}
    {value : ℕ} (hwrite : decodedWrite build input s = some (field.reg, value)) :
    stagedWrite build input s = some (field, value) ∨ appliedRequest build input s = none := by
  unfold decodedWrite at hwrite
  dsimp only at hwrite
  split at hwrite
  · rename_i link last hlink hlast
    obtain ⟨rfl, rfl⟩ := Prod.mk.inj (Option.some.inj hwrite)
    cases hgate : gateClosed build (modbusPass build input s).1 with
    | true =>
      right
      simp only [appliedRequest, hlink, hlast, hgate, if_true]
    | false =>
      left
      have hrequest : appliedRequest build input s = some (link, field.reg,
          holding (modbusPass build input s).1 field.reg) := by
        simp only [appliedRequest, hlink, hlast, hgate, Bool.false_eq_true, if_false]
      simp [stagedWrite, hrequest]
  · cases hwrite

/-- A staged register behind a tick holds the word the tick has decoded for it. -/
theorem after_written {build : Build} {boot : BootIn} {input : ModbusTickIn} {past : List Call}
    {field : CfgStg} {value : ℕ}
    (hwrite : decodedWrite build input (stateAfter build boot past) = some (field.reg, value)) :
    holding (stateAfter build boot (.modbusTick input :: past)) field.reg = value := by
  cases hlink : (modbusPass build input (stateAfter build boot past)).2 with
  | none =>
    simp only [decodedWrite, hlink] at hwrite
    cases hwrite
  | some link =>
    obtain ⟨reg, word, hpoint⟩ := after_point hlink
    simp only [decodedWrite, hlink, hpoint.last] at hwrite
    obtain ⟨rfl, rfl⟩ := Prod.mk.inj (Option.some.inj hwrite)
    rw [stateAfter_apply hlink, appModbusApplyWrites_holding hpoint, if_neg]
    cases field <;> exact fun h ↦ Bool.false_ne_true h.1

/-- Assumes: a field is under edit behind the head of a tick that decodes no write to its register.
Then the register keeps its word. -/
theorem after_kept {build : Build} {boot : BootIn} {input : ModbusTickIn} {past : List Call}
    {field : CfgStg}
    (hdirty : (headStage input (stateAfter build boot past)).dirty field = true)
    (hsilent : ∀ value,
      decodedWrite build input (stateAfter build boot past) ≠ some (field.reg, value)) :
    holding (stateAfter build boot (.modbusTick input :: past)) field.reg =
      holding (stateAfter build boot past) field.reg := by
  cases hlink : (modbusPass build input (stateAfter build boot past)).2 with
  | none =>
    have hafter : stateAfter build boot (.modbusTick input :: past) =
        (modbusPass build input (stateAfter build boot past)).1 := by
      change appModbusTick build input (stateAfter build boot past) = _
      rw [appModbusTick_eq_pass, finishPass, hlink]
    rw [hafter]
    rcases modbusPass_readOnly hlink with ⟨mirrored, hmirrored, hread⟩ | ⟨-, hleave⟩
    · rw [holding_readOnly hread, tickMirror_holding hmirrored, if_pos hdirty]
    · have hcells : holding (tcpLeave (modbusHead build input (stateAfter build boot past))) =
          holding (modbusHead build input (stateAfter build boot past)) := by
        unfold tcpLeave
        split_ifs <;> rfl
      rw [hleave, hcells, modbusHead_holding
        (headClears_of_activates ((headStage_dirty _ _ field).mp hdirty).2)]
  | some link =>
    obtain ⟨reg, word, hpoint⟩ := after_point hlink
    obtain ⟨mirrored, hmirrored, hwrote⟩ := modbusPass_wrote hlink
    obtain ⟨reg', word', -, hlast, hcells⟩ := hwrote.holding
    obtain rfl := Option.some.inj (hlast.symm.trans hpoint.last)
    have hother : field.reg ≠ reg' := by
      rintro rfl
      refine hsilent (holding (modbusPass build input (stateAfter build boot past)).1 field.reg) ?_
      simp only [decodedWrite, hlink, hlast]
    rw [stateAfter_apply hlink, appModbusApplyWrites_holding hpoint, if_neg, hcells,
      Function.update_of_ne hother, tickMirror_holding hmirrored, if_pos hdirty]
    cases field <;> exact fun h ↦ Bool.false_ne_true h.1

section Events

variable (build : Build) (boot : BootIn)

/-- The newest call decodes a write of a value to the register of a field. -/
def writes (field : CfgStg) (value : ℕ) : Past Call := newest build boot fun call s _ ↦
  match call with
  | .modbusTick input => decodedWrite build input s = some (field.reg, value)
  | _ => False

/-- The value is the last one written to the register of the field. -/
def WrittenAs (field : CfgStg) (value : ℕ) : Past Call :=
  since (fun h ↦ ∀ other, ¬ writes build boot field other h) (writes build boot field value)

/-- The newest call is no tick in which the closed gate turns away a write to a field under edit, of
another value than the staged one. -/
def sparesEdits : Past Call
  | [] => True
  | call :: past =>
    match call with
    | .modbusTick input => ∀ field value, StagedLive build boot input past field value →
      ∀ other, decodedWrite build input (stateAfter build boot past) = some (field.reg, other) →
        appliedRequest build input (stateAfter build boot past) = none → other = value
    | _ => True

variable {build boot}

/-- A field under edit shows the last value written to its register. -/
theorem written_of_dirty (history : List Call) (field : CfgStg)
    (hdirty : (stateAfter build boot history).modbus.stage.dirty field = true) :
    WrittenAs build boot field (holding (stateAfter build boot history) field.reg) history := by
  induction history with
  | nil =>
    have hclean : (stateAfter build boot []).modbus.stage.dirty field = false :=
      congrArg (fun stage ↦ stage.dirty field) (boot_stage build boot)
    exact absurd (hclean.symm.trans hdirty) Bool.false_ne_true
  | cons call past ih =>
    by_cases hkind : call.kind = .modbus
    · cases call with
      | modbusTick input =>
        by_cases hwrite : ∃ value, decodedWrite build input (stateAfter build boot past) =
            some (field.reg, value)
        · obtain ⟨value, hwrite⟩ := hwrite
          rw [after_written hwrite]
          exact Or.inl hwrite
        · have hsilent (value : ℕ) : decodedWrite build input (stateAfter build boot past) ≠
              some (field.reg, value) := fun h ↦ hwrite ⟨value, h⟩
          have hstep := @stage_step build boot input past field
            ((stateAfter build boot (.modbusTick input :: past)).modbus.stage.val field)
          dsimp only at hstep
          rcases hstep.mp ⟨hdirty, rfl⟩ with hstaged | ⟨-, hclears, hbefore, -⟩
          · exact absurd (decodedWrite_of_staged hstaged) (hsilent _)
          · have hhead : (headStage input (stateAfter build boot past)).dirty field = true :=
              (headStage_dirty _ _ _).mpr ⟨hbefore, fun h ↦ hclears (Or.inl h)⟩
            rw [after_kept hhead hsilent]
            exact Or.inr ⟨hsilent, ih hbefore⟩
      | _ => cases hkind
    · have hkept : (stateAfter build boot (call :: past)).modbus =
          (stateAfter build boot past).modbus := exec_modbus build hkind _
      have hcells : holding (stateAfter build boot (call :: past)) =
          holding (stateAfter build boot past) := by
        unfold holding
        rw [hkept]
      have hsilent (value : ℕ) : ¬ writes build boot field value (call :: past) := by
        cases call <;> first | exact id | exact absurd rfl hkind
      rw [hkept] at hdirty
      rw [hcells]
      exact Or.inr ⟨hsilent, ih hdirty⟩

/-- Only one value was the last one written. -/
theorem writtenAs_unique {history : List Call} {field : CfgStg} {value other : ℕ}
    (hvalue : WrittenAs build boot field value history)
    (hother : WrittenAs build boot field other history) : value = other := by
  by_contra hne
  refine since_exclusive ?_ ?_ history hvalue hother
  · exact fun h hhold ↦ hhold other
  · intro h hnow
    refine ⟨fun hhold ↦ hhold value hnow, fun hlater ↦ hne ?_⟩
    cases h with
    | nil => exact hnow.elim
    | cons call past =>
      cases call with
      | modbusTick input =>
        have heq := Option.some.inj (hnow.symm.trans hlater)
        exact (Prod.mk.inj heq).2
      | _ => exact hnow.elim

/-- A run that spares the fields under edit writes to a staged register what it stages. -/
theorem written_of_spared {history : List Call} (hspares : always (sparesEdits build boot) history)
    {field : CfgStg} {value : ℕ} (hstaged : StagedAs build boot field value history) :
    WrittenAs build boot field value history := by
  induction history with
  | nil => exact absurd hstaged (since_nil _ _)
  | cons call past ih =>
    rcases hstaged with hnow | ⟨⟨hunstaged, hclears⟩, hpast⟩
    · cases call with
      | modbusTick input => exact Or.inl (decodedWrite_of_staged hnow)
      | _ => exact hnow.elim
    · by_cases hwrite : ∃ other, writes build boot field other (call :: past)
      · obtain ⟨other, hwrite⟩ := hwrite
        cases call with
        | modbusTick input =>
          rcases staged_of_decodedWrite hwrite with hnow | haway
          · exact absurd hnow (hunstaged other)
          · have hlive : StagedLive build boot input past field value :=
              ⟨hpast, fun hhead ↦ hclears (Or.inl hhead)⟩
            rw [← hspares.1 field value hlive other hwrite haway]
            exact Or.inl hwrite
        | _ => exact hwrite.elim
      · exact Or.inr ⟨fun other hother ↦ hwrite ⟨other, hother⟩, ih hspares.2 hpast⟩

end Events

/-! ### The contract of the read-back -/

/-- Every staged register shows what a commit would apply. -/
def ReadBack (s : Sys) : Prop := ∀ field : CfgStg,
  holding s field.reg =
    if s.modbus.stage.dirty field then s.modbus.stage.val field else stgMirrorVal s.cfg field

/-- The state right behind a mirror pass of a tick: the one at the acquire of the serial line, or
the one in front of the transports. -/
def MirrorPass (build : Build) (input : ModbusTickIn) (s mirrored : Sys) : Prop :=
  (lineWanted s.cfg && !lineHeld s) = true ∧ mirrored = modbusHead build input s ∨
    tickMirror build input s = some mirrored

/-- What the tick's mirror shows compares the cells found with the staged values. -/
theorem tickMirror_readBack {build : Build} {boot : BootIn} {input : ModbusTickIn}
    {past : List Call} {mirrored : Sys}
    (hmirrored : tickMirror build input (stateAfter build boot past) = some mirrored) :
    ReadBack mirrored ↔ ∀ field value, StagedLive build boot input past field value →
      WrittenAs build boot field value past := by
  have hstage : mirrored.modbus.stage = headStage input (stateAfter build boot past) := by
    rw [← tickMirror_stage build, hmirrored, Option.getD_some]
  have hcfg : mirrored.cfg = (stateAfter build boot past).cfg := (stored_tickMirror hmirrored).1
  have hcell (field : CfgStg) := tickMirror_holding hmirrored field
  have hwritten (field : CfgStg)
      (hdirty : (headStage input (stateAfter build boot past)).dirty field = true) :
      WrittenAs build boot field (holding (stateAfter build boot past) field.reg) past :=
    written_of_dirty past field ((headStage_dirty _ _ _).mp hdirty).1
  unfold ReadBack
  simp only [hstage, hcfg, hcell]
  constructor
  · intro hread field value hlive
    obtain ⟨hdirty, rfl⟩ := (stagedLive_iff field value).mp hlive
    have hsame := hread field
    rw [if_pos hdirty, if_pos hdirty] at hsame
    rw [← hsame]
    exact hwritten field hdirty
  · intro hlast field
    by_cases hdirty : (headStage input (stateAfter build boot past)).dirty field = true
    · rw [if_pos hdirty, if_pos hdirty]
      exact writtenAs_unique (hwritten field hdirty)
        (hlast field _ ((stagedLive_iff field _).mpr ⟨hdirty, rfl⟩))
    · rw [if_neg hdirty, if_neg hdirty]

/-- With nothing staged the mirror shows the live values. -/
theorem mirrorLive_readBack (build : Build) (sensDn : Bool) {s : Sys}
    (hclean : ∀ field, s.modbus.stage.dirty field = false) :
    ReadBack (mirrorLive build sensDn s) := by
  intro field
  have hshown : mirrorValue build sensDn s field.reg = mirrorStaged field s := by
    cases field <;> rfl
  have hdirty : (mirrorLive build sensDn s).modbus.stage.dirty field = false := hclean field
  rw [holding_mirrorLive, hshown, mirrorStaged, hclean field, hdirty]
  rfl

/-- An acquire ends with a mirror, nothing being staged. -/
theorem applyConfig_readBack {build : Build} {sensDn : Bool} {s : Sys}
    (hacquires : (lineWanted s.cfg && !lineHeld s) = true) :
    ReadBack (applyConfig build sensDn s) := by
  obtain ⟨hline, hfree⟩ := (Bool.and_eq_true _ _).mp hacquires
  have hwant : (decide (s.cfg.commMode = 0) && decide (s.cfg.commAddress ≠ 0)) =
      lineWanted s.cfg := rfl
  have hheld : lineHeld s ≠ true := by simpa using hfree
  simp only [applyConfig, hwant, hline, ← lineHeld_iff]
  rw [if_neg fun h ↦ hheld h.2, if_neg (by decide)]
  exact mirrorLive_readBack build sensDn fun _ ↦ rfl

theorem acquire_readBack {build : Build} {input : ModbusTickIn} {s : Sys}
    (hacquires : (lineWanted s.cfg && !lineHeld s) = true) :
    ReadBack (modbusHead build input s) := by
  obtain ⟨hcfg, -, happlied, -, -⟩ := stageTick_link build input s
  refine applyConfig_readBack ?_
  unfold lineHeld
  rw [hcfg, happlied]
  exact hacquires

/-- Boot ends with a mirror if it acquires the serial line. -/
theorem boot_readBack (build : Build) (boot : BootIn)
    (hwant : lineWanted (bootState build boot).cfg = true) : ReadBack (bootState build boot) := by
  have hfree : (appInit boot (resetState build boot)).modbus.applied.owned = false :=
    congrArg (fun modbus ↦ modbus.applied.owned) ((blind_initMode boot.tPage).modbus _)
  have hcfg : (bootState build boot).cfg = (appInit boot (resetState build boot)).cfg :=
    (applyConfig_line build boot.sensDn _).1
  refine applyConfig_readBack ?_
  rw [← hcfg, hwant, lineHeld, hfree]
  rfl

/-- Assumes: a mirror pass of a run. The staged registers show what a commit would apply exactly if
every staged value is also the last one written to its register, which it is in every run in which
the closed gate turns away no other value. They do so, too, if the boot ends with a mirror pass. -/
theorem readBack_iff (build : Build) (boot : BootIn) (history : List Call) (input : ModbusTickIn)
    (mirrored : Sys)
    (hmirrored : MirrorPass build input (stateAfter build boot history) mirrored) :
    (ReadBack mirrored ↔ ∀ field value, StagedLive build boot input history field value →
      WrittenAs build boot field value history) ∧
    (always (sparesEdits build boot) history → ReadBack mirrored) ∧
    (lineWanted (bootState build boot).cfg = true → ReadBack (bootState build boot)) := by
  have hiff : ReadBack mirrored ↔ ∀ field value,
      StagedLive build boot input history field value →
        WrittenAs build boot field value history := by
    rcases hmirrored with ⟨hacquires, rfl⟩ | hmirrored
    · refine iff_of_true (acquire_readBack hacquires) fun field value hlive ↦ ?_
      refine absurd (Or.inr ?_) hlive.2
      rw [activatesLink, hacquires, Bool.true_or]
    · exact tickMirror_readBack hmirrored
  refine ⟨hiff, fun hspares ↦ hiff.mpr fun field value hlive ↦ ?_, boot_readBack build boot⟩
  exact written_of_spared hspares hlive.1

/-- An iteration with a serial frame, with the interlock switch on or off. -/
def switchIter (now : ℕ) (on : Bool) (rx : List UInt8) : IterIn :=
  { serialIter now false rx with
    modbus := { (serialIter now false rx).modbus with remoteEnPin := !on } }

/-- The slave address is staged behind the open gate; the run stops in front of the next tick. -/
def stagedEdit : SuperloopRun where
  done := [switchIter 10 true (fc06 0x1E 5)]
  current := switchIter 20 true []
  made := 8

/-- Then the switch goes off, and a second address is turned away. -/
def turnedAway : SuperloopRun where
  done := [switchIter 20 false (fc06 0x1E 9), switchIter 10 true (fc06 0x1E 5)]
  current := switchIter 30 false []
  made := 8

/-- Before the first Modbus tick of a run nothing is staged. -/
theorem unstaged_of_idle {build : Build} {boot : BootIn} {recent : List Call}
    (hidle : ∀ call ∈ recent, call.kind ≠ .modbus) (field : CfgStg) :
    (stateAfter build boot recent).modbus.stage.dirty field = false := by
  have hkept : (stateAfter build boot recent).modbus = (bootState build boot).modbus := by
    induction recent with
    | nil => rfl
    | cons call past ih =>
      obtain ⟨hcall, hpast⟩ := List.forall_mem_cons.mp hidle
      exact (exec_modbus build hcall _).trans (ih hpast)
  rw [hkept, boot_stage]
  rfl

/-- Calls other than the Modbus tick spare the fields under edit. -/
theorem spares_append {build : Build} {boot : BootIn} {recent base : List Call}
    (hidle : ∀ call ∈ recent, call.kind ≠ .modbus) (hbase : always (sparesEdits build boot) base) :
    always (sparesEdits build boot) (recent ++ base) := by
  induction recent with
  | nil => exact hbase
  | cons call recent ih =>
    obtain ⟨hcall, hrecent⟩ := List.forall_mem_cons.mp hidle
    refine ⟨?_, ih hrecent⟩
    cases call <;> first | exact trivial | exact absurd rfl hcall

/-- The staged address is shown. -/
theorem stagedEdit_shown : ∃ mirrored,
    MirrorPass remoteBuild (switchIter 20 true []).modbus
        (stateAfter remoteBuild serialBoot stagedEdit.history) mirrored ∧
      mirrored.modbus.stage.dirty .addr = true ∧ ReadBack mirrored := by
  have hdirty : (tickMirror remoteBuild (switchIter 20 true []).modbus
      (stateAfter remoteBuild serialBoot stagedEdit.history)).map (fun mirrored ↦
        mirrored.modbus.stage.dirty .addr) = some true := by decide +kernel
  obtain ⟨mirrored, hmirrored, hedited⟩ := Option.map_eq_some_iff.mp hdirty
  have hhistory : stagedEdit.history =
      ((switchIter 20 true []).calls.take 8).reverse ++
        (((switchIter 10 true (fc06 0x1E 5)).calls.drop 9).reverse ++
          .modbusTick (switchIter 10 true (fc06 0x1E 5)).modbus ::
            ((switchIter 10 true (fc06 0x1E 5)).calls.take 8).reverse) := rfl
  have hspares : always (sparesEdits remoteBuild serialBoot) stagedEdit.history := by
    rw [hhistory]
    refine spares_append (by decide) (spares_append (by decide) ⟨?_, ?_⟩)
    · intro field value hlive
      have hclean := @unstaged_of_idle remoteBuild serialBoot
        ((switchIter 10 true (fc06 0x1E 5)).calls.take 8).reverse (by decide) field
      obtain ⟨hlive, -⟩ := (stagedLive_iff field value).mp hlive
      exact absurd (hclean.symm.trans ((headStage_dirty _ _ _).mp hlive).1) Bool.false_ne_true
    · have hquiet := @spares_append remoteBuild serialBoot
        ((switchIter 10 true (fc06 0x1E 5)).calls.take 8).reverse [] (by decide) trivial
      rwa [List.append_nil] at hquiet
  exact ⟨mirrored, Or.inr hmirrored, hedited,
    (readBack_iff remoteBuild serialBoot stagedEdit.history _ mirrored (Or.inr hmirrored)).2.1
      hspares⟩

/-- The address that was turned away is shown, the one staged before would be committed. -/
theorem turnedAway_shown : Chronological turnedAway.history ∧ ∃ mirrored,
    MirrorPass remoteBuild (switchIter 30 false []).modbus
        (stateAfter remoteBuild serialBoot turnedAway.history) mirrored ∧
      mirrored.modbus.stage.dirty .addr = true ∧ mirrored.modbus.stage.val .addr = 5 ∧
      holding mirrored CfgStg.addr.reg = 9 ∧ ¬ ReadBack mirrored := by
  have hcells : (tickMirror remoteBuild (switchIter 30 false []).modbus
      (stateAfter remoteBuild serialBoot turnedAway.history)).map (fun mirrored ↦
        (mirrored.modbus.stage.dirty .addr, mirrored.modbus.stage.val .addr,
          holding mirrored CfgStg.addr.reg)) = some (true, 5, 9) := by decide +kernel
  obtain ⟨mirrored, hmirrored, hcell⟩ := Option.map_eq_some_iff.mp hcells
  obtain ⟨hdirty, hval, hshown⟩ : _ = true ∧ _ = 5 ∧ _ = 9 := by simpa using hcell
  refine ⟨by decide +kernel, mirrored, Or.inr hmirrored, hdirty, hval, hshown, fun hread ↦ ?_⟩
  have hsame := hread .addr
  rw [if_pos hdirty, hval, hshown] at hsame
  exact absurd hsame (by decide)

end UsCtrl
