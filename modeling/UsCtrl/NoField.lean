import UsCtrl.IpEntry

/-!
# Editor keys without a field

The address page opens with no field selected, and `handle_ether_key` makes no difference for that:
its selector of the shadow takes the mark of no field for the gateway, and the address of the echo,
a stride for each field, gets far behind the three text fields.

`noField_inert_iff` says what is left of the keys being inert then: the shadows of IP and mask are
left alone, and that of the gateway up to the first ENTER, but there is no key whose echo lies in
the text fields.
-/

set_option autoImplicit false
set_option relaxedAutoImplicit false

namespace UsCtrl

open Foundation

/-! ### Echoes -/

/-- `LCD_ETHER_INPUT_*`. -/
def EtherField.code : EtherField → ℕ
  | .ip => 0
  | .nm => 1
  | .gw => 2
  | .none => 0xFF

/-- `COMM_IP_TXT` and `COMM_TXT_STRIDE`: where the text of a field is echoed. -/
def EtherField.echoVp (field : EtherField) : ℕ := (0x1470 + 0x10 * field.code) % 65536

/-- The variables that a text of 16 bytes at an address is written to. -/
def textVps (vp : ℕ) : List ℕ := List.range' vp 8

/-- The variables that `handle_ether_key` writes: all three fields for a selection, else the one
under edit. -/
def etherKeyVps (data : ℕ) (lcd : LcdState) : List ℕ :=
  let key := data % 256
  if key = 0x49 ∨ key = 0x4D ∨ key = 0x47 then
    textVps EtherField.ip.echoVp ++ textVps EtherField.nm.echoVp ++ textVps EtherField.gw.echoVp
  else textVps lcd.etherWhatInput.echoVp

/-- The variable belongs to one of the three text fields. -/
def InTextField (vp : ℕ) : Prop :=
  vp ∈ textVps EtherField.ip.echoVp ∨ vp ∈ textVps EtherField.nm.echoVp ∨
    vp ∈ textVps EtherField.gw.echoVp

instance (vp : ℕ) : Decidable (InTextField vp) := inferInstanceAs (Decidable (_ ∨ _ ∨ _))

/-! ### Runs without a field -/

section Keys

variable (build : Build) (boot : BootIn)

/-- The call is no frame, or an editor key that selects no field. -/
def Call.offField : Call → Prop
  | .frame f => f.key = some .etherKey ∧ ∀ field : EtherField, field.selectKey ≠ some (f.word % 256)
  | _ => True

/-- The call is an ENTER of the editor. -/
def Call.enters : Call → Prop
  | .frame f => f.key = some .etherKey ∧ f.word % 256 = 0x45
  | _ => False

/-- The variables that the editor writes in a call. -/
def Call.echoes (call : Call) (lcd : LcdState) : List ℕ :=
  match call with
  | .frame f => if f.key = some .etherKey then etherKeyVps f.word lcd else []
  | _ => []

/-- The variables that the editor writes in a run that goes on after `past`. -/
def echoesAfter (past : List Call) : List Call → List ℕ
  | [] => []
  | call :: recent =>
    call.echoes (stateAfter build boot (recent ++ past)).lcd ++ echoesAfter past recent

/-- A SAVE on the page shown commits the shadow of the setting. -/
def SaveCommits (setting : PanelSetting) (s : Sys) : Prop :=
  (setupGroup s).commits (.num s.lcd.tempCommMode) setting = true

/-- The calls are inert: they change no shadow of an address and write to no variable but those of
the three text fields, and a SAVE behind them commits the addresses of before. -/
def KeysInert (past recent : List Call) : Prop :=
  (∀ setting ∈ [PanelSetting.etherIp, .etherNm, .etherGw],
      setting.shadow (stateAfter build boot (recent ++ past)).lcd =
        setting.shadow (stateAfter build boot past).lcd ∧
      ∀ f : FrameIn, f.key = some .dataSave → f.word = 1 →
        SaveCommits setting (stateAfter build boot (recent ++ past)) →
          setting.live (stateAfter build boot (.frame f :: (recent ++ past))) =
            setting.shadow (stateAfter build boot past).lcd) ∧
    ∀ vp ∈ echoesAfter build boot past recent, InTextField vp

variable {build boot}

/-- An editor key that selects no field puts something into the gateway's shadow only, and only by
ENTER. -/
theorem offField_puts {call : Call} (hcall : call.offField) {s : Sys}
    (hnone : s.lcd.etherWhatInput = .none) {setting : PanelSetting}
    (hsetting : setting ≠ .etherGw ∨ ¬ call.enters) : call.puts setting s = none := by
  cases call with
  | frame f =>
    show f.puts setting s = none
    rw [FrameIn.puts, hcall.1]
    refine if_neg fun henter ↦ ?_
    rw [hnone] at henter
    rcases hsetting with hother | hkey
    · exact hother henter.1
    · exact hkey ⟨hcall.1, henter.2⟩
  | _ => rfl

/-- No field is selected until a key selects one, or the page is opened again. -/
theorem offField_none (build : Build) {call : Call} (hcall : call.offField) {s : Sys}
    (hnone : s.lcd.etherWhatInput = .none) : (call.exec build s).lcd.etherWhatInput = .none := by
  by_cases hframe : call.kind = .frame
  · cases call with
    | frame f =>
      rw [Call.exec, appLcdInputDispatch, hcall.1]
      exact (etherKey_field hcall.2 s).trans hnone
    | _ => cases hframe
  · have hview : SheetView LcdState.etherWhatInput := fun _ ↦ rfl
    exact (exec_sheetView hview build hframe s).trans hnone

theorem run_offField {past recent : List Call}
    (hnone : (stateAfter build boot past).lcd.etherWhatInput = .none)
    (hkeys : ∀ call ∈ recent, call.offField) :
    (stateAfter build boot (recent ++ past)).lcd.etherWhatInput = .none := by
  induction recent with
  | nil => exact hnone
  | cons call recent ih =>
    exact offField_none build (hkeys call List.mem_cons_self)
      (ih fun other hmem ↦ hkeys other (List.mem_cons_of_mem call hmem))

/-- Without a field the shadows of IP and mask outlast any keys, and that of the gateway any but
ENTER. -/
theorem offField_shadow {past recent : List Call}
    (hnone : (stateAfter build boot past).lcd.etherWhatInput = .none)
    (hkeys : ∀ call ∈ recent, call.offField) {setting : PanelSetting}
    (hsetting : setting ≠ .etherGw ∨ ∀ call ∈ recent, ¬ call.enters) :
    setting.shadow (stateAfter build boot (recent ++ past)).lcd =
      setting.shadow (stateAfter build boot past).lcd := by
  induction recent with
  | nil => rfl
  | cons call recent ih =>
    have hrest : ∀ other ∈ recent, other.offField := fun other hmem ↦
      hkeys other (List.mem_cons_of_mem call hmem)
    have hputs := offField_puts (hkeys call List.mem_cons_self) (run_offField hnone hrest)
      (hsetting.imp_right fun hquiet ↦ hquiet call List.mem_cons_self)
    have hkept := ih hrest (hsetting.imp_right fun hquiet other hmem ↦
      hquiet other (List.mem_cons_of_mem call hmem))
    show setting.shadow (call.exec build (stateAfter build boot (recent ++ past))).lcd = _
    rw [exec_shadow, hputs, shadowWith_none]
    exact hkept

/-- Every editor key without a field writes to 0x2460. -/
theorem offField_echo {call : Call} (hcall : call.offField) (hframe : call.kind = .frame)
    {lcd : LcdState} (hnone : lcd.etherWhatInput = .none) : 0x2460 ∈ call.echoes lcd := by
  cases call with
  | frame f =>
    have hselects : ¬ (f.word % 256 = 0x49 ∨ f.word % 256 = 0x4D ∨ f.word % 256 = 0x47) := by
      rintro (hip | hnm | hgw)
      · exact hcall.2 .ip (congrArg some hip).symm
      · exact hcall.2 .nm (congrArg some hnm).symm
      · exact hcall.2 .gw (congrArg some hgw).symm
    dsimp only [Call.echoes, etherKeyVps]
    rw [if_pos hcall.1, if_neg hselects, hnone]
    decide
  | _ => cases hframe

/-- The calls of a run that are no frames write nothing. -/
theorem echoes_quiet {past recent : List Call} (hquiet : ∀ call ∈ recent, call.kind ≠ .frame) :
    echoesAfter build boot past recent = [] := by
  induction recent with
  | nil => rfl
  | cons call recent ih =>
    have hnone : call.echoes (stateAfter build boot (recent ++ past)).lcd = [] := by
      cases call with
      | frame f => exact absurd rfl (hquiet (.frame f) List.mem_cons_self)
      | _ => rfl
    rw [echoesAfter, hnone, ih fun other hmem ↦ hquiet other (List.mem_cons_of_mem call hmem)]
    rfl

/-- A key of a run without a field writes outside of the text fields. -/
theorem echoes_key {past recent : List Call}
    (hnone : (stateAfter build boot past).lcd.etherWhatInput = .none)
    (hkeys : ∀ call ∈ recent, call.offField) {key : Call} (hkey : key ∈ recent)
    (hframe : key.kind = .frame) : 0x2460 ∈ echoesAfter build boot past recent := by
  induction recent with
  | nil => exact absurd hkey List.not_mem_nil
  | cons call recent ih =>
    have hrest : ∀ other ∈ recent, other.offField := fun other hmem ↦
      hkeys other (List.mem_cons_of_mem call hmem)
    rcases List.mem_cons.mp hkey with rfl | holder
    · exact List.mem_append_left _ (offField_echo (hkeys key List.mem_cons_self) hframe
        (run_offField hnone hrest))
    · exact List.mem_append_right _ (ih hrest holder)

/-- Assumes: no field is selected. For every run of keys that select none, with any calls of the
loop between them: they are inert exactly if there is no key among them. The shadows of IP and mask
outlast them all, and that of the gateway those that do not end in an ENTER. -/
theorem noField_inert_iff {past recent : List Call}
    (hnone : (stateAfter build boot past).lcd.etherWhatInput = .none)
    (hkeys : ∀ call ∈ recent, call.offField) :
    (KeysInert build boot past recent ↔ ∀ call ∈ recent, call.kind ≠ .frame) ∧
      ∀ setting : PanelSetting, setting ≠ .etherGw ∨ (∀ call ∈ recent, ¬ call.enters) →
        setting.shadow (stateAfter build boot (recent ++ past)).lcd =
          setting.shadow (stateAfter build boot past).lcd := by
  refine ⟨⟨fun hinert key hkey hframe ↦ ?_, fun hquiet ↦ ⟨fun setting _ ↦ ?_, ?_⟩⟩,
    fun setting hsetting ↦ offField_shadow hnone hkeys hsetting⟩
  · exact absurd (hinert.2 0x2460 (echoes_key hnone hkeys hkey hframe)) (by decide)
  · have hshadow : setting.shadow (stateAfter build boot (recent ++ past)).lcd =
        setting.shadow (stateAfter build boot past).lcd := by
      refine offField_shadow hnone hkeys (Or.inr fun call hmem henter ↦ ?_)
      cases call with
      | frame f => exact hquiet (.frame f) hmem rfl
      | _ => exact henter
    refine ⟨hshadow, fun f hkey hword hcommits ↦ ?_⟩
    have hsaved : stateAfter build boot (.frame f :: (recent ++ past)) =
        dataSaveCommit f.bus f.tPage (stateAfter build boot (recent ++ past)) := by
      show appLcdInputDispatch f (stateAfter build boot (recent ++ past)) = _
      rw [appLcdInputDispatch, hkey]
      exact if_pos hword
    rw [hsaved, dataSaveCommit_live]
    exact (if_pos hcommits).trans hshadow
  · rw [echoes_quiet hquiet]
    exact fun vp hmem ↦ absurd hmem List.not_mem_nil

end Keys

/-- The operator of a new machine opens the address page and types 7 and ENTER without selecting a
field. -/
def offFieldRun (made : ℕ) : SuperloopRun where
  done := []
  current := { quietIter 10 with
    frames := [keyFrame 0x1100 1 10, keyFrame 0x1020 4 10, keyFrame 0x140b 1 10,
      keyFrame 0x140f 7 10, keyFrame 0x140f 0x45 10] }
  made := made

/-- The mask is still the old one after the 7. -/
theorem offFieldRun_kept :
    (KeysInert stdBuild factoryBoot (offFieldRun 3).history [.frame (keyFrame 0x140f 7 10)] ↔
      ∀ call ∈ [Call.frame (keyFrame 0x140f 7 10)], call.kind ≠ .frame) ∧
      ∀ setting : PanelSetting, setting ≠ .etherGw ∨
          (∀ call ∈ [Call.frame (keyFrame 0x140f 7 10)], ¬ call.enters) →
        setting.shadow (stateAfter stdBuild factoryBoot (offFieldRun 4).history).lcd =
          setting.shadow (stateAfter stdBuild factoryBoot (offFieldRun 3).history).lcd := by
  refine noField_inert_iff (by decide +kernel) fun call hmem ↦ ?_
  rw [List.mem_singleton.mp hmem]
  exact ⟨rfl, by rintro (_ | _ | _ | _) <;> decide⟩

/-- The gateway becomes 7.0.0.0, and both keys are echoed at 0x2460. -/
theorem offFieldRun_commits :
    (stateAfter stdBuild factoryBoot (offFieldRun 3).history).lcd.etherWhatInput = .none ∧
      (∀ call ∈ [Call.frame (keyFrame 0x140f 0x45 10), .frame (keyFrame 0x140f 7 10)],
        call.offField) ∧
      ¬ KeysInert stdBuild factoryBoot (offFieldRun 3).history
        [.frame (keyFrame 0x140f 0x45 10), .frame (keyFrame 0x140f 7 10)] := by
  refine ⟨by decide +kernel, fun call hmem ↦ ?_, fun hinert ↦ ?_⟩
  · rcases List.mem_cons.mp hmem with hkey | hkey
    · rw [hkey]
      exact ⟨rfl, by rintro (_ | _ | _ | _) <;> decide⟩
    · rw [List.mem_singleton.mp hkey]
      exact ⟨rfl, by rintro (_ | _ | _ | _) <;> decide⟩
  · have hgateway := (hinert.1 .etherGw (by decide)).1
    revert hgateway
    decide +kernel

end UsCtrl
