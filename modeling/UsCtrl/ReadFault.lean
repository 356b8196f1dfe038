import UsCtrl.FieldSource

/-!
# Reads that fail in a load

`app_config_load` answers a failed read with the factory default and leaves the FRAM alone, so that
a transient bus fault does not wipe a good FRAM. The default is then live, and every later save
writes it out with the rest.

`readFault_kept` is the result, for every state that a load has left, as the boot's does
(`boot_loaded`) and CANCEL's (`cancel_loaded`): a field that nobody edits keeps its stored value as
long as every save finds it read back by the latest load and copies nothing else over it; a save
that finds the default in its place stores the default.
-/

set_option autoImplicit false
set_option relaxedAutoImplicit false

namespace UsCtrl

open Foundation

/-! ### What a load leaves -/

/-- What a load makes a field stand for. -/
def I2cBus.standsFor (bus : I2cBus) (field : StoredField) : FieldSource :=
  if bus.answers field then .stored else .factory

theorem loaded_ledger {build : Build} {bus : I2cBus} {fram : Fram} {start : Sys}
    (hstart : LoadedFrom bus fram start) (hbytes : ByteImage fram)
    (hflag : fram 0 = framInitFlagMagic) (hwrites : bus.Writes) (field : StoredField) :
    FieldLedger build start field (bus.standsFor field) [] ∧
      storedValue start.fram field = storedValue fram field := by
  obtain ⟨hcfg, hfram⟩ := hstart
  have hsame : storedValue start.fram field = storedValue fram field := by
    rw [hfram, storedValue_loaded hwrites hflag]
  have hlive : start.cfg.value field =
      if bus.answers field then storedValue start.fram field
      else appConfigFactoryDefaults.value field := by
    rw [hcfg, hsame, value_loaded bus hflag]
  refine ⟨fieldLedger_start ?_ ?_ (fun h ↦ ?_) fun h ↦ ?_, hsame⟩
  · rw [hfram]
    exact (flag_kept bus hflag hwrites appConfigFactoryDefaults).2
  · rw [hsame, kept_stored hbytes]
  · refine hlive.trans (if_pos ?_)
    by_contra hsilent
    rw [I2cBus.standsFor, if_neg hsilent] at h
    cases h
  · refine hlive.trans (if_neg fun hanswers ↦ ?_)
    rw [I2cBus.standsFor, if_pos hanswers] at h
    cases h

/-! ### Later saves -/

/-- Assumes: a load has left the start state, of an initialised FRAM; since then all writes have
arrived and nobody has edited the field; and every save has found the field read back by the latest
load and copied nothing else over it, or was to store what is stored. Then the stored value is the
one before the load, but for the work counter, which goes up with every cycle. The next save keeps
it exactly if what it finds or copies comes to the value stored; one that finds the factory default
in its place, and copies nothing over it, stores the default. -/
theorem readFault_kept (build : Build) {bus : I2cBus} {fram : Fram} {start : Sys}
    (hstart : LoadedFrom bus fram start) (hbytes : ByteImage fram)
    (hflag : fram 0 = framInitFlagMagic) (hwrites : bus.Writes) (field : StoredField)
    (history : List Call) (huntouched : always (Untouched build start field) history)
    (hfaithful : always (SavesFaithful build start field (bus.standsFor field)) history) :
    countedValue build start field [] = storedValue fram field ∧
      storedValue ((runFrom build start).after history).fram field =
        countedValue build start field history ∧
      (field ≠ .workCnt → storedValue ((runFrom build start).after history).fram field =
        storedValue fram field) ∧
      ∀ call, Untouched build start field (call :: history) →
        Saves build call ((runFrom build start).after history) = true →
        (storedValue ((runFrom build start).after (call :: history)).fram field =
            countedValue build start field (call :: history) ↔
          field.kept (call.found field ((runFrom build start).after history)) =
            countedValue build start field history) ∧
        (sourceAfter build start field (bus.standsFor field) history = .factory →
          call.copies field ((runFrom build start).after history) = none →
          storedValue ((runFrom build start).after (call :: history)).fram field =
            field.counted call ((runFrom build start).after history)
              (appConfigFactoryDefaults.value field)) := by
  obtain ⟨hledger, hsame⟩ := loaded_ledger hstart hbytes hflag hwrites field
  have hrun := stored_kept hledger huntouched hfaithful
  refine ⟨hsame, hrun.stored, fun hfield ↦ ?_, fun call hcall hsave ↦ ?_⟩
  · rw [hrun.stored, countedValue_eq hfield, hsame]
  · have hstored := save_stored hrun.flag hcall hsave
    refine ⟨?_, fun hsource hcopies ↦ ?_⟩
    · rw [hstored, countedValue]
      exact counted_inj (kept_idem field _) hrun.kept call _
    · rw [hstored, Call.found, hcopies, Option.getD_none, hrun.factory hsource, kept_factory]

/-- A FRAM with DELAY1 = 77, which does not answer when DELAY1 is read at boot. -/
def faultyBoot : BootIn :=
  { serialBoot with
    fram := fun addr ↦ if addr = 6 then 77 else serialBoot.fram addr
    bus := ⟨fun addr ↦ addr != 5, fun _ ↦ true⟩ }

theorem delay2Request_sound :
    ∀ call ∈ (requestRun (fc06 0x0B 60)).history, call.bus = I2cBus.sound := by
  have hbuses : (requestRun (fc06 0x0B 60)).history.map Call.bus =
      List.replicate 9 I2cBus.sound := rfl
  intro call hcall
  exact List.eq_of_mem_replicate (hbuses ▸ List.mem_map_of_mem hcall)

/-- DELAY3 is read at boot, and the request that saves DELAY2 keeps it. -/
theorem delay2Request_keeps :
    storedValue ((runFrom stdBuild (bootState stdBuild faultyBoot)).after
      (requestRun (fc06 0x0B 60)).history).fram .delay3 = storedValue faultyBoot.fram .delay3 := by
  have hbytes : ByteImage faultyBoot.fram := by
    intro addr
    simp only [faultyBoot, serialBoot]
    split_ifs <;> decide
  refine (readFault_kept stdBuild (boot_loaded stdBuild faultyBoot) hbytes rfl rfl .delay3
    (requestRun (fc06 0x0B 60)).history (untouched_along
      (fun call hcall ↦ by rw [delay2Request_sound call hcall]; rfl) (by decide +kernel))
    ?_).2.2.1 (by decide)
  rw [requestRun_history]
  refine ⟨fun _ ↦ Or.inl (by decide +kernel), ?_⟩
  have hquiet : always (SavesFaithful stdBuild (bootState stdBuild faultyBoot) .delay3
      (faultyBoot.bus.standsFor .delay3)) ((requestRun (fc06 0x0B 60)).history.tail ++ []) :=
    always_append (runFrom stdBuild (bootState stdBuild faultyBoot))
      (fun call s ↦ Saves stdBuild call s = false)
      (fun call past hnone hsave ↦ by rw [hnone] at hsave; cases hsave) (by decide +kernel)
      trivial
  rwa [List.append_nil] at hquiet

/-- DELAY1 is not, and the same request wipes it. -/
theorem delay2Request_wipes :
    faultyBoot.fram 0 = framInitFlagMagic ∧
      (∀ call ∈ (requestRun (fc06 0x0B 60)).history, call.bus = I2cBus.sound) ∧
      always (Untouched stdBuild (bootState stdBuild faultyBoot) .delay1)
        (requestRun (fc06 0x0B 60)).history ∧
      storedValue faultyBoot.fram .delay1 = 77 ∧
      storedValue ((runFrom stdBuild (bootState stdBuild faultyBoot)).after
        (requestRun (fc06 0x0B 60)).history).fram .delay1 = 50 := by
  refine ⟨rfl, delay2Request_sound, untouched_along
    (fun call hcall ↦ by rw [delay2Request_sound call hcall]; rfl) (by decide +kernel), rfl, ?_⟩
  decide +kernel

end UsCtrl
