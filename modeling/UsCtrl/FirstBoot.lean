import Mathlib.Tactic.IntervalCases
import UsCtrl.ConfigImage

/-!
# Losing power during the first boot

On a FRAM without the flag, `app_config_load` writes the flag and then the 38 records of the factory
configuration (`factoryWrites`). If the power fails in between, the flag says that the map is
initialised while part of it still holds what was there before. `firstBoot_recovers_iff` says which
cuts the next boot survives: the one before the first write, and those behind which the old content
happens to stand for the factory value already (`Standing`). A cut right after the flag on a FRAM
full of zeros is not among them (`flagFirst_torn`): the next boot takes the zeros for settings.
-/

set_option autoImplicit false
set_option relaxedAutoImplicit false

namespace UsCtrl

open Foundation

/-- The writes of a load that finds no flag, in order: the flag, then the factory map. -/
def factoryWrites : List (ℕ × List ℕ) :=
  (0, [framInitFlagMagic]) :: framMap appConfigFactoryDefaults

/-- The FRAM after the first `cut` of these writes. -/
def tornImage (cut : ℕ) (fram : Fram) : Fram :=
  (factoryWrites.take cut).foldl (fun image write ↦ framWrite .sound write.1 write.2 image) fram

/-- A load that finds no flag issues these writes. -/
theorem load_factoryWrites {fram : Fram} (hblank : fram 0 ≠ framInitFlagMagic) :
    appConfigLoad .sound fram =
      ⟨appConfigFactoryDefaults, 0, tornImage factoryWrites.length fram⟩ := by
  rw [appConfigLoad, if_neg (by decide), if_pos hblank, tornImage, List.take_length]
  rfl

/-- The factory image: the flag and the factory configuration. -/
def factoryRecords : List (ℕ × List ℕ) :=
  (0, [framInitFlagMagic]) :: framRecords appConfigFactoryDefaults

/-- A record of the old content that the next load takes for its factory value: the same bytes, or
an energy limit that is clamped to the factory value and written back. -/
def Standing (fram : Fram) (record : ℕ × List ℕ) : Prop :=
  if record.1 = 22 then 100000 ≤ framReadU32 fram 22 else Holds fram record

theorem factoryRecords_disjoint : (footprint factoryRecords).Nodup := by
  decide

theorem tornImage_eq (cut : ℕ) (fram : Fram) :
    tornImage cut fram = storeAll (factoryRecords.take cut) fram := by
  have hrecords : factoryRecords =
      factoryWrites.map fun write ↦ (write.1, write.2.map (· % 256)) := rfl
  rw [tornImage, storeAll, hrecords, ← List.map_take, List.foldl_map]
  simp only [framWrite_sound]

section TornImage

variable {cut : ℕ} {fram : Fram}

theorem tornImage_reached {record : ℕ × List ℕ} (hrecord : record ∈ factoryRecords.take cut) :
    Holds (tornImage cut fram) record := by
  rw [tornImage_eq]
  exact (storeAll_take fram factoryRecords_disjoint cut).1 record hrecord

theorem tornImage_behind {record : ℕ × List ℕ} (hrecord : record ∈ factoryRecords.drop cut)
    {index : ℕ} (hindex : index < record.2.length) :
    tornImage cut fram (record.1 + index) = fram (record.1 + index) := by
  rw [tornImage_eq]
  refine (storeAll_take fram factoryRecords_disjoint cut).2 _ ?_
  refine List.mem_flatMap.mpr ⟨record, hrecord, ?_⟩
  rw [span, List.mem_range'_1]
  omega

/-- Every record is reached or behind the cut. -/
theorem reached_or_behind {record : ℕ × List ℕ} (hrecord : record ∈ factoryRecords) :
    record ∈ factoryRecords.take cut ∨ record ∈ factoryRecords.drop cut := by
  rwa [← List.mem_append, List.take_append_drop]

end TornImage

/-- The energy record of the factory image. -/
theorem energy_mem : (22, [0, 1, 134, 160]) ∈ factoryRecords := by
  decide

theorem eq_energy {record : ℕ × List ℕ} (hrecord : record ∈ factoryRecords)
    (haddr : record.1 = 22) : record = (22, [0, 1, 134, 160]) := by
  revert record
  decide

/-- A record away from the energy limit does not touch its bytes. -/
theorem apart_energy {record : ℕ × List ℕ} (hrecord : record ∈ factoryRecords)
    (haddr : record.1 ≠ 22) {index : ℕ} (hindex : index < record.2.length) :
    ¬ (22 ≤ record.1 + index ∧ record.1 + index < 26) := by
  have hall : ∀ record ∈ factoryRecords, record.1 ≠ 22 →
      record.1 + record.2.length ≤ 22 ∨ 26 ≤ record.1 := by decide
  have := hall record hrecord haddr
  omega

/-- Assumes: a memory of bytes. It holds the energy record exactly if it reads as the factory
limit. -/
theorem holds_energy_iff {fram : Fram} (hbytes : ∀ a, fram a < 256) :
    Holds fram (22, [0, 1, 134, 160]) ↔ framReadU32 fram 22 = 100000 := by
  have h0 := hbytes 22
  have h1 := hbytes 23
  have h2 := hbytes 24
  have h3 := hbytes 25
  have hread : framReadU32 fram 22 =
      fram 22 * 16777216 + fram 23 * 65536 + fram 24 * 256 + fram 25 := rfl
  rw [hread]
  constructor
  · intro hholds
    have e0 : fram 22 = 0 := hholds 0 (by decide)
    have e1 : fram 23 = 1 := hholds 1 (by decide)
    have e2 : fram 24 = 134 := hholds 2 (by decide)
    have e3 : fram 25 = 160 := hholds 3 (by decide)
    omega
  · intro hvalue index hindex
    have hdigits : fram 22 = 0 ∧ fram 23 = 1 ∧ fram 24 = 134 ∧ fram 25 = 160 := by omega
    obtain ⟨e0, e1, e2, e3⟩ := hdigits
    have hlt : index < 4 := hindex
    interval_cases index
    exacts [e0, e1, e2, e3]

theorem tornImage_bytes {cut : ℕ} {fram : Fram} (hbytes : ByteImage fram) :
    ByteImage (tornImage cut fram) := byteImage_writes hbytes .sound (factoryWrites.take cut)

theorem standing_of_holds {image : Fram} {record : ℕ × List ℕ} (hbytes : ∀ a, image a < 256)
    (hrecord : record ∈ factoryRecords) (hholds : Holds image record) : Standing image record := by
  rw [Standing]
  split_ifs with haddr
  · rw [eq_energy hrecord haddr, holds_energy_iff hbytes] at hholds
    exact hholds.ge
  · exact hholds

/-- Behind the cut, what stands for a factory value is the old content. -/
theorem standing_behind {cut : ℕ} {fram : Fram} {record : ℕ × List ℕ}
    (hbehind : record ∈ factoryRecords.drop cut) :
    Standing (tornImage cut fram) record ↔ Standing fram record := by
  have hkeep (index : ℕ) (hindex : index < record.2.length) :
      tornImage cut fram (record.1 + index) = fram (record.1 + index) :=
    tornImage_behind hbehind hindex
  rw [Standing, Standing]
  split_ifs with haddr
  · have hrecord := eq_energy (List.mem_of_mem_drop hbehind) haddr
    subst hrecord
    have h0 : tornImage cut fram 22 = fram 22 := hkeep 0 (by decide)
    have h1 : tornImage cut fram 23 = fram 23 := hkeep 1 (by decide)
    have h2 : tornImage cut fram 24 = fram 24 := hkeep 2 (by decide)
    have h3 : tornImage cut fram 25 = fram 25 := hkeep 3 (by decide)
    rw [framReadU32, framReadU32, h0, h1, h2, h3]
  · constructor <;> intro hholds index hindex
    · rw [← hkeep index hindex, hholds index hindex]
    · rw [hkeep index hindex, hholds index hindex]

/-! ### The next boot -/

section NextBoot

variable {image : Fram} (hbytes : ∀ a, image a < 256) (hflag : image 0 = framInitFlagMagic)
include hflag

/-- Away from the energy limit, the load holds what the image held. -/
theorem load_holds {record : ℕ × List ℕ} (hrecord : record ∈ factoryRecords)
    (haddr : record.1 ≠ 22) :
    Holds (appConfigLoad .sound image).fram record ↔ Holds image record := by
  have hkeep (index : ℕ) (hindex : index < record.2.length) :
      (appConfigLoad .sound image).fram (record.1 + index) = image (record.1 + index) := by
    rw [appConfigLoad_initialised rfl hflag]
    dsimp only
    split_ifs
    · exact framWrite_outside .sound _ image (apart_energy hrecord haddr hindex)
    · rfl
  constructor <;> intro hholds index hindex
  · rw [← hkeep index hindex, hholds index hindex]
  · rw [hkeep index hindex, hholds index hindex]

include hbytes in
/-- The load leaves the factory limit exactly on an image with at least that limit. -/
theorem load_holds_energy :
    Holds (appConfigLoad .sound image).fram (22, [0, 1, 134, 160]) ↔
      100000 ≤ framReadU32 image 22 := by
  rw [appConfigLoad_initialised rfl hflag]
  dsimp only
  by_cases hover : framReadU32 image 22 > 100000
  · have hwritten := framReadU32_written image 22 (show 100000 < 4294967296 by decide)
    rw [if_pos (by simpa [I2cBus.sound] using hover),
      holds_energy_iff (byteImage_written hbytes .sound 22 _), hwritten]
    exact iff_of_true rfl hover.le
  · rw [if_neg (by simpa using fun _ ↦ Nat.le_of_not_lt hover), holds_energy_iff hbytes]
    omega

include hbytes in
/-- An image on which every record stands for its factory value loads as the factory
configuration, and is the factory image afterwards. -/
theorem load_recovers_iff :
    ((appConfigLoad .sound image).cfg = appConfigFactoryDefaults ∧
        ∀ record ∈ factoryRecords, Holds (appConfigLoad .sound image).fram record) ↔
      ∀ record ∈ factoryRecords, Standing image record := by
  constructor
  · rintro ⟨-, hholds⟩ record hrecord
    rw [Standing]
    split_ifs with haddr
    · have henergy := hholds record hrecord
      rw [eq_energy hrecord haddr] at henergy
      exact (load_holds_energy hbytes hflag).mp henergy
    · exact (load_holds hflag hrecord haddr).mp (hholds record hrecord)
  · intro hstanding
    have hkept {record : ℕ × List ℕ} (hrecord : record ∈ factoryRecords) (haddr : record.1 ≠ 22) :
        Holds image record := by
      have hrecordStands := hstanding record hrecord
      rwa [Standing, if_neg haddr] at hrecordStands
    have henergy : 100000 ≤ framReadU32 image 22 := by
      have henergyStands := hstanding _ energy_mem
      rwa [Standing, if_pos rfl] at henergyStands
    refine ⟨?_, fun record hrecord ↦ ?_⟩
    · have hfactory : storedConfig (fun _ ↦ true)
          (appConfigSaveAll .sound appConfigFactoryDefaults image) = appConfigFactoryDefaults :=
        storedConfig_saved ⟨by decide, by decide, by decide, by decide⟩
          ⟨by decide, by decide, by decide, by decide, by decide⟩ image
      rw [appConfigLoad_initialised rfl hflag]
      refine Eq.trans (storedConfig_image (fun a hlow hhigh hapart ↦ ?_) ?_) hfactory
      · have hin : a ∈ footprint (framRecords appConfigFactoryDefaults) := by
          rw [footprint_framRecords, mem_framAddrs]
          exact ⟨hlow, hhigh⟩
        obtain ⟨record, hrecord, hspan⟩ := List.mem_flatMap.mp hin
        rw [span, List.mem_range'_1] at hspan
        obtain ⟨index, rfl⟩ := Nat.exists_eq_add_of_le hspan.1
        have hindex : index < record.2.length := by omega
        have hmem : record ∈ factoryRecords := List.mem_cons_of_mem _ hrecord
        have haddr : record.1 ≠ 22 := fun h ↦ by
          rw [eq_energy hmem h] at hapart hindex
          exact hapart ⟨Nat.le_add_right _ _, Nat.add_lt_add_left hindex 22⟩
        rw [hkept hmem haddr index hindex, appConfigSaveAll_sound,
          storeAll_inside image (framRecords_disjoint _) hrecord hindex]
      · have hsaved : framReadU32 (appConfigSaveAll .sound appConfigFactoryDefaults image) 22 =
            100000 := energy_saved _ image
        rw [hsaved, cfgClampMax, cfgClampMax]
        split_ifs <;> omega
    · by_cases haddr : record.1 = 22
      · rw [eq_energy hrecord haddr]
        exact (load_holds_energy hbytes hflag).mpr henergy
      · exact (load_holds hflag hrecord haddr).mpr (hkept hrecord haddr)

end NextBoot

/-- Assumes: a memory of bytes without the flag. After a power loss behind the first `cut` writes of
the boot, the next load yields the factory defaults and leaves their image exactly if nothing had
been written, or the old content behind the cut stands for the factory values already. -/
theorem firstBoot_recovers_iff (cut : ℕ) (fram : Fram) (hbytes : ∀ a, fram a < 256)
    (hblank : fram 0 ≠ framInitFlagMagic) :
    ((appConfigLoad .sound (tornImage cut fram)).cfg = appConfigFactoryDefaults ∧
        ∀ record ∈ factoryRecords,
          Holds (appConfigLoad .sound (tornImage cut fram)).fram record) ↔
      cut = 0 ∨ ∀ record ∈ factoryRecords.drop cut, Standing fram record := by
  rcases Nat.eq_zero_or_pos cut with rfl | hcut
  · refine iff_of_true ?_ (.inl rfl)
    have hnothing : tornImage 0 fram = fram := rfl
    rw [hnothing, load_factoryWrites hblank]
    refine ⟨rfl, fun record hrecord ↦ tornImage_reached ?_⟩
    rwa [List.take_of_length_le (show factoryRecords.length ≤ factoryWrites.length by decide)]
  · have hflag : tornImage cut fram 0 = framInitFlagMagic := by
      have hreached : (0, [framInitFlagMagic]) ∈ factoryRecords.take cut := by
        obtain ⟨rest, rfl⟩ := Nat.exists_eq_add_of_lt hcut
        rw [Nat.zero_add, factoryRecords, List.take_succ_cons]
        exact List.mem_cons_self
      exact tornImage_reached hreached 0 (by decide)
    rw [load_recovers_iff (tornImage_bytes hbytes) hflag, or_iff_right hcut.ne']
    constructor
    · intro hstanding record hbehind
      exact (standing_behind hbehind).mp (hstanding record (List.mem_of_mem_drop hbehind))
    · intro hstanding record hrecord
      have hsplit : record ∈ factoryRecords.take cut ∨ record ∈ factoryRecords.drop cut :=
        reached_or_behind hrecord
      rcases hsplit with hreached | hbehind
      · exact standing_of_holds (tornImage_bytes hbytes) hrecord (tornImage_reached hreached)
      · exact (standing_behind hbehind).mpr (hstanding record hbehind)

/-- A FRAM whose flag has been lost, and which holds the factory settings but for the counter, the
first delay and an energy limit that is out of range. -/
def agedFram : Fram :=
  appConfigSaveAll .sound
    { appConfigFactoryDefaults with workCnt := 7, limitDelayTime1 := 77, limitEnergy := 200000 }
    blankFram

instance (fram : Fram) (record : ℕ × List ℕ) : Decidable (Standing fram record) :=
  decidable_of_iff (if record.1 = 22 then 100000 ≤ framReadU32 fram 22
      else ∀ index : Fin record.2.length, fram (record.1 + index) = record.2.get index) (by
    rw [Standing]
    split_ifs
    · rfl
    · exact Fin.forall_iff)

/-- Power is lost behind the counter and the first delay, and what follows stands. -/
theorem agedBoot_recovers :
    ((appConfigLoad .sound (tornImage 3 agedFram)).cfg = appConfigFactoryDefaults ∧
        ∀ record ∈ factoryRecords,
          Holds (appConfigLoad .sound (tornImage 3 agedFram)).fram record) :=
  (firstBoot_recovers_iff 3 agedFram
    (byteImage_saved (fun _ ↦ Nat.zero_lt_succ 255) .sound _) (by decide +kernel)).mpr
    (.inr (by decide +kernel))

/-- Power is lost right behind the flag of a FRAM full of zeros. The next load takes the zeros for
settings, an on-time limit of zero among them. -/
theorem flagFirst_torn :
    ¬ ((appConfigLoad .sound (tornImage 1 blankFram)).cfg = appConfigFactoryDefaults ∧
        ∀ record ∈ factoryRecords,
          Holds (appConfigLoad .sound (tornImage 1 blankFram)).fram record) := by
  rintro ⟨hcfg, -⟩
  exact absurd (congrArg AppConfig.limitOnTime hcfg) (by decide +kernel)

end UsCtrl
