import UsCtrl.Config
import UsCtrl.Foundation.RecordStore

/-!
# The FRAM image of a configuration

`app_config_save_all` writes 38 records at hand-assigned addresses, `app_config_load` reads the same
38 back. The records cover the addresses 1 to 56 without overlap (`footprint_framRecords`), so what
is stored at one of them is what a read of it returns (`framByte_saved`, `framReadU16_saved`,
`framReadU32_saved`), and a load is, field by field, the stored value where the read answered and
the factory default where it did not (`storedConfig`, `appConfigLoad_initialised`).

`config_roundTrip` is the result: a configuration whose values the load does not clamp comes back as
it was saved, field for field; on any initialised image exactly the fields with a failed read are
defaults, the return value counts the failed reads, and nothing but an oversized energy limit is
written; a flag that cannot be read gives the defaults and leaves the FRAM alone, and a flag that
reads something else is what a blank FRAM is recognised by.
-/

set_option autoImplicit false
set_option relaxedAutoImplicit false

namespace UsCtrl

open Foundation

attribute [ext] AppConfig Octets

/-! ### Saving -/

/-- The records of a save, as bytes. -/
def framRecords (cfg : AppConfig) : List (ℕ × List ℕ) :=
  (framMap cfg).map fun write ↦ (write.1, write.2.map (· % 256))

/-- The addresses of a save, in the order of the writes. -/
def framAddrs : List ℕ :=
  [1, 2, 3, 4, 5, 6, 7, 8, 9, 10, 11, 12, 13, 14, 15, 16, 17, 18, 19, 20, 21, 34, 35, 22, 23, 24,
   25, 26, 27, 28, 29, 30, 31, 32, 33, 36, 37, 38, 39, 40, 41, 42, 43, 44, 45, 49, 53, 46, 50, 54,
   47, 51, 55, 48, 52, 56]

theorem footprint_framRecords (cfg : AppConfig) : footprint (framRecords cfg) = framAddrs := rfl

/-- No two fields overlap in the address map. -/
theorem framRecords_disjoint (cfg : AppConfig) : (footprint (framRecords cfg)).Nodup := by
  rw [footprint_framRecords]
  decide

/-- The map starts behind the flag and stays inside the page. -/
theorem mem_framAddrs {a : ℕ} : a ∈ framAddrs ↔ 1 ≤ a ∧ a ≤ 56 := by
  have hall : ∀ a < 57, 1 ≤ a → a ∈ framAddrs := by decide
  constructor
  · revert a
    decide
  · rintro ⟨hlow, hhigh⟩
    exact hall a (Nat.lt_succ_of_le hhigh) hlow

/-- On a sound bus a write stores its bytes. -/
theorem framWrite_sound (addr : ℕ) (bytes : List ℕ) (fram : Fram) :
    framWrite .sound addr bytes fram = storeAt addr (bytes.map (· % 256)) fram := by
  induction bytes generalizing addr fram with
  | nil => rfl
  | cons byte rest ih => exact ih _ _

theorem appConfigSaveAll_sound (cfg : AppConfig) (fram : Fram) :
    appConfigSaveAll .sound cfg fram = storeAll (framRecords cfg) fram := by
  rw [appConfigSaveAll, storeAll, framRecords, List.foldl_map]
  simp only [framWrite_sound]

/-- A save leaves the flag, and everything outside the map, as it was. -/
theorem saved_outside {cfg : AppConfig} {fram : Fram} {a : ℕ} (hout : ¬ (1 ≤ a ∧ a ≤ 56)) :
    appConfigSaveAll .sound cfg fram a = fram a := by
  rw [appConfigSaveAll_sound, storeAll_outside]
  rwa [footprint_framRecords, mem_framAddrs]

/-! ### Reading back -/

section ReadBack

variable {cfg : AppConfig} {fram : Fram} {addr : ℕ}

/-- Assumes: the record is one of the save. -/
theorem framCell_saved {bytes : List ℕ} (hwrite : (addr, bytes) ∈ framMap cfg) (index : ℕ)
    (hindex : index < bytes.length) :
    appConfigSaveAll .sound cfg fram (addr + index) = bytes[index] % 256 := by
  have hrecord : (addr, bytes.map (· % 256)) ∈ framRecords cfg :=
    List.mem_map_of_mem (f := fun write ↦ (write.1, write.2.map (· % 256))) hwrite
  have hcell : index < (bytes.map (· % 256)).length := by rwa [List.length_map]
  rw [appConfigSaveAll_sound, storeAll_inside fram (framRecords_disjoint cfg) hrecord hcell,
    List.getElem_map]

theorem framByte_saved {value : ℕ} (hwrite : (addr, [value]) ∈ framMap cfg) :
    appConfigSaveAll .sound cfg fram addr = value % 256 :=
  framCell_saved hwrite 0 Nat.zero_lt_one

theorem framReadU16_saved {value : ℕ} (hwrite : (addr, u16Bytes value) ∈ framMap cfg) :
    framReadU16 (appConfigSaveAll .sound cfg fram) addr = value % 65536 := by
  have hhigh : appConfigSaveAll .sound cfg fram addr = value / 256 % 256 % 256 :=
    framCell_saved hwrite 0 Nat.zero_lt_two
  have hlow : appConfigSaveAll .sound cfg fram (addr + 1) = value % 256 % 256 :=
    framCell_saved hwrite 1 Nat.one_lt_two
  rw [framReadU16, hhigh, hlow]
  omega

theorem framReadU32_saved {value : ℕ} (hwrite : (addr, u32Bytes value) ∈ framMap cfg) :
    framReadU32 (appConfigSaveAll .sound cfg fram) addr = value % 4294967296 := by
  have hcell (index : ℕ) (hindex : index < 4) :
      appConfigSaveAll .sound cfg fram (addr + index) = (u32Bytes value)[index] % 256 :=
    framCell_saved hwrite index hindex
  have h0 : appConfigSaveAll .sound cfg fram addr = value / 16777216 % 256 % 256 :=
    hcell 0 (by decide)
  have h1 : appConfigSaveAll .sound cfg fram (addr + 1) = value / 65536 % 256 % 256 :=
    hcell 1 (by decide)
  have h2 : appConfigSaveAll .sound cfg fram (addr + 2) = value / 256 % 256 % 256 :=
    hcell 2 (by decide)
  have h3 : appConfigSaveAll .sound cfg fram (addr + 3) = value % 256 % 256 := hcell 3 (by decide)
  rw [framReadU32, h0, h1, h2, h3]
  omega

theorem energy_saved (cfg : AppConfig) (fram : Fram) :
    framReadU32 (appConfigSaveAll .sound cfg fram) 22 = cfg.limitEnergy % 4294967296 :=
  framReadU32_saved (by simp only [framMap, List.mem_cons, true_or, or_true])

end ReadBack

/-! ### Loading -/

/-- A field after its read: what is stored if the read answered, the factory default if not. -/
def fieldOr {α : Type} (answered : Bool) (stored factory : α) : α :=
  bif answered then stored else factory

/-- The configuration an initialised image stands for, as far as it can be read: every field is the
stored value, in the range the load enforces, or the factory default if its read failed. The
octets of an address are read one by one. -/
def storedConfig (readOk : ℕ → Bool) (fram : Fram) : AppConfig where
  modelFreq := fieldOr (readOk 17) (fram 17) 0
  modelType := fieldOr (readOk 18) (fram 18) 0
  fSafty := fieldOr (readOk 15) (fram 15) 0
  runMode := fieldOr (readOk 16) (fram 16) 0
  limitDelayTime1 := fieldOr (readOk 5) (framReadU16 fram 5) 50
  limitDelayTime2 := fieldOr (readOk 7) (framReadU16 fram 7) 50
  limitDelayTime3 := fieldOr (readOk 9) (framReadU16 fram 9) 50
  limitTriggerTime2 := fieldOr (readOk 11) (framReadU16 fram 11) 50
  limitTriggerTime3 := fieldOr (readOk 13) (framReadU16 fram 13) 50
  limitOnTime := fieldOr (readOk 20) (framReadU16 fram 20) 50
  limitOutTime := fieldOr (readOk 36) (fram 36) 10
  limitMoOut1 := fieldOr (readOk 30) (framReadU16 fram 30) 25
  limitMoOut2 := fieldOr (readOk 32) (framReadU16 fram 32) 50
  limitMoTime1 := fieldOr (readOk 26) (framReadU16 fram 26) 25
  limitMoTime2 := fieldOr (readOk 28) (framReadU16 fram 28) 50
  outputPower := fieldOr (readOk 19) (cfgClampPower (fram 19)) 50
  workCnt := fieldOr (readOk 1) (framReadU32 fram 1) 0
  limitEnergy := fieldOr (readOk 22) (cfgClampMax (framReadU32 fram 22) 100000) 100000
  energyCtrl := fieldOr (readOk 34) (fram 34 == 1) false
  multiCtrl := fieldOr (readOk 35) (fram 35 == 1) false
  calVal := fieldOr (readOk 40) (toInt16 (framReadU16 fram 40)) 0
  freqCalVal := fieldOr (readOk 42) (toInt16 (framReadU16 fram 42)) 0
  commAddress := fieldOr (readOk 37) (fram 37) 0
  commSpeedIdx := fieldOr (readOk 38) (if fram 38 > 5 then 0 else fram 38) 0
  commParityIdx := fieldOr (readOk 39) (if fram 39 > 2 then 0 else fram 39) 0
  commMode := fieldOr (readOk 44) (fram 44) 0
  etherIp := ⟨fieldOr (readOk 45) (fram 45) 0, fieldOr (readOk 46) (fram 46) 0,
    fieldOr (readOk 47) (fram 47) 0, fieldOr (readOk 48) (fram 48) 0⟩
  etherNm := ⟨fieldOr (readOk 49) (fram 49) 0, fieldOr (readOk 50) (fram 50) 0,
    fieldOr (readOk 51) (fram 51) 0, fieldOr (readOk 52) (fram 52) 0⟩
  etherGw := ⟨fieldOr (readOk 53) (fram 53) 0, fieldOr (readOk 54) (fram 54) 0,
    fieldOr (readOk 55) (fram 55) 0, fieldOr (readOk 56) (fram 56) 0⟩

theorem storedConfig_energy (readOk : ℕ → Bool) (fram : Fram) :
    (storedConfig readOk fram).limitEnergy =
      fieldOr (readOk 22) (cfgClampMax (framReadU32 fram 22) 100000) 100000 := rfl

/-- The reads of a load that fail. -/
def failedReads (readOk : ℕ → Bool) : ℕ := framFields.countP fun field ↦ !readOk field.addr

theorem failedReads_le (readOk : ℕ → Bool) : failedReads readOk ≤ 38 := List.countP_le_length

/-- One read of a load, seen from the configuration. -/
def loadField (readOk : ℕ → Bool) (fram : Fram) (cfg : AppConfig) (field : FramField) : AppConfig :=
  if readOk field.addr then field.assign fram cfg else cfg

/-- The reads assign one by one and count their failures apart. -/
theorem loadFold_eq (readOk : ℕ → Bool) (fram : Fram) (fields : List FramField)
    (cfg : AppConfig) (count : ℕ) :
    fields.foldl (fun acc field ↦ if readOk field.addr then (field.assign fram acc.1, acc.2)
        else (acc.1, acc.2 + 1)) (cfg, count) =
      (fields.foldl (loadField readOk fram) cfg,
        count + fields.countP fun field ↦ !readOk field.addr) := by
  induction fields generalizing cfg count with
  | nil => rfl
  | cons field rest ih =>
    rw [List.foldl_cons, List.foldl_cons, List.countP_cons, loadField]
    by_cases hread : readOk field.addr = true
    · rw [if_pos hread, if_pos hread, ih]
      simp [hread]
    · rw [if_neg hread, if_neg hread, ih]
      simp only [Bool.not_eq_true] at hread
      simp only [hread, Bool.not_false, if_true]
      rw [Nat.add_assoc, Nat.add_comm 1]

theorem assign_energy (fram : Fram) (readOk : ℕ → Bool) :
    { storedConfig readOk fram with limitEnergy := cfgClampMax (framReadU32 fram 22) 100000 } =
      storedConfig (Function.update readOk 22 true) fram := by
  have hassign (value : ℕ)
      (hvalue : (storedConfig (Function.update readOk 22 true) fram).limitEnergy = value) :
      { storedConfig readOk fram with limitEnergy := value } =
        storedConfig (Function.update readOk 22 true) fram := by
    subst hvalue
    rfl
  exact hassign _ (by rw [storedConfig_energy, Function.update_self, fieldOr, cond_true])

/-- Every read assigns its own field of the stored configuration, and no other. -/
theorem assign_stored (fram : Fram) :
    ∀ field ∈ framFields, ∀ readOk : ℕ → Bool,
      field.assign fram (storedConfig readOk fram) =
        storedConfig (Function.update readOk field.addr true) fram := by
  simp only [framFields, List.forall_mem_cons]
  and_intros
  all_goals
    first
    | exact assign_energy fram
    | exact fun _ ↦ rfl
    | exact fun _ hnone ↦ absurd hnone List.not_mem_nil

/-- The addresses whose read has answered, after some of the reads. -/
def answered (readOk : ℕ → Bool) (fields : List FramField) (before : ℕ → Bool) : ℕ → Bool :=
  fields.foldl (fun seen field ↦
    if readOk field.addr then Function.update seen field.addr true else seen) before

theorem loadFields_answered (readOk before : ℕ → Bool) (fram : Fram) {fields : List FramField}
    (hfields : ∀ field ∈ fields, field ∈ framFields) :
    fields.foldl (loadField readOk fram) (storedConfig before fram) =
      storedConfig (answered readOk fields before) fram := by
  induction fields generalizing before with
  | nil => rfl
  | cons field rest ih =>
    have hrest : ∀ field ∈ rest, field ∈ framFields :=
      fun other hother ↦ hfields other (List.mem_cons_of_mem _ hother)
    rw [List.foldl_cons, answered, List.foldl_cons, ← answered, loadField]
    by_cases hread : readOk field.addr = true
    · rw [if_pos hread, if_pos hread, assign_stored fram field (hfields field List.mem_cons_self),
        ih _ hrest]
    · rw [if_neg hread, if_neg hread, ih _ hrest]

theorem answered_eq (readOk before : ℕ → Bool) (fields : List FramField) (a : ℕ) :
    answered readOk fields before a =
      (before a || (readOk a && fields.any fun field ↦ field.addr == a)) := by
  induction fields generalizing before with
  | nil => simp [answered]
  | cons field rest ih =>
    rw [answered, List.foldl_cons, ← answered, ih, List.any_cons]
    by_cases haddr : field.addr = a
    · subst haddr
      by_cases hread : readOk field.addr = true <;> simp [hread]
    · have hother : (field.addr == a) = false := by simpa using haddr
      by_cases hread : readOk field.addr = true <;> simp [hread, hother, Ne.symm haddr]

/-- A stored configuration looks at the reads of the map only. -/
theorem storedConfig_congr {readOk readOk' : ℕ → Bool} {fram : Fram}
    (hagree : ∀ field ∈ framFields, readOk field.addr = readOk' field.addr) :
    storedConfig readOk fram = storedConfig readOk' fram := by
  have hmap (seen : ℕ → Bool) : storedConfig seen fram =
      storedConfig (fun a ↦ (framFields.any fun field ↦ field.addr == a) && seen a) fram := rfl
  rw [hmap readOk, hmap readOk']
  congr 1
  funext a
  by_cases hin : (framFields.any fun field ↦ field.addr == a) = true
  · obtain ⟨field, hfield, heq⟩ := List.any_eq_true.mp hin
    rw [hin, ← beq_iff_eq.mp heq, hagree field hfield]
  · rw [Bool.not_eq_true] at hin
    rw [hin, Bool.false_and, Bool.false_and]

/-- The reads of a load leave the stored configuration. -/
theorem loadFields_eq (readOk : ℕ → Bool) (fram : Fram) :
    framFields.foldl (loadField readOk fram) appConfigFactoryDefaults =
      storedConfig readOk fram := by
  have hdefaults : appConfigFactoryDefaults = storedConfig (fun _ ↦ false) fram := rfl
  rw [hdefaults, loadFields_answered readOk _ fram fun _ hfield ↦ hfield]
  refine storedConfig_congr fun field hfield ↦ ?_
  have hany : (framFields.any fun other ↦ other.addr == field.addr) = true :=
    List.any_eq_true.mpr ⟨field, hfield, beq_self_eq_true _⟩
  rw [answered_eq, hany, Bool.false_or, Bool.and_true]

/-- Assumes: the flag is read, and reads as initialised. -/
theorem appConfigLoad_initialised {bus : I2cBus} {fram : Fram} (hread : bus.readOk 0 = true)
    (hflag : fram 0 = framInitFlagMagic) :
    appConfigLoad bus fram = ⟨storedConfig bus.readOk fram, failedReads bus.readOk,
      if bus.readOk 22 && framReadU32 fram 22 > 100000 then framWrite bus 22 (u32Bytes 100000) fram
      else fram⟩ := by
  rw [appConfigLoad, if_neg (by rw [hread]; decide), if_neg (not_not_intro hflag),
    loadFold_eq bus.readOk fram framFields, loadFields_eq, Nat.zero_add, failedReads]

/-- A stored configuration looks at the bytes of the map only, and at the energy limit only through
its clamp. -/
theorem storedConfig_image {readOk : ℕ → Bool} {fram fram' : Fram}
    (hbytes : ∀ a, 1 ≤ a → a ≤ 56 → ¬ (22 ≤ a ∧ a < 26) → fram a = fram' a)
    (henergy : cfgClampMax (framReadU32 fram 22) 100000 =
      cfgClampMax (framReadU32 fram' 22) 100000) :
    storedConfig readOk fram = storedConfig readOk fram' := by
  have hcount : framReadU32 fram 1 = framReadU32 fram' 1 := by
    simp (disch := decide) only [framReadU32, hbytes]
  simp (disch := decide) only [storedConfig, framReadU16, hcount, henergy, hbytes]

/-! ### Bytes -/

/-- The image holds bytes. -/
def ByteImage (fram : Fram) : Prop := ∀ a, fram a < 256

theorem byteImage_written {fram : Fram} (hbytes : ByteImage fram) (bus : I2cBus) (addr : ℕ)
    (bytes : List ℕ) : ByteImage (framWrite bus addr bytes fram) := by
  induction bytes generalizing addr fram with
  | nil => exact hbytes
  | cons byte rest ih =>
    rw [framWrite]
    refine ih ?_ (addr + 1)
    split_ifs
    · intro a
      rw [Function.update_apply]
      split_ifs
      · exact Nat.mod_lt _ (by decide)
      · exact hbytes a
    · exact hbytes

/-- So it does behind any writes. -/
theorem byteImage_writes {fram : Fram} (hbytes : ByteImage fram) (bus : I2cBus)
    (writes : List (ℕ × List ℕ)) : ByteImage
      (writes.foldl (fun image write ↦ framWrite bus write.1 write.2 image) fram) := by
  induction writes generalizing fram with
  | nil => exact hbytes
  | cons write rest ih => exact ih (byteImage_written hbytes bus write.1 write.2)

theorem byteImage_saved {fram : Fram} (hbytes : ByteImage fram) (bus : I2cBus) (cfg : AppConfig) :
    ByteImage (appConfigSaveAll bus cfg fram) := byteImage_writes hbytes bus (framMap cfg)

theorem byteImage_loaded {fram : Fram} (hbytes : ByteImage fram) (bus : I2cBus) :
    ByteImage (appConfigLoad bus fram).fram := by
  unfold appConfigLoad
  dsimp only
  split_ifs
  · exact hbytes
  · exact byteImage_saved (byteImage_written hbytes bus 0 _) bus _
  · exact byteImage_written hbytes bus 22 _
  · exact hbytes

/-! ### Round trip -/

/-- Every field is a value of its C type. -/
structure AppConfig.Typed (cfg : AppConfig) : Prop where
  bytes : ∀ value ∈ [cfg.modelFreq, cfg.modelType, cfg.fSafty, cfg.runMode, cfg.outputPower,
    cfg.commAddress, cfg.commSpeedIdx, cfg.commParityIdx, cfg.commMode,
    cfg.etherIp.o0, cfg.etherIp.o1, cfg.etherIp.o2, cfg.etherIp.o3,
    cfg.etherNm.o0, cfg.etherNm.o1, cfg.etherNm.o2, cfg.etherNm.o3,
    cfg.etherGw.o0, cfg.etherGw.o1, cfg.etherGw.o2, cfg.etherGw.o3], value < 256
  words : ∀ value ∈ [cfg.limitDelayTime1, cfg.limitDelayTime2, cfg.limitDelayTime3,
    cfg.limitTriggerTime2, cfg.limitTriggerTime3, cfg.limitOnTime, cfg.limitOutTime,
    cfg.limitMoOut1, cfg.limitMoOut2, cfg.limitMoTime1, cfg.limitMoTime2], value < 65536
  longs : ∀ value ∈ [cfg.workCnt, cfg.limitEnergy], value < 4294967296
  shorts : ∀ value ∈ [cfg.calVal, cfg.freqCalVal], -32768 ≤ value ∧ value < 32768

/-- The values the load lets through as they are. -/
structure AppConfig.Storable (cfg : AppConfig) : Prop where
  outTime : cfg.limitOutTime ≤ 255
  power : 50 ≤ cfg.outputPower ∧ cfg.outputPower ≤ 100
  energy : cfg.limitEnergy ≤ 100000
  speed : cfg.commSpeedIdx ≤ 5
  parity : cfg.commParityIdx ≤ 2

/-- An `int16_t` survives the cast to `uint16_t` and back. -/
theorem toInt16_toUint16 {value : ℤ} (hlow : -32768 ≤ value) (hhigh : value < 32768) :
    toInt16 (toUint16 value % 65536) = value := by
  rw [toInt16, toUint16]
  split_ifs <;> omega

/-- Assumes: the fields are values of their types, which the load does not clamp. What a save stores
is the saved configuration. -/
theorem storedConfig_saved {cfg : AppConfig} (htyped : cfg.Typed) (hstorable : cfg.Storable)
    (fram : Fram) : storedConfig (fun _ ↦ true) (appConfigSaveAll .sound cfg fram) = cfg := by
  obtain ⟨hbytes, hwords, hlongs, hshorts⟩ := htyped
  obtain ⟨houtTime, hpower, henergy, hspeed, hparity⟩ := hstorable
  have hbyte {addr value : ℕ} (hwrite : (addr, [value]) ∈ framMap cfg) (hvalue : value < 256) :
      appConfigSaveAll .sound cfg fram addr = value :=
    (framByte_saved hwrite).trans (Nat.mod_eq_of_lt hvalue)
  have hword {addr value : ℕ} (hwrite : (addr, u16Bytes value) ∈ framMap cfg)
      (hvalue : value < 65536) : framReadU16 (appConfigSaveAll .sound cfg fram) addr = value :=
    (framReadU16_saved hwrite).trans (Nat.mod_eq_of_lt hvalue)
  have hlong {addr value : ℕ} (hwrite : (addr, u32Bytes value) ∈ framMap cfg)
      (hvalue : value < 4294967296) :
      framReadU32 (appConfigSaveAll .sound cfg fram) addr = value :=
    (framReadU32_saved hwrite).trans (Nat.mod_eq_of_lt hvalue)
  have henabled {addr : ℕ} {flag : Bool} (hwrite : (addr, [flag.toNat]) ∈ framMap cfg) :
      (appConfigSaveAll .sound cfg fram addr == 1) = flag := by
    rw [framByte_saved hwrite]
    cases flag <;> rfl
  have hshort {addr : ℕ} {value : ℤ} (hwrite : (addr, u16Bytes (toUint16 value)) ∈ framMap cfg)
      (hvalue : -32768 ≤ value ∧ value < 32768) :
      toInt16 (framReadU16 (appConfigSaveAll .sound cfg fram) addr) = value := by
    rw [framReadU16_saved hwrite, toInt16_toUint16 hvalue.1 hvalue.2]
  apply AppConfig.ext
  case limitEnergy =>
    have hsaved : framReadU32 (appConfigSaveAll .sound cfg fram) 22 = cfg.limitEnergy :=
      hlong (by simp only [framMap, List.mem_cons, true_or, or_true]) (hlongs _ (by simp))
    rw [storedConfig_energy, fieldOr, cond_true, hsaved, cfgClampMax, if_neg (by omega)]
  all_goals simp only [storedConfig, fieldOr, cond_true]
  case modelFreq | modelType | fSafty | runMode | commAddress | commMode =>
    exact hbyte (by simp only [framMap, List.mem_cons, true_or, or_true]) (hbytes _ (by simp))
  case limitDelayTime1 | limitDelayTime2 | limitDelayTime3 | limitTriggerTime2 |
      limitTriggerTime3 | limitOnTime | limitMoOut1 | limitMoOut2 | limitMoTime1 |
      limitMoTime2 =>
    exact hword (by simp only [framMap, List.mem_cons, true_or, or_true]) (hwords _ (by simp))
  case energyCtrl | multiCtrl =>
    exact henabled (by simp only [framMap, List.mem_cons, true_or, or_true])
  case calVal | freqCalVal =>
    exact hshort (by simp only [framMap, List.mem_cons, true_or, or_true]) (hshorts _ (by simp))
  case workCnt => exact hlong (by simp only [framMap, List.mem_cons, true_or]) (hlongs _ (by simp))
  case limitOutTime =>
    exact hbyte (by simp only [framMap, List.mem_cons, true_or, or_true])
      (Nat.lt_succ_of_le houtTime)
  case etherIp | etherNm | etherGw =>
    apply Octets.ext
    all_goals
      dsimp only
      refine hbyte ?_ (hbytes _ (by simp))
      simp only [framMap, List.mem_cons, true_or, or_true]
  case outputPower =>
    have hsaved : appConfigSaveAll .sound cfg fram 19 = cfg.outputPower :=
      hbyte (by simp only [framMap, List.mem_cons, true_or, or_true]) (hbytes _ (by simp))
    rw [hsaved, cfgClampPower, if_neg (by omega), if_neg (by omega)]
  case commSpeedIdx =>
    have hsaved : appConfigSaveAll .sound cfg fram 38 = cfg.commSpeedIdx :=
      hbyte (by simp only [framMap, List.mem_cons, true_or, or_true]) (hbytes _ (by simp))
    rw [hsaved, if_neg (by omega)]
  case commParityIdx =>
    have hsaved : appConfigSaveAll .sound cfg fram 39 = cfg.commParityIdx :=
      hbyte (by simp only [framMap, List.mem_cons, true_or, or_true]) (hbytes _ (by simp))
    rw [hsaved, if_neg (by omega)]

/-- Whatever the bus does, a write leaves the addresses it does not cover. -/
theorem framWrite_outside (bus : I2cBus) {addr a : ℕ} (bytes : List ℕ) (fram : Fram)
    (hout : ¬ (addr ≤ a ∧ a < addr + bytes.length)) : framWrite bus addr bytes fram a = fram a := by
  induction bytes generalizing addr fram with
  | nil => rfl
  | cons byte rest ih =>
    rw [List.length_cons] at hout
    have hne : a ≠ addr := by omega
    rw [framWrite, ih _ (by omega)]
    split_ifs
    · exact Function.update_of_ne hne _ _
    · rfl

/-- A write looks at the write faults of the bus only. -/
theorem framWrite_congr {bus bus' : I2cBus} (hwrite : bus.writeOk = bus'.writeOk) (addr : ℕ)
    (bytes : List ℕ) (fram : Fram) :
    framWrite bus addr bytes fram = framWrite bus' addr bytes fram := by
  induction bytes generalizing addr fram with
  | nil => rfl
  | cons byte rest ih => rw [framWrite, framWrite, hwrite, ih]

/-- The energy limit as written back, on a sound bus. -/
theorem framReadU32_written (fram : Fram) (addr : ℕ) {value : ℕ} (hvalue : value < 4294967296) :
    framReadU32 (framWrite .sound addr (u32Bytes value) fram) addr = value := by
  have hcell (index : ℕ) (hindex : index < ((u32Bytes value).map (· % 256)).length) :
      framWrite .sound addr (u32Bytes value) fram (addr + index) =
        ((u32Bytes value).map (· % 256))[index] := by
    rw [framWrite_sound, storeAt_inside fram hindex]
  have h0 : framWrite .sound addr (u32Bytes value) fram addr = value / 16777216 % 256 % 256 :=
    hcell 0 (Nat.succ_pos 3)
  have h1 : framWrite .sound addr (u32Bytes value) fram (addr + 1) = value / 65536 % 256 % 256 :=
    hcell 1 (Nat.lt_of_sub_eq_succ rfl)
  have h2 : framWrite .sound addr (u32Bytes value) fram (addr + 2) = value / 256 % 256 % 256 :=
    hcell 2 (Nat.lt_of_sub_eq_succ rfl)
  have h3 : framWrite .sound addr (u32Bytes value) fram (addr + 3) = value % 256 % 256 :=
    hcell 3 (Nat.lt_of_sub_eq_succ rfl)
  rw [framReadU32, h0, h1, h2, h3]
  omega

/-- The records of a save are disjoint and lie in the page, behind the flag. A configuration whose
values the load does not clamp comes back from its image as it was saved. On an initialised image,
exactly the fields whose read failed hold their factory default, every other the stored value, the
return value counts the failed reads, and only an oversized energy limit is written. A readable flag
that says otherwise is answered with the factory image, and an unreadable one with the defaults and
an untouched FRAM. -/
theorem config_roundTrip :
    (∀ cfg : AppConfig, (footprint (framRecords cfg)).Nodup ∧
      ∀ a ∈ footprint (framRecords cfg), 0 < a ∧ a < 256) ∧
    (∀ (cfg : AppConfig) (fram : Fram), cfg.Typed → cfg.Storable → fram 0 = framInitFlagMagic →
      appConfigLoad .sound (appConfigSaveAll .sound cfg fram) =
        ⟨cfg, 0, appConfigSaveAll .sound cfg fram⟩) ∧
    (∀ fram : Fram, storedConfig (fun _ ↦ false) fram = appConfigFactoryDefaults) ∧
    (∀ (bus : I2cBus) (fram : Fram), bus.readOk 0 = true → fram 0 = framInitFlagMagic →
      (appConfigLoad bus fram).cfg = storedConfig bus.readOk fram ∧
      (appConfigLoad bus fram).fail = failedReads bus.readOk ∧ failedReads bus.readOk ≤ 38 ∧
      (∀ a, ¬ (22 ≤ a ∧ a < 26) → (appConfigLoad bus fram).fram a = fram a) ∧
      (¬ (bus.readOk 22 = true ∧ 100000 < framReadU32 fram 22) →
        (appConfigLoad bus fram).fram = fram) ∧
      (bus.readOk 22 = true → bus.writeOk = I2cBus.sound.writeOk →
        framReadU32 (appConfigLoad bus fram).fram 22 =
          cfgClampMax (framReadU32 fram 22) 100000)) ∧
    (∀ (bus : I2cBus) (fram : Fram), bus.readOk 0 = true → fram 0 ≠ framInitFlagMagic →
      appConfigLoad bus fram = ⟨appConfigFactoryDefaults, 0,
        appConfigSaveAll bus appConfigFactoryDefaults
          (framWrite bus 0 [framInitFlagMagic] fram)⟩) ∧
    ∀ (bus : I2cBus) (fram : Fram), bus.readOk 0 = false →
      appConfigLoad bus fram = ⟨appConfigFactoryDefaults, 0xFF, fram⟩ := by
  refine ⟨fun cfg ↦ ⟨framRecords_disjoint cfg, fun a ha ↦ ?_⟩, fun cfg fram htyped hstorable hflag ↦
    ?_, fun _ ↦ rfl, fun bus fram hread hflag ↦ ?_, fun bus fram hread hflag ↦ ?_,
    fun bus fram hread ↦ ?_⟩
  · rw [footprint_framRecords, mem_framAddrs] at ha
    omega
  · have hsaved : appConfigSaveAll .sound cfg fram 0 = framInitFlagMagic :=
      (saved_outside (by decide)).trans hflag
    have hnone : failedReads (fun _ ↦ true) = 0 := rfl
    have henergy : framReadU32 (appConfigSaveAll .sound cfg fram) 22 = cfg.limitEnergy :=
      (energy_saved cfg fram).trans (Nat.mod_eq_of_lt (htyped.longs _ (by simp)))
    have hle := hstorable.energy
    rw [appConfigLoad_initialised rfl hsaved, henergy, if_neg (by simpa using fun _ ↦ hle)]
    exact congrArg (fun loaded ↦ ConfigLoad.mk loaded 0 _)
      (storedConfig_saved htyped hstorable fram)
  · rw [appConfigLoad_initialised hread hflag]
    refine ⟨rfl, rfl, failedReads_le _, fun a hout ↦ ?_, fun hfits ↦ ?_, fun henergy hwrite ↦ ?_⟩
    · dsimp only
      split_ifs
      · exact framWrite_outside bus _ fram hout
      · rfl
    · exact if_neg (by simpa using hfits)
    · dsimp only
      rw [henergy, framWrite_congr hwrite, cfgClampMax]
      by_cases hover : framReadU32 fram 22 > 100000
      · rw [if_pos (by simpa using hover), if_pos hover, framReadU32_written _ _ (by decide)]
      · rw [if_neg (by simpa using hover), if_neg hover]
  · rw [appConfigLoad, if_neg (by rw [hread]; decide), if_pos hflag]
  · rw [appConfigLoad, if_pos hread]

/-- A FRAM without a flag, as it leaves the factory. -/
def blankFram : Fram := fun _ ↦ 0

/-- A configuration that differs from the factory one in every kind of record. -/
def tunedConfig : AppConfig :=
  { appConfigFactoryDefaults with
    workCnt := 70000
    limitDelayTime1 := 120
    runMode := 1
    outputPower := 85
    limitEnergy := 54321
    energyCtrl := true
    calVal := -12
    commSpeedIdx := 3
    commMode := 1
    etherIp := ⟨10, 0, 0, 7⟩ }

/-- It outlasts a save and a load. -/
theorem tuned_roundTrip :
    appConfigLoad .sound (appConfigSaveAll .sound tunedConfig
        (Function.update blankFram 0 framInitFlagMagic)) =
      ⟨tunedConfig, 0, appConfigSaveAll .sound tunedConfig
        (Function.update blankFram 0 framInitFlagMagic)⟩ :=
  config_roundTrip.2.1 tunedConfig (Function.update blankFram 0 framInitFlagMagic)
    ⟨by decide, by decide, by decide, by decide⟩
    ⟨by decide, by decide, by decide, by decide, by decide⟩ rfl

/-- A readable flag is not enough: every read of a blank FRAM answers, and yet the load returns
other values than the stored ones, and writes. -/
theorem blankFram_rewritten :
    (∀ addr, I2cBus.sound.readOk addr = true) ∧
      (appConfigLoad .sound blankFram).cfg ≠ storedConfig I2cBus.sound.readOk blankFram ∧
      (appConfigLoad .sound blankFram).fram 0 ≠ blankFram 0 := by
  refine ⟨fun _ ↦ rfl, ?_, ?_⟩
  · decide
  · decide +kernel

end UsCtrl
