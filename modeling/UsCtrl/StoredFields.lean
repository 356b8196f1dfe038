import Mathlib.Tactic.IntervalCases
import UsCtrl.Desk

/-!
# Stored fields

The 38 records of the FRAM map as fields with a live and a stored value. The live value is that of
the configuration (`AppConfig.value`), the stored one is what a load that reads everything would
give (`storedValue`). A save stores the live value in the range a load enforces (`StoredField.kept`,
`storedValue_saved`), and a load keeps every stored value and makes it live where its read answers,
and the factory default where it does not (`storedValue_loaded`, `value_loaded`).

`exec_stored` puts this together with `exec_fram`: a call that does not save keeps every stored
value, and a call that saves stores what it leaves.
-/

set_option autoImplicit false
set_option relaxedAutoImplicit false

namespace UsCtrl

open Foundation

/-! ### Fields -/

/-- The records of the FRAM map, the addresses by octets. -/
inductive StoredField
  | workCnt | delay1 | delay2 | delay3 | trigger2 | trigger3 | safty | runMode | modelFreq
  | modelType | outPower | onTime | enEnergy | energy | enMulti | multiT1 | multiT2 | multiO1
  | multiO2 | timeover | commAddr | commSpeed | commParity | calVal | freqCalVal | commMode
  | etherIp (octet : Fin 4) | etherNm (octet : Fin 4) | etherGw (octet : Fin 4)
  deriving DecidableEq, Repr

/-- `FRAM_ADDR_*`. -/
def StoredField.addr : StoredField → ℕ
  | .workCnt => 1
  | .delay1 => 5
  | .delay2 => 7
  | .delay3 => 9
  | .trigger2 => 11
  | .trigger3 => 13
  | .safty => 15
  | .runMode => 16
  | .modelFreq => 17
  | .modelType => 18
  | .outPower => 19
  | .onTime => 20
  | .enEnergy => 34
  | .energy => 22
  | .enMulti => 35
  | .multiT1 => 26
  | .multiT2 => 28
  | .multiO1 => 30
  | .multiO2 => 32
  | .timeover => 36
  | .commAddr => 37
  | .commSpeed => 38
  | .commParity => 39
  | .calVal => 40
  | .freqCalVal => 42
  | .commMode => 44
  | .etherIp octet => 45 + octet
  | .etherNm octet => 49 + octet
  | .etherGw octet => 53 + octet

/-- An octet of an `ether_*` field. -/
def StoredField.ether : StoredField → Bool
  | .etherIp _ | .etherNm _ | .etherGw _ => true
  | _ => false

/-- The value of a field in a configuration. -/
def AppConfig.value (cfg : AppConfig) : StoredField → ℤ
  | .workCnt => cfg.workCnt
  | .delay1 => cfg.limitDelayTime1
  | .delay2 => cfg.limitDelayTime2
  | .delay3 => cfg.limitDelayTime3
  | .trigger2 => cfg.limitTriggerTime2
  | .trigger3 => cfg.limitTriggerTime3
  | .safty => cfg.fSafty
  | .runMode => cfg.runMode
  | .modelFreq => cfg.modelFreq
  | .modelType => cfg.modelType
  | .outPower => cfg.outputPower
  | .onTime => cfg.limitOnTime
  | .enEnergy => cfg.energyCtrl.toNat
  | .energy => cfg.limitEnergy
  | .enMulti => cfg.multiCtrl.toNat
  | .multiT1 => cfg.limitMoTime1
  | .multiT2 => cfg.limitMoTime2
  | .multiO1 => cfg.limitMoOut1
  | .multiO2 => cfg.limitMoOut2
  | .timeover => cfg.limitOutTime
  | .commAddr => cfg.commAddress
  | .commSpeed => cfg.commSpeedIdx
  | .commParity => cfg.commParityIdx
  | .calVal => cfg.calVal
  | .freqCalVal => cfg.freqCalVal
  | .commMode => cfg.commMode
  | .etherIp octet => cfg.etherIp.get octet
  | .etherNm octet => cfg.etherNm.get octet
  | .etherGw octet => cfg.etherGw.get octet

/-- The value a load that reads everything gives a field. -/
def storedValue (fram : Fram) (field : StoredField) : ℤ :=
  (storedConfig (fun _ ↦ true) fram).value field

/-- What is left of a value that is saved and loaded: it is cut to the bytes of the record and taken
into the range the load enforces. -/
def StoredField.kept (field : StoredField) (value : ℤ) : ℤ :=
  match field with
  | .workCnt => value % 4294967296
  | .energy => if value % 4294967296 > 100000 then 100000 else value % 4294967296
  | .delay1 | .delay2 | .delay3 | .trigger2 | .trigger3 | .onTime | .multiT1 | .multiT2 | .multiO1
  | .multiO2 => value % 65536
  | .outPower =>
    if value % 256 > 100 then 100 else if value % 256 < 50 then 50 else value % 256
  | .commSpeed => if value % 256 > 5 then 0 else value % 256
  | .commParity => if value % 256 > 2 then 0 else value % 256
  | .enEnergy | .enMulti => if value % 256 = 1 then 1 else 0
  | .calVal | .freqCalVal => toInt16 (toUint16 value)
  | .safty | .runMode | .modelFreq | .modelType | .timeover | .commAddr | .commMode | .etherIp _
  | .etherNm _ | .etherGw _ => value % 256

/-! ### What a load reads -/

/-- The read of a field answers in a load, and so does the read of the flag before it. -/
def I2cBus.answers (bus : I2cBus) (field : StoredField) : Bool :=
  bus.readOk 0 && bus.readOk field.addr

/-- All writes of the bus arrive. -/
def I2cBus.Writes (bus : I2cBus) : Prop := bus.writeOk = I2cBus.sound.writeOk

theorem value_stored (readOk : ℕ → Bool) (fram : Fram) (field : StoredField) :
    (storedConfig readOk fram).value field =
      if readOk field.addr then storedValue fram field
      else appConfigFactoryDefaults.value field := by
  have hfield {α : Type} (answered : Bool) (stored factory : α) (view : α → ℤ) :
      view (fieldOr answered stored factory) =
        if answered then view (fieldOr true stored factory) else view factory := by
    cases answered <;> rfl
  cases field with
  | energy =>
    show ((storedConfig readOk fram).limitEnergy : ℤ) =
      if readOk 22 then ((storedConfig (fun _ ↦ true) fram).limitEnergy : ℤ) else _
    rw [storedConfig_energy, storedConfig_energy]
    exact hfield (readOk 22) _ _ fun energy : ℕ ↦ (energy : ℤ)
  | enEnergy => exact hfield (readOk 34) _ _ fun on : Bool ↦ (on.toNat : ℤ)
  | enMulti => exact hfield (readOk 35) _ _ fun on : Bool ↦ (on.toNat : ℤ)
  | calVal => exact hfield (readOk 40) _ _ id
  | freqCalVal => exact hfield (readOk 42) _ _ id
  | etherIp octet | etherNm octet | etherGw octet =>
    obtain ⟨index, hindex⟩ := octet
    interval_cases index <;> exact hfield (readOk _) _ _ fun value : ℕ ↦ (value : ℤ)
  | _ => exact hfield (readOk _) _ _ fun value : ℕ ↦ (value : ℤ)

/-! ### Saving -/

/-- A save looks at the write faults of the bus only. -/
theorem saved_congr {bus bus' : I2cBus} (hwrite : bus.writeOk = bus'.writeOk) (cfg : AppConfig)
    (fram : Fram) : appConfigSaveAll bus cfg fram = appConfigSaveAll bus' cfg fram := by
  have hone : (fun (image : Fram) (write : ℕ × List ℕ) ↦ framWrite bus write.1 write.2 image) =
      fun image write ↦ framWrite bus' write.1 write.2 image := by
    funext image write
    exact framWrite_congr hwrite write.1 write.2 image
  rw [appConfigSaveAll, appConfigSaveAll, hone]

/-- Every octet of an address has its record. -/
theorem octet_record (cfg : AppConfig) (octet : Fin 4) :
    ((45 + octet : ℕ), [cfg.etherIp.get octet]) ∈ framMap cfg ∧
      ((49 + octet : ℕ), [cfg.etherNm.get octet]) ∈ framMap cfg ∧
      ((53 + octet : ℕ), [cfg.etherGw.get octet]) ∈ framMap cfg := by
  refine ⟨List.mem_of_getElem? (i := 26 + 3 * octet) ?_,
    List.mem_of_getElem? (i := 27 + 3 * octet) ?_, List.mem_of_getElem? (i := 28 + 3 * octet) ?_⟩
  all_goals
    obtain ⟨index, hindex⟩ := octet
    interval_cases index <;> rfl

/-- Assumes: the writes arrive. A save stores what a load lets through of the live values. -/
theorem storedValue_saved {bus : I2cBus} (hwrites : bus.Writes) (cfg : AppConfig) (fram : Fram)
    (field : StoredField) :
    storedValue (appConfigSaveAll bus cfg fram) field = field.kept (cfg.value field) := by
  rw [saved_congr hwrites]
  have hbyte {addr value : ℕ} (hwrite : (addr, [value]) ∈ framMap cfg) :
      (appConfigSaveAll .sound cfg fram addr : ℤ) = (value : ℤ) % 256 := by
    rw [framByte_saved hwrite, Int.natCast_emod]
    rfl
  have hword {addr value : ℕ} (hwrite : (addr, u16Bytes value) ∈ framMap cfg) :
      (framReadU16 (appConfigSaveAll .sound cfg fram) addr : ℤ) = (value : ℤ) % 65536 := by
    rw [framReadU16_saved hwrite, Int.natCast_emod]
    rfl
  have hlong {addr value : ℕ} (hwrite : (addr, u32Bytes value) ∈ framMap cfg) :
      (framReadU32 (appConfigSaveAll .sound cfg fram) addr : ℤ) = (value : ℤ) % 4294967296 := by
    rw [framReadU32_saved hwrite, Int.natCast_emod]
    rfl
  have hshort {addr : ℕ} {value : ℤ} (hwrite : (addr, u16Bytes (toUint16 value)) ∈ framMap cfg) :
      toInt16 (framReadU16 (appConfigSaveAll .sound cfg fram) addr) = toInt16 (toUint16 value) := by
    rw [framReadU16_saved hwrite, toInt16, toInt16, Nat.mod_mod, Int.natCast_emod]
    split_ifs <;> omega
  have hflag {addr : ℕ} {flag : Bool} (hwrite : (addr, [flag.toNat]) ∈ framMap cfg) :
      ((appConfigSaveAll .sound cfg fram addr == 1).toNat : ℤ) =
        if (flag.toNat : ℤ) % 256 = 1 then 1 else 0 := by
    rw [framByte_saved hwrite]
    cases flag <;> rfl
  cases field with
  | workCnt => exact hlong (by simp only [framMap, List.mem_cons, true_or])
  | energy =>
    have hsaved : (framReadU32 (appConfigSaveAll .sound cfg fram) 22 : ℤ) =
        (cfg.limitEnergy : ℤ) % 4294967296 :=
      hlong (by simp only [framMap, List.mem_cons, true_or, or_true])
    show ((storedConfig (fun _ ↦ true) (appConfigSaveAll .sound cfg fram)).limitEnergy : ℤ) =
      if (cfg.limitEnergy : ℤ) % 4294967296 > 100000 then 100000
      else (cfg.limitEnergy : ℤ) % 4294967296
    rw [storedConfig_energy, fieldOr, cond_true, cfgClampMax, ← hsaved]
    split_ifs <;> omega
  | outPower =>
    have hsaved : (appConfigSaveAll .sound cfg fram 19 : ℤ) = (cfg.outputPower : ℤ) % 256 :=
      hbyte (by simp only [framMap, List.mem_cons, true_or, or_true])
    show (cfgClampPower (appConfigSaveAll .sound cfg fram 19) : ℤ) = _
    dsimp only [StoredField.kept, AppConfig.value]
    rw [cfgClampPower, ← hsaved]
    split_ifs <;> omega
  | commSpeed =>
    have hsaved : (appConfigSaveAll .sound cfg fram 38 : ℤ) = (cfg.commSpeedIdx : ℤ) % 256 :=
      hbyte (by simp only [framMap, List.mem_cons, true_or, or_true])
    show ((if appConfigSaveAll .sound cfg fram 38 > 5 then 0
      else appConfigSaveAll .sound cfg fram 38 : ℕ) : ℤ) = _
    dsimp only [StoredField.kept, AppConfig.value]
    rw [← hsaved]
    split_ifs <;> omega
  | commParity =>
    have hsaved : (appConfigSaveAll .sound cfg fram 39 : ℤ) = (cfg.commParityIdx : ℤ) % 256 :=
      hbyte (by simp only [framMap, List.mem_cons, true_or, or_true])
    show ((if appConfigSaveAll .sound cfg fram 39 > 2 then 0
      else appConfigSaveAll .sound cfg fram 39 : ℕ) : ℤ) = _
    dsimp only [StoredField.kept, AppConfig.value]
    rw [← hsaved]
    split_ifs <;> omega
  | enEnergy | enMulti =>
    exact hflag (by simp only [framMap, List.mem_cons, true_or, or_true])
  | calVal =>
    show toInt16 (framReadU16 _ 40) = toInt16 (toUint16 cfg.calVal)
    exact hshort (by simp only [framMap, List.mem_cons, true_or, or_true])
  | freqCalVal =>
    show toInt16 (framReadU16 _ 42) = toInt16 (toUint16 cfg.freqCalVal)
    exact hshort (by simp only [framMap, List.mem_cons, true_or, or_true])
  | delay1 | delay2 | delay3 | trigger2 | trigger3 | onTime | multiT1 | multiT2 | multiO1
  | multiO2 =>
    exact hword (by simp only [framMap, List.mem_cons, true_or, or_true])
  | etherIp octet =>
    have hrecord := (octet_record cfg octet).1
    obtain ⟨index, hindex⟩ := octet
    interval_cases index <;> exact hbyte hrecord
  | etherNm octet =>
    have hrecord := (octet_record cfg octet).2.1
    obtain ⟨index, hindex⟩ := octet
    interval_cases index <;> exact hbyte hrecord
  | etherGw octet =>
    have hrecord := (octet_record cfg octet).2.2
    obtain ⟨index, hindex⟩ := octet
    interval_cases index <;> exact hbyte hrecord
  | safty | runMode | modelFreq | modelType | timeover | commAddr | commMode =>
    dsimp only [StoredField.kept, AppConfig.value, storedValue, storedConfig, fieldOr, cond_true]
    exact hbyte (by simp only [framMap, List.mem_cons, true_or, or_true])

/-- Assumes: the image holds bytes. A stored value is saved as it is. -/
theorem kept_stored {fram : Fram} (hbytes : ByteImage fram) (field : StoredField) :
    field.kept (storedValue fram field) = storedValue fram field := by
  have hbyte (addr : ℕ) : (fram addr : ℤ) % 256 = fram addr := by
    have hlt := hbytes addr
    omega
  have hword (addr : ℕ) : (framReadU16 fram addr : ℤ) % 65536 = framReadU16 fram addr := by
    have hhigh := hbytes addr
    have hlow := hbytes (addr + 1)
    rw [framReadU16]
    omega
  have hlong (addr : ℕ) : (framReadU32 fram addr : ℤ) % 4294967296 = framReadU32 fram addr := by
    have h0 := hbytes addr
    have h1 := hbytes (addr + 1)
    have h2 := hbytes (addr + 2)
    have h3 := hbytes (addr + 3)
    rw [framReadU32]
    omega
  have hshort (addr : ℕ) : toInt16 (toUint16 (toInt16 (framReadU16 fram addr))) =
      toInt16 (framReadU16 fram addr) := by
    rw [toUint16, toInt16, toInt16]
    split_ifs <;> omega
  have hflag (flag : Bool) : (if (flag.toNat : ℤ) % 256 = 1 then (1 : ℤ) else 0) = flag.toNat := by
    cases flag <;> rfl
  cases field with
  | workCnt => exact hlong 1
  | energy =>
    have hlimit : storedValue fram .energy = (cfgClampMax (framReadU32 fram 22) 100000 : ℕ) := by
      show ((storedConfig (fun _ ↦ true) fram).limitEnergy : ℤ) = _
      rw [storedConfig_energy, fieldOr, cond_true]
    rw [hlimit]
    dsimp only [StoredField.kept]
    rw [cfgClampMax]
    split_ifs <;> omega
  | outPower =>
    show StoredField.outPower.kept (cfgClampPower (fram 19) : ℕ) = (cfgClampPower (fram 19) : ℕ)
    have hlt := hbytes 19
    dsimp only [StoredField.kept]
    rw [cfgClampPower]
    split_ifs <;> omega
  | commSpeed =>
    show StoredField.commSpeed.kept ((if fram 38 > 5 then 0 else fram 38 : ℕ) : ℤ) =
      ((if fram 38 > 5 then 0 else fram 38 : ℕ) : ℤ)
    have hlt := hbytes 38
    dsimp only [StoredField.kept]
    split_ifs <;> omega
  | commParity =>
    show StoredField.commParity.kept ((if fram 39 > 2 then 0 else fram 39 : ℕ) : ℤ) =
      ((if fram 39 > 2 then 0 else fram 39 : ℕ) : ℤ)
    have hlt := hbytes 39
    dsimp only [StoredField.kept]
    split_ifs <;> omega
  | enEnergy => exact hflag (fram 34 == 1)
  | enMulti => exact hflag (fram 35 == 1)
  | calVal => exact hshort 40
  | freqCalVal => exact hshort 42
  | etherIp octet | etherNm octet | etherGw octet =>
    obtain ⟨index, hindex⟩ := octet
    interval_cases index <;> exact hbyte _
  | delay1 | delay2 | delay3 | trigger2 | trigger3 | onTime | multiT1 | multiT2 | multiO1
  | multiO2 => exact hword _
  | safty | runMode | modelFreq | modelType | timeover | commAddr | commMode => exact hbyte _

/-- The factory defaults are values of their records. -/
theorem kept_factory (field : StoredField) : field.kept (appConfigFactoryDefaults.value field) =
    appConfigFactoryDefaults.value field := by
  cases field with
  | etherIp octet | etherNm octet | etherGw octet =>
    obtain ⟨index, hindex⟩ := octet
    interval_cases index <;> rfl
  | _ => rfl

/-! ### Loading -/

/-- Assumes: the FRAM is initialised. A load gives a field its stored value if the read answers, the
factory default if not. -/
theorem value_loaded (bus : I2cBus) {fram : Fram} (hflag : fram 0 = framInitFlagMagic)
    (field : StoredField) : (appConfigLoad bus fram).cfg.value field =
      if bus.answers field then storedValue fram field
      else appConfigFactoryDefaults.value field := by
  cases hread : bus.readOk 0 with
  | false =>
    rw [appConfigLoad, if_pos hread, I2cBus.answers, hread, Bool.false_and,
      if_neg Bool.false_ne_true]
  | true =>
    rw [appConfigLoad_initialised hread hflag, I2cBus.answers, hread, Bool.true_and]
    exact value_stored bus.readOk fram field

/-- Assumes: the FRAM is initialised and the writes arrive. A load keeps what is stored; the energy
limit it writes back is the one it reads. -/
theorem storedValue_loaded {bus : I2cBus} (hwrites : bus.Writes) {fram : Fram}
    (hflag : fram 0 = framInitFlagMagic) (field : StoredField) :
    storedValue (appConfigLoad bus fram).fram field = storedValue fram field := by
  cases hread : bus.readOk 0 with
  | false => rw [appConfigLoad, if_pos hread]
  | true =>
    rw [appConfigLoad_initialised hread hflag]
    by_cases hover : (bus.readOk 22 && decide (framReadU32 fram 22 > 100000)) = true
    · rw [if_pos hover, framWrite_congr hwrites]
      have hlimit : framReadU32 fram 22 > 100000 := by simpa using (Bool.and_eq_true_iff.mp hover).2
      refine congrArg (fun cfg : AppConfig ↦ cfg.value field) (storedConfig_image ?_ ?_)
      · exact fun a _ _ hout ↦ framWrite_outside .sound _ fram hout
      · rw [framReadU32_written _ _ (by decide), cfgClampMax, cfgClampMax, if_pos hlimit,
          if_neg (lt_irrefl _)]
    · rw [if_neg hover]

/-- Neither a save nor a load touches the flag of an initialised FRAM. -/
theorem flag_kept (bus : I2cBus) {fram : Fram} (hflag : fram 0 = framInitFlagMagic)
    (hwrites : bus.Writes) (cfg : AppConfig) :
    appConfigSaveAll bus cfg fram 0 = framInitFlagMagic ∧
      (appConfigLoad bus fram).fram 0 = framInitFlagMagic := by
  constructor
  · rw [saved_congr hwrites]
    exact (saved_outside (by decide)).trans hflag
  · cases hread : bus.readOk 0 with
    | false =>
      rw [appConfigLoad, if_pos hread]
      exact hflag
    | true =>
      rw [appConfigLoad_initialised hread hflag]
      dsimp only
      split_ifs
      · exact (framWrite_outside bus _ fram (by decide)).trans hflag
      · exact hflag

/-! ### Calls -/

/-- The FRAM goes on holding bytes. -/
theorem exec_byteImage (build : Build) (call : Call) {s : Sys} (hbytes : ByteImage s.fram) :
    ByteImage (call.exec build s).fram := by
  rw [exec_fram]
  split_ifs
  · exact byteImage_saved hbytes _ _
  · exact byteImage_loaded hbytes _
  · exact hbytes

/-- Assumes: the FRAM is initialised and the writes arrive. A call that saves stores the live values
it leaves, and every other call keeps the stored ones. -/
theorem exec_stored (build : Build) {call : Call} {s : Sys} (hwrites : call.bus.Writes)
    (hflag : s.fram 0 = framInitFlagMagic) :
    (call.exec build s).fram 0 = framInitFlagMagic ∧
      ∀ field : StoredField, storedValue (call.exec build s).fram field =
        if Saves build call s then field.kept ((call.exec build s).cfg.value field)
        else storedValue s.fram field := by
  have hkept := flag_kept call.bus hflag hwrites (call.exec build s).cfg
  rw [exec_fram]
  by_cases hsave : Saves build call s = true
  · rw [if_pos hsave]
    exact ⟨hkept.1, fun field ↦ (storedValue_saved hwrites _ _ field).trans (if_pos hsave).symm⟩
  · rw [if_neg hsave]
    by_cases hloads : call.loads = true
    · rw [if_pos hloads]
      exact ⟨hkept.2, fun field ↦ (storedValue_loaded hwrites hflag field).trans
        (if_neg hsave).symm⟩
    · rw [if_neg hloads]
      exact ⟨hflag, fun field ↦ (if_neg hsave).symm⟩

/-! ### States that a load has left -/

/-- Configuration and FRAM of the state are those a load has left. -/
def LoadedFrom (bus : I2cBus) (fram : Fram) (s : Sys) : Prop :=
  s.cfg = (appConfigLoad bus fram).cfg ∧ s.fram = (appConfigLoad bus fram).fram

theorem boot_loaded (build : Build) (boot : BootIn) :
    LoadedFrom boot.bus boot.fram (bootState build boot) := by
  have hline (s : Sys) : Stored s (applyConfig build boot.sensDn s) := by
    unfold applyConfig
    dsimp only
    split_ifs <;> exact ⟨rfl, rfl⟩
  have hstored := hline (appInit boot (resetState build boot))
  have hinit : LoadedFrom boot.bus boot.fram (appInit boot (resetState build boot)) := by
    unfold appInit appLcdInitMode
    exact ⟨changePage_cfg boot.tPage _, (side_changePage boot.tPage _).fram⟩
  exact ⟨hstored.1.trans hinit.1, hstored.2.trans hinit.2⟩

theorem cancel_loaded (build : Build) {call : Call} (hloads : call.loads = true) (s : Sys) :
    LoadedFrom call.bus s.fram (call.exec build s) := exec_load build hloads s

/-- In every run of a board whose FRAM holds bytes at power-up it goes on holding bytes. -/
theorem byteImage_run (build : Build) {boot : BootIn} (hbytes : ByteImage boot.fram)
    (history : List Call) : ByteImage (stateAfter build boot history).fram := by
  refine (controller build boot).invariant (fun s ↦ ByteImage s.fram) ?_
    (fun call s h ↦ exec_byteImage build call h) history
  show ByteImage (bootState build boot).fram
  rw [(boot_loaded build boot).2]
  exact byteImage_loaded hbytes boot.bus

end UsCtrl
