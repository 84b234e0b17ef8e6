import SatelIntegra.TroubleCache
import SatelIntegra.TroubleCodes
import SatelIntegra.TroubleParts

/-!
# The two trouble decoders agree

Each structure has, for the troubles of its command, a field or an entry of a bit
vector. The two decoders accept the same frames, and what the declarative one
emits is what the structure has there. Two kinds of flag have no place of their
own: the structure has one field for all eight modules of the ETHM troubles, and
none for the reserved bits of a GSM module.
-/

namespace SatelIntegra

open CheckedAccess

section Fields

/-- The entry of number `n` in a vector whose first entry has number `start`. -/
def entry {α : Type} (vector : List α) (start n : Nat) : Option α :=
  if n < start then none else vector[n - start]?

def MainBoardTroubles.flag (board : MainBoardTroubles) : TroubleType → Option Bool
  | .mainBoardOutOverload 1 => board.out1Trouble
  | .mainBoardOutOverload 2 => board.out2Trouble
  | .mainBoardOutOverload 3 => board.out3Trouble
  | .mainBoardOutOverload 4 => board.out4Trouble
  | .mainBoardKpdPowerOverload => board.kpdPowerTrouble
  | .mainBoardExPowerOverload => board.ex1Ex2PowerTrouble
  | .mainBoardBatteryLow => board.batteryTrouble
  | .mainBoardAcLoss => board.acTrouble
  | .mainBoardDataBusDt1 => board.dt1Trouble
  | .mainBoardDataBusDt2 => board.dt2Trouble
  | .mainBoardDataBusDtm => board.dtmTrouble
  | .rtcLoss => board.rtcTrouble
  | .noDtrSignal => board.noDtrSignal
  | .mainBoardBatteryMissing => board.noBatteryPresent
  | .externalModemInitTrouble => board.externalModemInitTrouble
  | .externalModemCmdTrouble => board.externalModemCmdTrouble
  | .telephoneLineNoVoltage => board.telLineNoVoltage
  | .telephoneLineBadSignal => board.telLineBadSignal
  | .telephoneLineNoSignal => board.telLineNoSignal
  | .monitoringStation1Trouble => board.monitoringStation1Trouble
  | .monitoringStation2Trouble => board.monitoringStation2Trouble
  | .eepromRtcTrouble => board.eepromRtcTrouble
  | .ramMemoryError => board.ramTrouble
  | .mainPanelRestartMemory => board.mainPanelRestart
  | _ => none

def EthmPtsaTroubles.flag (ethm : EthmPtsaTroubles) : TroubleType → Option Bool
  | .ethmMonitoringStation1Error => ethm.noEthmMonStation1
  | .ethmMonitoringStation2Error => ethm.noEthmMonStation2
  | .gprsMonitoringStation1Error => ethm.noGprsMonStation1
  | .gprsMonitoringStation2Error => ethm.noGprsMonStation2
  | .timeServerTrouble => ethm.timeServerTrouble
  | .gsmInitError => ethm.gsmInitError
  | .ipMonitoringStation1Trouble => ethm.ipMonStation1Trouble
  | .ipMonitoringStation2Trouble => ethm.ipMonStation2Trouble
  | _ => none

def TroublesPart1Data.flag (part : TroublesPart1Data) : TroubleType → Option Bool
  | .technicalZoneTrouble n => entry part.technicalZones 1 n.toNat
  | .expanderAcLoss n => entry part.expandersAc 1 n.toNat
  | .expanderBatteryLow n => entry part.expandersBattery 1 n.toNat
  | .expanderBatteryMissing n => entry part.expandersNoBattery 1 n.toNat
  | trouble => part.mainBoard.flag trouble <|> part.ethmPtsa.flag trouble

def TroublesPart2Data.flag (part : TroublesPart2Data) : TroubleType → Option Bool
  | .expanderCardReaderHeadA n => entry part.cardReadersHeadAOrSynchro 1 n.toNat
  | .expanderCardReaderHeadB n => entry part.cardReadersHeadBOrCharging 1 n.toNat
  | .expanderSupplyOverload n => entry part.expandersSupplyOverload 1 n.toNat
  | .expanderAcuJammedOrShortCircuit n => entry part.acuJammedOrShortCircuit 1 n.toNat
  | _ => none

def TroublesMemoryPart2Data.flag (part : TroublesMemoryPart2Data) : TroubleType → Option Bool
  | .expanderCardReaderHeadA n => entry part.cardReadersHeadAOrSynchro 1 n.toNat
  | .expanderCardReaderHeadB n => entry part.cardReadersHeadBOrCharging 1 n.toNat
  | .expanderSupplyOverload n => entry part.expandersSupplyOverload 1 n.toNat
  | .expanderAcuJammedOrShortCircuit n => entry part.acuJammedOrShortCircuit 1 n.toNat
  | .keypadRestart n => entry part.keypadRestart 1 n.toNat
  | .expanderRestart n => entry part.expanderRestart 1 n.toNat
  | _ => none

/-- The wireless troubles, which three structures list. -/
def wirelessFlag (start : Nat) (lowBattery noComm outputsNoComm : List Bool) :
    TroubleType → Option Bool
  | .wirelessDeviceLowBattery n => entry lowBattery start n.toNat
  | .wirelessDeviceNoComm n => entry noComm start n.toNat
  | .wirelessOutputNoComm n => entry outputsNoComm start n.toNat
  | _ => none

/-- The zone troubles of the two memory frames of part 5 and 7. -/
def zoneFlag (start : Nat) (longViolation noViolation tamper : List Bool) :
    TroubleType → Option Bool
  | .zoneLongViolationTrouble n => entry longViolation start n.toNat
  | .zoneNoViolationTrouble n => entry noViolation start n.toNat
  | .zoneTamperTrouble n => entry tamper start n.toNat
  | _ => none

def TroublesPart4Data.flag (part : TroublesPart4Data) : TroubleType → Option Bool
  | .expanderNoComm n => entry part.expandersNoComm 1 n.toNat
  | .expanderSubstituted n => entry part.expandersSubstituted 1 n.toNat
  | .keypadNoComm n => entry part.keypadsNoComm 1 n.toNat
  | .keypadSubstituted n => entry part.keypadsSubstituted 1 n.toNat
  | .ethmNoLanCable n => entry part.ethmNoLanOrIntrsNoDsr 1 n.toNat
  | .expanderTamper n => entry part.expandersTamper 1 n.toNat
  | .keypadTamper n => entry part.keypadsTamper 1 n.toNat
  | .keypadInitError n => entry part.keypadInitErrors 1 n.toNat
  | .auxiliaryStmTroubles => part.auxiliaryStmTroubles != 0
  | _ => none

def TroublesPart5Data.flag (part : TroublesPart5Data) : TroubleType → Option Bool
  | .masterKeyFobLowBattery n => entry part.mastersKeyFobsLowBattery 1 n.toNat
  | .userKeyFobLowBattery n => entry part.usersKeyFobsLowBattery 1 n.toNat
  | _ => none

def TroublesPart8Data.gsmModule (part : TroublesPart8Data) (address : UInt8) :
    Option GsmModuleTroubles :=
  part.gsmModules.find? fun gsm => gsm.moduleAddress == address

def TroublesPart8Data.flag (part : TroublesPart8Data) : TroubleType → Option Bool
  | .gsmEthmStation1Error m => (part.gsmModule m).map (·.noEthmMonStation1)
  | .gsmEthmStation2Error m => (part.gsmModule m).map (·.noEthmMonStation2)
  | .gsmGprsSim1Station1Error m => (part.gsmModule m).map (·.noGprsSim1MonStation1)
  | .gsmGprsSim1Station2Error m => (part.gsmModule m).map (·.noGprsSim1MonStation2)
  | .gsmGprsSim2Station1Error m => (part.gsmModule m).map (·.noGprsSim2MonStation1)
  | .gsmGprsSim2Station2Error m => (part.gsmModule m).map (·.noGprsSim2MonStation2)
  | .gsmSmsSim1Station1Error m => (part.gsmModule m).map (·.noSmsSim1MonStation1)
  | .gsmSmsSim1Station2Error m => (part.gsmModule m).map (·.noSmsSim1MonStation2)
  | .gsmSmsSim2Station1Error m => (part.gsmModule m).map (·.noSmsSim2MonStation1)
  | .gsmSmsSim2Station2Error m => (part.gsmModule m).map (·.noSmsSim2MonStation2)
  | .gsmSimPinError m 1 => (part.gsmModule m).map (·.wrongSim1Pin)
  | .gsmSimPinError m 2 => (part.gsmModule m).map (·.wrongSim2Pin)
  | .gsmSimLoggingError m 1 => (part.gsmModule m).map (·.sim1LoggingError)
  | .gsmSimLoggingError m 2 => (part.gsmModule m).map (·.sim2LoggingError)
  | .gsmSimCreditLow m 1 => (part.gsmModule m).map (·.sim1CreditLow)
  | .gsmSimCreditLow m 2 => (part.gsmModule m).map (·.sim2CreditLow)
  | .gsmSimSmsError m 1 => (part.gsmModule m).map (·.sim1SmsError)
  | .gsmSimSmsError m 2 => (part.gsmModule m).map (·.sim2SmsError)
  | .gsmJamming m => (part.gsmModule m).map (·.gsmJamming)
  | .gsmSettingsCrcError m => (part.gsmModule m).map (·.settingsCrcError)
  | .gsmModuleMissing m => (part.gsmModule m).map (·.missingModule)
  | .gsmModuleChanged m => (part.gsmModule m).map (·.changedModule)
  | .gsmServerConnError m => (part.gsmModule m).map (·.satelServerConnError)
  | .gsmMailServerConnError m => (part.gsmModule m).map (·.mailServerConnError)
  | .gsmNtpServerConnError m => (part.gsmModule m).map (·.ntpServerConnError)
  | _ => none

namespace TroublesData

/-- The field or vector entry for a trouble, as state or as memory. -/
def flag (data : TroublesData) (trouble : TroubleType) (memory : Bool) : Option Bool :=
  match data with
  | .part1 part => if memory = part.isMemory then part.flag trouble else none
  | .part2 part => if memory = part.isMemory then part.flag trouble else none
  | .memoryPart2 part => if memory then part.flag trouble else none
  | .part3 part =>
    if memory = part.isMemory then
      wirelessFlag 17 part.wirelessDevicesLowBattery part.wirelessDevicesNoComm
        part.wirelessOutputsNoComm trouble
    else none
  | .memoryPart3 part =>
    match trouble with
    | .expanderAcuJammedOrShortCircuit n =>
      if memory then entry part.acuJammedOrShortCircuitMemory 17 n.toNat
      else entry part.acuJammedOrShortCircuit 17 n.toNat
    | _ =>
      if memory then
        wirelessFlag 17 part.wirelessDevicesLowBattery part.wirelessDevicesNoComm
          part.wirelessOutputsNoComm trouble
      else none
  | .part4 part => if memory = part.isMemory then part.flag trouble else none
  | .part5 part => if memory = part.isMemory then part.flag trouble else none
  | .memoryPart5 part =>
    if memory then zoneFlag 1 part.zoneLongViolation part.zoneNoViolation part.zoneTamper trouble
    else none
  | .part6 part =>
    if memory = part.isMemory then
      wirelessFlag 137 part.wirelessDevicesLowBattery part.wirelessDevicesNoComm
        part.wirelessOutputsNoComm trouble
    else none
  | .part7 part =>
    match trouble with
    | .technicalZoneTrouble n =>
      if memory then entry part.technicalZonesMemory 129 n.toNat
      else entry part.technicalZones 129 n.toNat
    | _ => none
  | .memoryPart7 part =>
    if memory then zoneFlag 129 part.zoneLongViolation part.zoneNoViolation part.zoneTamper trouble
    else none
  | .part8 part => if memory = part.isMemory then part.flag trouble else none

def level (data : TroublesData) (module : UInt8) : Option UInt8 :=
  match data with
  | .part3 part => entry part.acuJamLevels 1 module.toNat
  | .part7 part => entry part.acuJamLevels 16 module.toNat
  | _ => none

def code (data : TroublesData) (key : CodeKey) : Option UInt16 :=
  match data, key with
  | .memoryPart2 part, (.panel, 1, false) => some part.simCmeError
  | .memoryPart2 part, (.panel, 1, true) => some part.simCmeErrorMemory
  | .part8 part, (.gsmModule m, 1, memory) =>
    if memory = part.isMemory then (part.gsmModule m).map (·.sim1CmeError) else none
  | .part8 part, (.gsmModule m, 2, memory) =>
    if memory = part.isMemory then (part.gsmModule m).map (·.sim2CmeError) else none
  | _, _ => none

end TroublesData

def TroubleType.isEthmPing : TroubleType → Bool
  | .ethmPingTrouble _ => true
  | _ => false

def TroubleType.isEthmServerId : TroubleType → Bool
  | .ethmServerIdError _ => true
  | _ => false

def TroubleType.isEthmServerConnection : TroubleType → Bool
  | .ethmSatelServerConnectionError _ => true
  | _ => false

/-- The structure has one field for all modules. -/
def TroubleType.isPooled (trouble : TroubleType) : Bool :=
  trouble.isEthmPing || trouble.isEthmServerId || trouble.isEthmServerConnection

/-- Some flag of a kind is active. -/
def anyActive (kind : TroubleType → Bool) (items : List TroubleItem) : Bool :=
  (flagsOf items).any fun flag => kind flag.1.1 && flag.2

/-- Every item is what the structure has for it; of the flags, those that `covers` admits. -/
structure TroublesData.Agrees (covers : TroubleType → Bool) (data : TroublesData)
    (items : List TroubleItem) : Prop where
  flags : ∀ trouble memory active, .flag trouble memory active ∈ items → covers trouble = true →
    trouble.isPooled = false → data.flag trouble memory = some active
  pooled : ∀ part, data = .part1 part →
    part.ethmPtsa.ethmPingTrouble = anyActive TroubleType.isEthmPing items ∧
      part.ethmPtsa.serverIdError = anyActive TroubleType.isEthmServerId items ∧
      part.ethmPtsa.noServerConnection = anyActive TroubleType.isEthmServerConnection items
  levels : ∀ module level, .acuJamLevel module level ∈ items → data.level module = some level
  codes : ∀ source sim memory code, .cmeError source sim memory code ∈ items →
    data.code (source, sim, memory) = some code

end Fields

section Slots
variable {data : Frame} {flag : TroubleType → Bool → Option Bool} {memory : Bool} {offset : Nat}

/-- The flags of a structure are the slots, as the data has them. -/
def Shows (flag : TroubleType → Bool → Option Bool) (data : Frame) (slots : List Slot) : Prop :=
  ∀ slot ∈ slots, slot.trouble.isGeneric = false → slot.trouble.isPooled = false →
    flag slot.trouble slot.memory = some (slot.raised data)

lemma shows_nil : Shows flag data [] := by
  intro slot hslot
  cases hslot

lemma shows_rules {rule : FieldRule} {rules : List FieldRule} (first : Shows flag data rule.slots)
    (rest : Shows flag data (rules.flatMap FieldRule.slots)) :
    Shows flag data ((rule :: rules).flatMap FieldRule.slots) := by
  intro slot hslot
  rcases List.mem_append.mp hslot with h | h
  · exact first slot h
  · exact rest slot h

lemma shows_bitSlots {troubles : List TroubleType}
    (h : ∀ i (hi : i < troubles.length), troubles[i].isGeneric = false →
      troubles[i].isPooled = false → flag troubles[i] memory = some (fieldBit data offset i)) :
    Shows flag data (bitSlots offset memory troubles) := by
  intro slot hslot specific single
  obtain ⟨⟨trouble, i⟩, hmem, rfl⟩ := List.mem_map.mp hslot
  obtain ⟨hi, htrouble⟩ := List.mem_zipIdx' hmem
  have at_i := h i hi
  rw [← htrouble] at at_i
  exact at_i specific single

lemma entry_fieldBit {vector : List Bool} {width start n : Nat}
    (hvector : vector = (List.range width).map (fieldBit data offset)) (above : start ≤ n)
    (below : n - start < width) : entry vector start n = some (fieldBit data offset (n - start)) := by
  rw [entry, if_neg (Nat.not_lt.mpr above), hvector]
  simp [below]

/-- A bit vector has the entries of a bit field. -/
lemma shows_numbered {vector : List Bool} {width count : Nat} {start : UInt16}
    {constructor : UInt16 → TroubleType}
    (hvector : vector = (List.range width).map (fieldBit data offset)) (inside : count ≤ width)
    (small : start.toNat + count ≤ UInt16.size)
    (h : ∀ n, n.toNat < start.toNat + count →
      flag (constructor n) memory = entry vector start.toNat n.toNat) :
    Shows flag data (bitSlots offset memory (numbered count start constructor)) := by
  apply shows_bitSlots
  intro i hi _ _
  have below : i < count := by simpa [numbered] using hi
  have size : UInt16.size = 65536 := rfl
  have number : (start + UInt16.ofNat i).toNat = start.toNat + i := by
    rw [UInt16.toNat_add, UInt16.toNat_ofNat']
    omega
  simp only [numbered, List.getElem_map, List.getElem_range]
  rw [h _ (by omega), number, entry_fieldBit hvector (by omega) (by omega), Nat.add_sub_cancel_left]

lemma shows_numbered8 {vector : List Bool} {width count : Nat} {start : UInt16}
    {constructor : UInt8 → TroubleType}
    (hvector : vector = (List.range width).map (fieldBit data offset)) (inside : count ≤ width)
    (small : start.toNat + count ≤ UInt8.size)
    (h : ∀ n, flag (constructor n) memory = entry vector start.toNat n.toNat) :
    Shows flag data
      (bitSlots offset memory (numbered count start fun x => constructor x.toUInt8)) := by
  have size : UInt8.size = 256 := rfl
  have size' : UInt16.size = 65536 := rfl
  refine shows_numbered hvector inside (by omega) ?_
  intro n hn
  have number : n.toUInt8.toNat = n.toNat := by
    rw [UInt16.toNat_toUInt8]
    omega
  rw [h, number]

lemma shows_modules {vector : List Bool} {constructor : UInt8 → TroubleType}
    (hvector : vector = (List.range 8).map (fieldBit data offset))
    (h : ∀ n, flag (constructor n) memory = entry vector 1 n.toNat) :
    Shows flag data (FieldRule.moduleMask offset memory constructor).slots := by
  apply shows_bitSlots
  intro i hi _ _
  have below : i < 8 := by simpa using hi
  have number : (UInt8.ofNat (i + 1)).toNat = i + 1 := by
    rw [UInt8.toNat_ofNat']
    omega
  simp only [List.getElem_map, List.getElem_range]
  rw [h, number, entry_fieldBit hvector (by omega) (by omega), Nat.add_sub_cancel]

lemma shows_pooled {constructor : UInt8 → TroubleType}
    (h : ∀ n, (constructor n).isPooled = true) :
    Shows flag data (FieldRule.moduleMask offset memory constructor).slots := by
  apply shows_bitSlots
  intro i _ _ single
  simp only [List.getElem_map, h] at single
  cases single

/-- The named fields are the bits of the data, in order; what follows the table is reserved. -/
lemma shows_table {troubles reserved : List TroubleType}
    (h : troubles.map (fun trouble => flag trouble memory) =
      (List.range troubles.length).map fun i => some (fieldBit data offset i))
    (generic : ∀ trouble ∈ reserved, trouble.isGeneric = true) :
    Shows flag data (bitSlots offset memory (troubles ++ reserved)) := by
  apply shows_bitSlots
  intro i hi specific _
  by_cases named : i < troubles.length
  · have at_i := congrArg (·[i]?) h
    simpa [named] using at_i
  · have late : troubles.length ≤ i := Nat.not_lt.mp named
    have := generic _ (List.getElem_mem (by simp at hi; omega : i - troubles.length < reserved.length))
    rw [List.getElem_append_right late, this] at specific
    cases specific

lemma shows_fields {troubles : List TroubleType}
    (h : troubles.map (fun trouble => flag trouble memory) =
      (List.range troubles.length).map fun i => some (fieldBit data offset i)) :
    Shows flag data (bitSlots offset memory troubles) := by
  rw [← List.append_nil troubles]
  exact shows_table h (by simp)

lemma shows_flatMap {slots : Nat → List Slot} {indices : List Nat}
    (h : ∀ i ∈ indices, Shows flag data (slots i)) : Shows flag data (indices.flatMap slots) := by
  intro slot hslot
  obtain ⟨i, hi, hmem⟩ := List.mem_flatMap.mp hslot
  exact h i hi slot hmem

end Slots

section Reading
variable {data : Frame}

lemma sliceBits_eq (lo hi : Nat) (h : lo ≤ hi) (near : hi < 8192) (inside : hi ≤ data.length) :
    sliceBits data lo hi = .ok ((List.range (8 * (hi - lo))).map (fieldBit data lo)) := by
  have short : ((data.drop lo).take (hi - lo)).length < 8192 := by
    rw [List.length_take]
    omega
  rw [sliceBits, slice_of_le data lo hi h inside, ok_bind, extractBitsChecked_short short]
  exact congrArg Except.ok (extractBits_slice data lo (hi - lo) (by omega))

lemma index_byte (i : Nat) (h : i < data.length) : index data i = .ok (data.getD i 0) :=
  index_getD data i h

lemma slice_bytes (lo hi : Nat) (h : lo ≤ hi) (inside : hi ≤ data.length) :
    slice data lo hi = .ok ((List.range (hi - lo)).map fun i => data.getD (lo + i) 0) := by
  rw [slice_of_le data lo hi h inside]
  refine congrArg Except.ok (List.ext_getElem ?_ ?_)
  · simp only [List.length_take, List.length_drop, List.length_map, List.length_range]
    omega
  · intro i h₁ h₂
    have below : i < hi - lo := by simpa using h₂
    simp [show lo + i < data.length by omega]

lemma troublesPart_long {α : Type} {commands : List UInt8} {minLength : Nat}
    (read : UInt8 → Frame → Except Panic α) {command : UInt8}
    (known : commands.contains command = true) (long : minLength ≤ data.length) :
    troublesPart commands minLength read (command :: data) = checked (read command data) := by
  simp only [troublesPart, List.isEmpty_cons, Bool.false_eq_true, if_false, index_cons_zero,
    checked_ok_bind, known, Bool.not_true, sliceFrom_cons_one, Nat.not_lt.mpr long]

lemma troublesPart_short {α : Type} {commands : List UInt8} {minLength : Nat}
    (read : UInt8 → Frame → Except Panic α) (command : UInt8) (short : data.length < minLength) :
    troublesPart commands minLength read (command :: data) = throw .invalidFrame := by
  simp only [troublesPart, List.isEmpty_cons, Bool.false_eq_true, if_false, index_cons_zero,
    checked_ok_bind, sliceFrom_cons_one, short, if_true]
  split <;> rfl

end Reading

/-- Some slot of a kind is raised. -/
def anyRaised (kind : TroubleType → Bool) (slots : List Slot) (data : Frame) : Bool :=
  (slots.filter fun slot => kind slot.trouble).any fun slot => slot.raised data

/-- What a structure has is what the data has at the places of its command. -/
structure TroublesData.ReadFrom (parsed : TroublesData) (cmd : UInt8) (data : Frame) : Prop where
  flags : Shows parsed.flag data (layout cmd)
  pooled : ∀ part, parsed = .part1 part →
    part.ethmPtsa.ethmPingTrouble = anyRaised TroubleType.isEthmPing (layout cmd) data ∧
      part.ethmPtsa.serverIdError = anyRaised TroubleType.isEthmServerId (layout cmd) data ∧
      part.ethmPtsa.noServerConnection =
        anyRaised TroubleType.isEthmServerConnection (layout cmd) data
  levels : ∀ place ∈ levelLayout cmd, parsed.level place.1 = some (data.getD place.2 0)
  codes : ∀ place ∈ codeLayout cmd, parsed.code place.1 = some (wordAt data place.2)

section Parts
variable (now : LocalTime) {data : Frame}

/-- An entry of the bytes that hold the jam levels. -/
lemma entry_bytes {offset start count n : Nat} (above : start ≤ n) (below : n - start < count) :
    entry ((List.range count).map fun i => data.getD (offset + i) 0) start n =
      some (data.getD (offset + (n - start)) 0) := by
  rw [entry, if_neg (Nat.not_lt.mpr above)]
  simp [below]

lemma any_bitSet (byte : UInt8) : (List.range 8).any (bitSet byte) = (byte != 0) := by
  have all : ∀ n : Fin 256,
      (List.range 8).any (bitSet (UInt8.ofNat n)) = (UInt8.ofNat n != 0) := by decide +kernel
  have this_byte := all ⟨byte.toNat, byte.toNat_lt⟩
  rwa [UInt8.ofNat_toNat] at this_byte

/-- A whole byte is non-zero when one of its eight flags is raised. -/
lemma anyRaised_modules {kind : TroubleType → Bool} {slots : List Slot} {offset : Nat}
    {memory : Bool} {constructor : UInt8 → TroubleType}
    (own : slots.filter (fun slot => kind slot.trouble) =
      (FieldRule.moduleMask offset memory constructor).slots) :
    (data.getD offset 0 != 0) = anyRaised kind slots data := by
  rw [anyRaised, own, ← any_bitSet]
  rfl

lemma ethm_slots (memory : Bool) :
    (layout (part 0x1B 0x20 memory)).filter (fun slot => slot.trouble.isEthmPing) =
        (FieldRule.moduleMask 43 memory .ethmPingTrouble).slots ∧
      (layout (part 0x1B 0x20 memory)).filter (fun slot => slot.trouble.isEthmServerId) =
        (FieldRule.moduleMask 44 memory .ethmServerIdError).slots ∧
      (layout (part 0x1B 0x20 memory)).filter (fun slot => slot.trouble.isEthmServerConnection) =
        (FieldRule.moduleMask 45 memory .ethmSatelServerConnectionError).slots := by
  cases memory <;> decide

lemma readPart1_readFrom (memory : Bool) (long : 47 ≤ data.length) :
    ∃ parsed, readPart1 now memory data = .ok parsed ∧
      (TroublesData.part1 parsed).ReadFrom (part 0x1B 0x20 memory) data := by
  simp (disch := omega) only [readPart1, sliceBits_eq, index_byte]
  obtain ⟨ping, serverId, connection⟩ := ethm_slots memory
  cases memory
  all_goals
    refine ⟨_, rfl, ?_, ?_, ?_, ?_⟩
    · refine shows_rules (shows_numbered rfl le_rfl (by decide) fun _ _ => rfl) ?_
      refine shows_rules (shows_numbered8 rfl le_rfl (by decide) fun _ => rfl) ?_
      refine shows_rules (shows_numbered8 rfl le_rfl (by decide) fun _ => rfl) ?_
      refine shows_rules (shows_numbered8 rfl le_rfl (by decide) fun _ => rfl) ?_
      refine shows_rules (shows_fields rfl) ?_
      refine shows_rules (shows_pooled fun _ => rfl) ?_
      refine shows_rules (shows_pooled fun _ => rfl) ?_
      refine shows_rules (shows_pooled fun _ => rfl) ?_
      exact shows_rules (shows_fields rfl) shows_nil
    · rintro part ⟨⟩
      exact ⟨anyRaised_modules ping, anyRaised_modules serverId, anyRaised_modules connection⟩
    · rintro place ⟨⟩
    · rintro place ⟨⟩

lemma readPart2_readFrom (long : 26 ≤ data.length) :
    ∃ parsed, readPart2 now data = .ok parsed ∧
      (TroublesData.part2 parsed).ReadFrom 0x1C data := by
  simp (disch := omega) only [readPart2, sliceBits_eq]
  refine ⟨_, rfl, ?_, ?_, ?_, ?_⟩
  · refine shows_rules (shows_numbered8 rfl le_rfl (by decide) fun _ => rfl) ?_
    refine shows_rules (shows_numbered8 rfl le_rfl (by decide) fun _ => rfl) ?_
    refine shows_rules (shows_numbered8 rfl le_rfl (by decide) fun _ => rfl) ?_
    exact shows_rules (shows_numbered8 rfl le_rfl (by decide) fun _ => rfl) shows_nil
  · rintro part ⟨⟩
  · rintro place ⟨⟩
  · rintro place ⟨⟩

lemma readMemoryPart2_readFrom (long : 39 ≤ data.length) :
    ∃ parsed, readMemoryPart2 now data = .ok parsed ∧
      (TroublesData.memoryPart2 parsed).ReadFrom 0x21 data := by
  simp (disch := omega) only [readMemoryPart2, sliceBits_eq, index_byte]
  refine ⟨_, rfl, ?_, ?_, ?_, ?_⟩
  · refine shows_rules (shows_numbered8 rfl le_rfl (by decide) fun _ => rfl) ?_
    refine shows_rules (shows_numbered8 rfl le_rfl (by decide) fun _ => rfl) ?_
    refine shows_rules (shows_numbered8 rfl le_rfl (by decide) fun _ => rfl) ?_
    refine shows_rules (shows_numbered8 rfl le_rfl (by decide) fun _ => rfl) ?_
    refine shows_rules (shows_modules rfl fun _ => rfl) ?_
    refine shows_rules (shows_numbered8 rfl le_rfl (by decide) fun _ => rfl) ?_
    exact shows_rules shows_nil shows_nil
  · rintro part ⟨⟩
  · rintro place ⟨⟩
  · have places : codeLayout 0x21 = [((.panel, 1, false), 35), ((.panel, 1, true), 37)] := rfl
    rw [places]
    intro place hplace
    rcases List.mem_pair.mp hplace with rfl | rfl
    · rfl
    · rfl

lemma readPart3_readFrom (long : 60 ≤ data.length) :
    ∃ parsed, readPart3 now data = .ok parsed ∧
      (TroublesData.part3 parsed).ReadFrom 0x1D data := by
  simp (disch := omega) only [readPart3, sliceBits_eq, slice_bytes]
  refine ⟨_, rfl, ?_, ?_, ?_, ?_⟩
  · refine shows_rules shows_nil ?_
    refine shows_rules (shows_numbered rfl le_rfl (by decide) fun _ _ => rfl) ?_
    refine shows_rules (shows_numbered rfl le_rfl (by decide) fun _ _ => rfl) ?_
    exact shows_rules (shows_numbered rfl le_rfl (by decide) fun _ _ => rfl) shows_nil
  · rintro part ⟨⟩
  · have places : levelLayout 0x1D = (List.range 15).map fun i => (UInt8.ofNat (i + 1), i) := rfl
    rw [places]
    intro place hplace
    obtain ⟨i, hi, rfl⟩ := List.mem_map.mp hplace
    have below := List.mem_range.mp hi
    have number : (UInt8.ofNat (i + 1)).toNat = i + 1 := by
      rw [UInt8.toNat_ofNat']
      omega
    change entry _ 1 (UInt8.ofNat (i + 1)).toNat = some (data.getD i 0)
    rw [number, entry_bytes (by omega) (by omega), Nat.zero_add, Nat.add_sub_cancel]
  · rintro place ⟨⟩

lemma readMemoryPart3_readFrom (long : 60 ≤ data.length) :
    ∃ parsed, readMemoryPart3 now data = .ok parsed ∧
      (TroublesData.memoryPart3 parsed).ReadFrom 0x22 data := by
  simp (disch := omega) only [readMemoryPart3, sliceBits_eq]
  refine ⟨_, rfl, ?_, ?_, ?_, ?_⟩
  · refine shows_rules (shows_numbered8 rfl (by decide) (by decide) fun _ => rfl) ?_
    refine shows_rules (shows_numbered8 rfl (by decide) (by decide) fun _ => rfl) ?_
    refine shows_rules (shows_numbered rfl le_rfl (by decide) fun _ _ => rfl) ?_
    refine shows_rules (shows_numbered rfl le_rfl (by decide) fun _ _ => rfl) ?_
    exact shows_rules (shows_numbered rfl le_rfl (by decide) fun _ _ => rfl) shows_nil
  · rintro part ⟨⟩
  · rintro place ⟨⟩
  · rintro place ⟨⟩

lemma readPart4_readFrom (memory : Bool) (long : 30 ≤ data.length) :
    ∃ parsed, readPart4 now memory data = .ok parsed ∧
      (TroublesData.part4 parsed).ReadFrom (part 0x1E 0x23 memory) data := by
  simp (disch := omega) only [readPart4, sliceBits_eq, index_byte]
  have whole : data.getD 29 0 &&& (0xFF : UInt8) = data.getD 29 0 := UInt8.and_neg_one
  cases memory
  all_goals
    refine ⟨_, rfl, ?_, ?_, ?_, ?_⟩
    · refine shows_rules (shows_numbered8 rfl le_rfl (by decide) fun _ => rfl) ?_
      refine shows_rules (shows_numbered8 rfl le_rfl (by decide) fun _ => rfl) ?_
      refine shows_rules (shows_modules rfl fun _ => rfl) ?_
      refine shows_rules (shows_modules rfl fun _ => rfl) ?_
      refine shows_rules (shows_modules rfl fun _ => rfl) ?_
      refine shows_rules (shows_numbered8 rfl le_rfl (by decide) fun _ => rfl) ?_
      refine shows_rules (shows_modules rfl fun _ => rfl) ?_
      refine shows_rules (shows_modules rfl fun _ => rfl) ?_
      refine shows_rules ?_ shows_nil
      intro slot hslot _ _
      cases List.mem_singleton.mp hslot
      rw [Slot.raised, whole]
      rfl
    · rintro part ⟨⟩
    · rintro place ⟨⟩
    · rintro place ⟨⟩

lemma readPart5_readFrom (long : 31 ≤ data.length) :
    ∃ parsed, readPart5 now data = .ok parsed ∧
      (TroublesData.part5 parsed).ReadFrom 0x1F data := by
  simp (disch := omega) only [readPart5, sliceBits_eq]
  refine ⟨_, rfl, ?_, ?_, ?_, ?_⟩
  · refine shows_rules (shows_modules rfl fun _ => rfl) ?_
    exact shows_rules (shows_numbered rfl le_rfl (by decide) fun _ _ => rfl) shows_nil
  · rintro part ⟨⟩
  · rintro place ⟨⟩
  · rintro place ⟨⟩

lemma readMemoryPart5_readFrom (long : 48 ≤ data.length) :
    ∃ parsed, readMemoryPart5 now data = .ok parsed ∧
      (TroublesData.memoryPart5 parsed).ReadFrom 0x24 data := by
  simp (disch := omega) only [readMemoryPart5, sliceBits_eq]
  refine ⟨_, rfl, ?_, ?_, ?_, ?_⟩
  · refine shows_rules (shows_numbered rfl le_rfl (by decide) fun _ _ => rfl) ?_
    refine shows_rules (shows_numbered rfl le_rfl (by decide) fun _ _ => rfl) ?_
    exact shows_rules (shows_numbered rfl le_rfl (by decide) fun _ _ => rfl) shows_nil
  · rintro part ⟨⟩
  · rintro place ⟨⟩
  · rintro place ⟨⟩

lemma readPart6_readFrom (memory : Bool) (long : 45 ≤ data.length) :
    ∃ parsed, readPart6 now memory data = .ok parsed ∧
      (TroublesData.part6 parsed).ReadFrom (part 0x2C 0x2E memory) data := by
  simp (disch := omega) only [readPart6, sliceBits_eq]
  cases memory
  all_goals
    refine ⟨_, rfl, ?_, ?_, ?_, ?_⟩
    · refine shows_rules (shows_numbered rfl le_rfl (by decide) fun _ _ => rfl) ?_
      refine shows_rules (shows_numbered rfl le_rfl (by decide) fun _ _ => rfl) ?_
      exact shows_rules (shows_numbered rfl le_rfl (by decide) fun _ _ => rfl) shows_nil
    · rintro part ⟨⟩
    · rintro place ⟨⟩
    · rintro place ⟨⟩

lemma readPart7_readFrom (long : 47 ≤ data.length) :
    ∃ parsed, readPart7 now data = .ok parsed ∧
      (TroublesData.part7 parsed).ReadFrom 0x2D data := by
  simp (disch := omega) only [readPart7, sliceBits_eq, slice_bytes]
  refine ⟨_, rfl, ?_, ?_, ?_, ?_⟩
  · refine shows_rules (shows_numbered rfl le_rfl (by decide) fun _ _ => rfl) ?_
    refine shows_rules (shows_numbered rfl le_rfl (by decide) fun _ _ => rfl) ?_
    exact shows_rules shows_nil shows_nil
  · rintro part ⟨⟩
  · have places : levelLayout 0x2D =
        (List.range 15).map fun i => (UInt8.ofNat (i + 16), 32 + i) := rfl
    rw [places]
    intro place hplace
    obtain ⟨i, hi, rfl⟩ := List.mem_map.mp hplace
    have below := List.mem_range.mp hi
    have number : (UInt8.ofNat (i + 16)).toNat = i + 16 := by
      rw [UInt8.toNat_ofNat']
      omega
    change entry _ 16 (UInt8.ofNat (i + 16)).toNat = some (data.getD (32 + i) 0)
    rw [number, entry_bytes (by omega) (by omega), Nat.add_sub_cancel]
  · rintro place ⟨⟩

lemma readMemoryPart7_readFrom (long : 48 ≤ data.length) :
    ∃ parsed, readMemoryPart7 now data = .ok parsed ∧
      (TroublesData.memoryPart7 parsed).ReadFrom 0x2F data := by
  simp (disch := omega) only [readMemoryPart7, sliceBits_eq]
  refine ⟨_, rfl, ?_, ?_, ?_, ?_⟩
  · refine shows_rules (shows_numbered rfl le_rfl (by decide) fun _ _ => rfl) ?_
    refine shows_rules (shows_numbered rfl le_rfl (by decide) fun _ _ => rfl) ?_
    exact shows_rules (shows_numbered rfl le_rfl (by decide) fun _ _ => rfl) shows_nil
  · rintro part ⟨⟩
  · rintro place ⟨⟩
  · rintro place ⟨⟩

/-- One chunk holds the flags of its module, the reserved bits apart, and two codes. -/
lemma readGsmModule_shows (memory : Bool) {addr : Nat} (small : addr < 8)
    (inside : addr * 8 + 8 ≤ data.length) :
    ∃ gsm, readGsmModule data addr = .ok gsm ∧ gsm.moduleAddress = UInt8.ofNat addr ∧
      gsm.sim1CmeError = wordAt data (addr * 8 + 4) ∧
      gsm.sim2CmeError = wordAt data (addr * 8 + 6) ∧
      ∀ part : TroublesPart8Data, part.gsmModule (UInt8.ofNat addr) = some gsm →
        Shows (fun trouble _ => part.flag trouble) data
          (bitSlots (addr * 8) memory (gsmTroubles addr)) := by
  have width : (addr + 1) * 8 - addr * 8 = 8 := by omega
  have chunk : slice data (addr * 8) ((addr + 1) * 8) =
      .ok ((List.range 8).map fun i => data.getD (addr * 8 + i) 0) := by
    rw [slice_bytes _ _ (by omega) (by omega), width]
  simp (disch := omega) only [readGsmModule, fit_usize, ok_bind, chunk]
  refine ⟨_, rfl, rfl, rfl, rfl, ?_⟩
  intro part found
  refine shows_table ?_ (by simp [TroubleType.isGeneric])
  simp only [List.map_cons, List.map_nil, TroublesPart8Data.flag, found, Option.map_some,
    List.length_cons, List.length_nil, Nat.zero_add, Nat.reduceAdd]
  exact rfl

lemma find_address {gsm : Nat → GsmModuleTroubles}
    (address : ∀ addr < 8, (gsm addr).moduleAddress = UInt8.ofNat addr) {addr : Nat}
    (small : addr < 8) :
    ((List.range 8).map gsm).find? (fun g => g.moduleAddress == UInt8.ofNat addr) =
      some (gsm addr) := by
  rw [List.find?_map]
  have first : (List.range 8).find? (fun k => (gsm k).moduleAddress == UInt8.ofNat addr) =
      some addr := by
    rw [List.find?_range_eq_some]
    refine ⟨?_, List.mem_range.mpr small, ?_⟩
    · simp [address addr small]
    · intro k hk
      have apart : UInt8.ofNat k ≠ UInt8.ofNat addr := by
        intro h
        have := congrArg UInt8.toNat h
        rw [UInt8.toNat_ofNat', UInt8.toNat_ofNat'] at this
        omega
      simp [address k (by omega), apart]
  exact congrArg (Option.map gsm) first

lemma readPart8_readFrom (memory : Bool) (long : 64 ≤ data.length) :
    ∃ parsed, readPart8 now memory data = .ok parsed ∧
      (TroublesData.part8 parsed).ReadFrom (part 0x30 0x31 memory) data := by
  have each : ∀ addr, ∃ gsm, addr < 8 → readGsmModule data addr = .ok gsm ∧
      gsm.moduleAddress = UInt8.ofNat addr ∧ gsm.sim1CmeError = wordAt data (addr * 8 + 4) ∧
      gsm.sim2CmeError = wordAt data (addr * 8 + 6) ∧
      ∀ part : TroublesPart8Data, part.gsmModule (UInt8.ofNat addr) = some gsm →
        Shows (fun trouble _ => part.flag trouble) data
          (bitSlots (addr * 8) memory (gsmTroubles addr)) := by
    intro addr
    by_cases small : addr < 8
    · have inside : addr * 8 + 8 ≤ data.length := by omega
      obtain ⟨gsm, h⟩ := readGsmModule_shows memory small inside
      exact ⟨gsm, fun _ => h⟩
    · have inside : 0 * 8 + 8 ≤ data.length := by omega
      obtain ⟨gsm, -⟩ := readGsmModule_shows memory (by decide) inside
      exact ⟨gsm, fun h => absurd h small⟩
  choose gsm hgsm using each
  have loop := mapM_ok (f := readGsmModule data) (g := gsm) (List.range 8)
    fun addr h => (hgsm addr (List.mem_range.mp h)).1
  have found {addr : Nat} (small : addr < 8) : ((List.range 8).map gsm).find?
      (fun g => g.moduleAddress == UInt8.ofNat addr) = some (gsm addr) :=
    find_address (fun addr h => (hgsm addr h).2.1) small
  simp only [readPart8, loop]
  refine ⟨⟨memory, (List.range 8).map gsm, now⟩, rfl, ?_, ?_, ?_, ?_⟩
  · have slots : layout (part 0x30 0x31 memory) = (List.range 8).flatMap fun module =>
        bitSlots (module * 8) memory (gsmTroubles module) := by
      cases memory <;> exact List.append_nil _
    rw [slots]
    apply shows_flatMap
    intro module hmodule
    have small := List.mem_range.mp hmodule
    have shown := (hgsm module small).2.2.2.2 ⟨memory, (List.range 8).map gsm, now⟩ (found small)
    intro slot hslot specific single
    have own : slot.memory = memory := by
      obtain ⟨p, -, rfl⟩ := List.mem_map.mp hslot
      rfl
    simp only [TroublesData.flag, own, if_true]
    exact shown slot hslot specific single
  · rintro part ⟨⟩
  · cases memory <;> rintro place ⟨⟩
  · have places : codeLayout (part 0x30 0x31 memory) = (List.range 8).flatMap fun module =>
        [((.gsmModule (UInt8.ofNat module), 1, memory), module * 8 + 4),
         ((.gsmModule (UInt8.ofNat module), 2, memory), module * 8 + 6)] := by
      cases memory <;> exact List.append_nil _
    rw [places]
    intro place hplace
    obtain ⟨module, hmodule, hplace⟩ := List.mem_flatMap.mp hplace
    have small := List.mem_range.mp hmodule
    obtain ⟨-, -, first, second, -⟩ := hgsm module small
    rcases List.mem_pair.mp hplace with rfl | rfl
    · simp only [TroublesData.code, if_true, TroublesPart8Data.gsmModule, found small]
      exact congrArg some first
    · simp only [TroublesData.code, if_true, TroublesPart8Data.gsmModule, found small]
      exact congrArg some second

/-- The parser accepts exactly the frames with enough data, and reads its structure from them. -/
def TroublesData.Parses (cmd : UInt8) (minLength : Nat) (data : Frame) : Prop :=
  (minLength ≤ data.length → ∃ parsed : TroublesData,
      processTroublesFrame now (cmd :: data) = (.ok (.ok parsed) : Except Panic _) ∧
        parsed.ReadFrom cmd data) ∧
    (data.length < minLength →
      processTroublesFrame now (cmd :: data) = (.ok (.error .invalidFrame) : Except Panic _))

lemma parses_part {α : Type} {commands : List UInt8} {cmd : UInt8} {minLength : Nat}
    {read : UInt8 → Frame → Except Panic α} {inject : α → TroublesData}
    (known : commands.contains cmd = true)
    (dispatch : processTroublesFrame now (cmd :: data) =
      inject <$> troublesPart commands minLength read (cmd :: data))
    (reads : minLength ≤ data.length →
      ∃ parsed, read cmd data = .ok parsed ∧ (inject parsed).ReadFrom cmd data) :
    TroublesData.Parses now cmd minLength data := by
  constructor
  · intro long
    obtain ⟨parsed, h, readFrom⟩ := reads long
    refine ⟨inject parsed, ?_, readFrom⟩
    rw [dispatch, troublesPart_long read known long, h]
    rfl
  · intro short
    rw [dispatch, troublesPart_short read cmd short]
    rfl

lemma getRules_parses {cmd : UInt8} {minLength : Nat} {rules : List FieldRule}
    (known : getRules cmd = some (minLength, rules)) (data : Frame) :
    TroublesData.Parses now cmd minLength data := by
  unfold getRules at known
  split at known <;> cases known
  · exact parses_part now rfl rfl (readPart1_readFrom now false)
  · exact parses_part now rfl rfl (readPart1_readFrom now true)
  · exact parses_part now rfl rfl (readPart2_readFrom now)
  · exact parses_part now rfl rfl (readMemoryPart2_readFrom now)
  · exact parses_part now rfl rfl (readPart3_readFrom now)
  · exact parses_part now rfl rfl (readMemoryPart3_readFrom now)
  · exact parses_part now rfl rfl (readPart4_readFrom now false)
  · exact parses_part now rfl rfl (readPart4_readFrom now true)
  · exact parses_part now rfl rfl (readPart5_readFrom now)
  · exact parses_part now rfl rfl (readMemoryPart5_readFrom now)
  · exact parses_part now rfl rfl (readPart6_readFrom now false)
  · exact parses_part now rfl rfl (readPart6_readFrom now true)
  · exact parses_part now rfl rfl (readPart7_readFrom now)
  · exact parses_part now rfl rfl (readMemoryPart7_readFrom now)
  · exact parses_part now rfl rfl (readPart8_readFrom now false)
  · exact parses_part now rfl rfl (readPart8_readFrom now true)

/-- No other command is a trouble frame. -/
lemma getRules_none {cmd : UInt8} (unknown : getRules cmd = none) (data : Frame) :
    processTroublesFrame now (cmd :: data) = (.ok (.error .invalidFrame) : Except Panic _) := by
  have ruled : (troubleCommands.all fun known => (getRules known).isSome) = true := by decide
  have other (known : UInt8) (mem : known ∈ troubleCommands) : cmd ≠ known := by
    rintro rfl
    cases unknown ▸ List.all_eq_true.mp ruled cmd mem
  simp only [processTroublesFrame, List.isEmpty_cons, Bool.false_eq_true, if_false,
    index_cons_zero, checked_ok_bind]
  split
  case h_17 => rfl
  all_goals exact absurd rfl (other _ (by decide))

end Parts

section Agreement
variable {parsed : TroublesData} {cmd : UInt8} {data : Frame} {items : List TroubleItem}

lemma anyActive_eq_anyRaised (kind : TroubleType → Bool)
    (shown : flagsOf items = Slot.reported (layout cmd) data) :
    anyActive kind items = anyRaised kind (layout cmd) data := by
  rw [anyActive, shown, Bool.eq_iff_iff, List.any_eq_true, anyRaised, List.any_eq_true]
  constructor
  · rintro ⟨⟨key, active⟩, hmem, hactive⟩
    obtain ⟨slot, hslot, rfl, rfl, -⟩ := Slot.mem_reported.mp hmem
    obtain ⟨own, raised⟩ := Bool.and_eq_true_iff.mp hactive
    exact ⟨slot, List.mem_filter.mpr ⟨hslot, own⟩, raised⟩
  · rintro ⟨slot, hslot, raised⟩
    obtain ⟨hslot, own⟩ := List.mem_filter.mp hslot
    refine ⟨(slot.key, true), Slot.mem_reported.mpr ⟨slot, hslot, rfl, raised, fun _ => rfl⟩, ?_⟩
    exact Bool.and_eq_true_iff.mpr ⟨own, rfl⟩

/-- A structure that is read from the data agrees with the items. -/
lemma TroublesData.ReadFrom.agrees (readFrom : parsed.ReadFrom cmd data)
    (decoded : decodeTroubles cmd data = (.ok (.ok items) : Except Panic _)) :
    parsed.Agrees (fun trouble => !trouble.isGeneric) items := by
  have shown := flagsOf_decoded decoded
  obtain ⟨levels, codes⟩ := decodeTroubles_words decoded
  refine ⟨?_, ?_, ?_, ?_⟩
  · intro trouble memory active hmem covered single
    have hflag : ((trouble, memory), active) ∈ flagsOf items :=
      List.mem_filterMap.mpr ⟨_, hmem, rfl⟩
    rw [shown] at hflag
    obtain ⟨slot, hslot, hkey, rfl, -⟩ := Slot.mem_reported.mp hflag
    cases hkey
    exact readFrom.flags slot hslot (by simpa using covered) single
  · intro part hpart
    rw [anyActive_eq_anyRaised _ shown, anyActive_eq_anyRaised _ shown,
      anyActive_eq_anyRaised _ shown]
    exact readFrom.pooled part hpart
  · intro module level hmem
    have hlevel : (module, level) ∈ levelsOf items := List.mem_filterMap.mpr ⟨_, hmem, rfl⟩
    rw [levels] at hlevel
    obtain ⟨place, hplace, heq⟩ := List.mem_map.mp hlevel
    cases heq
    exact readFrom.levels place hplace
  · intro source sim memory code hmem
    have hcode : ((source, sim, memory), code) ∈ codesOf items :=
      List.mem_filterMap.mpr ⟨_, hmem, rfl⟩
    rw [codes] at hcode
    obtain ⟨place, hplace, heq⟩ := List.mem_map.mp hcode
    obtain ⟨hkey, hword⟩ := Prod.mk.inj heq
    have read := readFrom.codes place hplace
    rwa [hkey, hword] at read

/-- The two decoders accept the same frames, and every item but the flag of a reserved bit is what
the structure has for it. -/
theorem trouble_decoders_agree (now : LocalTime) (cmd : UInt8) (data : Frame) :
    ((∃ parsed, processTroublesFrame now (cmd :: data) = (.ok (.ok parsed) : Except Panic _)) ↔
      ∃ items, decodeTroubles cmd data = (.ok (.ok items) : Except Panic _)) ∧
    ∀ parsed items,
      processTroublesFrame now (cmd :: data) = (.ok (.ok parsed) : Except Panic _) →
      decodeTroubles cmd data = (.ok (.ok items) : Except Panic _) →
        parsed.Agrees (fun trouble => !trouble.isGeneric) items := by
  have accepts := decodeTroubles_flags cmd data
  unfold AcceptsTroubles at accepts
  cases known : getRules cmd with
  | none =>
    have rejected := getRules_none now known data
    rw [known] at accepts
    obtain ⟨⟨⟩, -⟩ | ⟨-, undecoded⟩ := accepts
    rw [rejected, undecoded]
    refine ⟨⟨?_, ?_⟩, ?_⟩
    · rintro ⟨parsed, ⟨⟩⟩
    · rintro ⟨items, ⟨⟩⟩
    · rintro parsed items ⟨⟩
  | some entry =>
    obtain ⟨minLength, rules⟩ := entry
    obtain ⟨reads, rejects⟩ := getRules_parses now known data
    rw [known] at accepts
    rcases accepts with ⟨long, items, decoded, -⟩ | ⟨short, undecoded⟩
    · obtain ⟨parsed, parsedAs, readFrom⟩ := reads long
      refine ⟨⟨fun _ => ⟨items, decoded⟩, fun _ => ⟨parsed, parsedAs⟩⟩, ?_⟩
      intro parsed' items' h h'
      cases parsedAs.symm.trans h
      exact readFrom.agrees h'
    · rw [rejects (Nat.not_le.mp short), undecoded]
      refine ⟨⟨?_, ?_⟩, ?_⟩
      · rintro ⟨parsed, ⟨⟩⟩
      · rintro ⟨items, ⟨⟩⟩
      · rintro parsed items ⟨⟩

/-- The decoders agree on a frame that sets every bit of a GSM module. -/
theorem trouble_decoders_agree_part8 :
    ∃ parsed items,
      processTroublesFrame ⟨0, Nat.zero_le _⟩ (0x30 :: List.replicate 64 0xFF) =
        (.ok (.ok parsed) : Except Panic _) ∧
      decodeTroubles 0x30 (List.replicate 64 0xFF) = (.ok (.ok items) : Except Panic _) ∧
      parsed.Agrees (fun trouble => !trouble.isGeneric) items := by
  have known : getRules 0x30 = some (64, [.custom false .gsmBlock]) := rfl
  obtain ⟨reads, -⟩ := getRules_parses ⟨0, Nat.zero_le _⟩ known (List.replicate 64 0xFF)
  obtain ⟨parsed, h, -⟩ := reads (by decide)
  have agree := trouble_decoders_agree ⟨0, Nat.zero_le _⟩ 0x30 (List.replicate 64 0xFF)
  obtain ⟨items, h'⟩ := agree.1.mp ⟨parsed, h⟩
  exact ⟨parsed, items, h, h', agree.2 parsed items h h'⟩

/-- No structure has a field for a reserved bit. -/
lemma TroublesData.flag_generic (parsed : TroublesData) (part : UInt8) (bit : UInt16)
    (memory : Bool) : parsed.flag (.genericTrouble part bit) memory = none := by
  cases parsed <;> simp only [flag] <;> first | rfl | (split <;> rfl)

/-- A reserved bit that is set is emitted as a flag, and the structure has nothing to agree with. -/
theorem reserved_bit_has_no_field :
    ∃ parsed items,
      processTroublesFrame ⟨0, Nat.zero_le _⟩ (0x30 :: reservedSet) =
        (.ok (.ok parsed) : Except Panic _) ∧
      decodeTroubles 0x30 reservedSet = (.ok (.ok items) : Except Panic _) ∧
      ¬ parsed.Agrees (fun _ => true) items := by
  have known : getRules 0x30 = some (64, [.custom false .gsmBlock]) := rfl
  obtain ⟨reads, -⟩ := getRules_parses ⟨0, Nat.zero_le _⟩ known reservedSet
  obtain ⟨parsed, h, -⟩ := reads (by decide)
  obtain ⟨-, items, h', shown⟩ | ⟨rejected, -⟩ := decodeTroubles_flags 0x30 reservedSet
  · refine ⟨parsed, items, h, h', ?_⟩
    intro agrees
    have hflag : (reservedSlot.key, true) ∈ flagsOf items := by
      rw [shown]
      exact Slot.mem_reported.mpr ⟨reservedSlot, reservedSlot_mem, rfl, by decide, fun _ => rfl⟩
    obtain ⟨item, hitem, heq⟩ := List.mem_filterMap.mp hflag
    cases item with
    | flag trouble memory active =>
      cases heq
      have shown := agrees.flags _ _ _ hitem rfl rfl
      cases (parsed.flag_generic 7 25 false).symm.trans shown
    | acuJamLevel module level => cases heq
    | cmeError source sim memory code => cases heq
  · exact absurd (by decide) rejected

end Agreement

end SatelIntegra
