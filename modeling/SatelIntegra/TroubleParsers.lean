import SatelIntegra.MaskParsers

/-!
# The trouble decoder

Sixteen commands carry troubles. A table gives each command its length and its
field rules; `decodeTroubles` runs the rules over the data bytes. The extractors
of the custom rules are an enumeration, so that a rule can also be asked which
data bits stand for which trouble.
-/

namespace SatelIntegra

open CheckedAccess

inductive TroubleItem where
  | flag (trouble : TroubleType) (memory : Bool) (active : Bool)
  | acuJamLevel (module : UInt8) (level : UInt8)
  | cmeError (source : CmeSource) (sim : UInt8) (memory : Bool) (code : UInt16)
  deriving DecidableEq, Repr

inductive Extractor where
  | systemTroubles
  | ethmPtsaStatus
  | auxStm
  | acuJamLevel
  | acuJamLevel16To30
  | panelCme
  | gsmBlock
  deriving DecidableEq, Repr

inductive FieldRule where
  /-- Bit `i` of the field stands for `constructor (startNum + i)`. -/
  | bitmask (offset length : Nat) (startNum : UInt16) (memory : Bool)
      (constructor : UInt16 → TroubleType)
  /-- One byte, each bit a module 1..8. -/
  | moduleMask (offset : Nat) (memory : Bool) (constructor : UInt8 → TroubleType)
  | custom (memory : Bool) (extractor : Extractor)
  | bitmaskLimit (offset length limit : Nat) (startNum : UInt16) (memory : Bool)
      (constructor : UInt16 → TroubleType)

def extractBits (bytes : Frame) : List Bool := bytes.flatMap byteBits

/-- `extract_bits`, which first makes room for `bytes.len() * 8` entries. -/
def extractBitsChecked (bytes : Frame) : Except Panic (List Bool) := do
  let _ ← fit usizeBound (bytes.length * 8)
  return extractBits bytes

lemma extractBitsChecked_short {bytes : Frame} (short : bytes.length < 8192) :
    extractBitsChecked bytes = .ok (extractBits bytes) := by
  rw [extractBitsChecked, fit_usize (by omega)]
  rfl

def flags (memory : Bool) (rules : List (TroubleType × Bool)) : List TroubleItem :=
  rules.map fun (trouble, active) => .flag trouble memory active

section Extractors

/-- The troubles of data bytes 40, 41 and 42, least significant bit first. -/
def systemTroubles : List TroubleType :=
  [.mainBoardOutOverload 1, .mainBoardOutOverload 2, .mainBoardOutOverload 3,
   .mainBoardOutOverload 4, .mainBoardKpdPowerOverload, .mainBoardExPowerOverload,
   .mainBoardBatteryLow, .mainBoardAcLoss,
   .mainBoardDataBusDt1, .mainBoardDataBusDt2, .mainBoardDataBusDtm, .rtcLoss,
   .noDtrSignal, .mainBoardBatteryMissing, .externalModemInitTrouble, .externalModemCmdTrouble,
   .telephoneLineNoVoltage, .telephoneLineBadSignal, .telephoneLineNoSignal,
   .monitoringStation1Trouble, .monitoringStation2Trouble, .eepromRtcTrouble, .ramMemoryError,
   .mainPanelRestartMemory]

/-- The troubles of data byte 46. -/
def ethmPtsaTroubles : List TroubleType :=
  [.ethmMonitoringStation1Error, .ethmMonitoringStation2Error, .gprsMonitoringStation1Error,
   .gprsMonitoringStation2Error, .timeServerTrouble, .gsmInitError, .ipMonitoringStation1Trouble,
   .ipMonitoringStation2Trouble]

/-- The troubles of the four flag bytes of a GSM module; the last seven bits are reserved. -/
def gsmTroubles (module : Nat) : List TroubleType :=
  let m := UInt8.ofNat module
  [.gsmEthmStation1Error m, .gsmEthmStation2Error m, .gsmGprsSim1Station1Error m,
   .gsmGprsSim1Station2Error m, .gsmGprsSim2Station1Error m, .gsmGprsSim2Station2Error m,
   .gsmSmsSim1Station1Error m, .gsmSmsSim1Station2Error m,
   .gsmSmsSim2Station1Error m, .gsmSmsSim2Station2Error m, .gsmSimPinError m 1,
   .gsmSimPinError m 2, .gsmSimLoggingError m 1, .gsmSimLoggingError m 2, .gsmSimCreditLow m 1,
   .gsmSimCreditLow m 2,
   .gsmSimSmsError m 1, .gsmSimSmsError m 2, .gsmJamming m, .gsmSettingsCrcError m,
   .gsmModuleMissing m, .gsmModuleChanged m, .gsmServerConnError m, .gsmMailServerConnError m,
   .gsmNtpServerConnError m] ++
  [1, 2, 3, 4, 5, 6, 7].map fun i =>
    .genericTrouble 7 (UInt16.ofNat (module * 8 * 8 + 3 * 8 + i))

def TroubleType.isGeneric : TroubleType → Bool
  | .genericTrouble .. => true
  | _ => false

def beU16 (high low : UInt8) : UInt16 := high.toUInt16 <<< 8 ||| low.toUInt16

def decodeSystemTroubles (data : Frame) (memory : Bool) : Except Panic (List TroubleItem) := do
  if data.length < 43 then return []
  let b1 ← index data 40
  let b2 ← index data 41
  let b3 ← index data 42
  return flags memory (systemTroubles.zip (byteBits b1 ++ byteBits b2 ++ byteBits b3))

def decodeEthmPtsaStatus (data : Frame) (memory : Bool) : Except Panic (List TroubleItem) := do
  if data.length < 47 then return []
  let p4 ← index data 46
  return flags memory (ethmPtsaTroubles.zip (byteBits p4))

/-- One trouble for the whole byte. -/
def decodeAuxStm (data : Frame) (memory : Bool) : Except Panic (List TroubleItem) := do
  if data.length > 29 then
    let active := (← index data 29) != 0
    return [.flag .auxiliaryStmTroubles memory active]
  else return []

def decodeAcuJamLevel (data : Frame) (_memory : Bool) : Except Panic (List TroubleItem) :=
  (List.range (min 15 data.length)).mapM fun i => do
    return .acuJamLevel (UInt8.ofNat (← fit usizeBound (i + 1))) (← index data i)

def decodeAcuJamLevel16To30 (data : Frame) (_memory : Bool) :
    Except Panic (List TroubleItem) := do
  if data.length < 47 then return []
  (List.range 15).mapM fun i => do
    return .acuJamLevel (UInt8.ofNat (← fit usizeBound (i + 16)))
      (← index data (← fit usizeBound (32 + i)))

def decodePanelCme (data : Frame) (_memory : Bool) : Except Panic (List TroubleItem) := do
  if data.length ≥ 39 then
    let cme1 := beU16 (← index data 35) (← index data 36)
    let cme2 := beU16 (← index data 37) (← index data 38)
    return [.cmeError .panel 1 false cme1, .cmeError .panel 1 true cme2]
  else return []

def decodeGsmModule (data : Frame) (memory : Bool) (module : Nat) :
    Except Panic (List TroubleItem) := do
  let off ← fit usizeBound (module * 8)
  let at_ (k : Nat) : Except Panic UInt8 := do index data (← fit usizeBound (off + k))
  let b0 ← index data off
  let b1 ← at_ 1
  let b2 ← at_ 2
  let b3 ← at_ 3
  let m := UInt8.ofNat module
  -- the number of the last reserved bit is the greatest
  let _ ← fit usizeBound ((← fit usizeBound (off * 8)) + 3 * 8 + 7)
  let bits := byteBits b0 ++ byteBits b1 ++ byteBits b2 ++ byteBits b3
  -- a reserved bit is reported only while it is set
  let reported := ((gsmTroubles module).zip bits).filter fun (trouble, active) =>
    !trouble.isGeneric || active
  let sim1Cme := beU16 (← at_ 4) (← at_ 5)
  let sim2Cme := beU16 (← at_ 6) (← at_ 7)
  return flags memory reported ++
    [.cmeError (.gsmModule m) 1 memory sim1Cme, .cmeError (.gsmModule m) 2 memory sim2Cme]

/-- The loop over the modules stops at the first that is cut off. -/
def decodeGsmBlock (data : Frame) (memory : Bool) : Except Panic (List TroubleItem) := do
  -- `off + 8` of the last module is the greatest
  let _ ← fit usizeBound ((← fit usizeBound (7 * 8)) + 8)
  let modules := (List.range 8).takeWhile fun module => ¬ data.length < module * 8 + 8
  return (← modules.mapM (decodeGsmModule data memory)).flatten

def Extractor.run : Extractor → Frame → Bool → Except Panic (List TroubleItem)
  | .systemTroubles => decodeSystemTroubles
  | .ethmPtsaStatus => decodeEthmPtsaStatus
  | .auxStm => decodeAuxStm
  | .acuJamLevel => decodeAcuJamLevel
  | .acuJamLevel16To30 => decodeAcuJamLevel16To30
  | .panelCme => decodePanelCme
  | .gsmBlock => decodeGsmBlock

end Extractors

section Rules
open TroubleType FieldRule

/-- The length and the field rules of a command. -/
def getRules (cmd : UInt8) : Option (Nat × List FieldRule) :=
  match cmd with
  | 0x1B => some (47, [
      bitmask 0 16 1 false technicalZoneTrouble,
      bitmask 16 8 1 false fun x => expanderAcLoss x.toUInt8,
      bitmask 24 8 1 false fun x => expanderBatteryLow x.toUInt8,
      bitmask 32 8 1 false fun x => expanderBatteryMissing x.toUInt8,
      custom false .systemTroubles,
      moduleMask 43 false ethmPingTrouble,
      moduleMask 44 false ethmServerIdError,
      moduleMask 45 false ethmSatelServerConnectionError,
      custom false .ethmPtsaStatus])
  | 0x20 => some (47, [
      bitmask 0 16 1 true technicalZoneTrouble,
      bitmask 16 8 1 true fun x => expanderAcLoss x.toUInt8,
      bitmask 24 8 1 true fun x => expanderBatteryLow x.toUInt8,
      bitmask 32 8 1 true fun x => expanderBatteryMissing x.toUInt8,
      custom true .systemTroubles,
      moduleMask 43 true ethmPingTrouble,
      moduleMask 44 true ethmServerIdError,
      moduleMask 45 true ethmSatelServerConnectionError,
      custom true .ethmPtsaStatus])
  | 0x1C => some (26, [
      bitmask 0 8 1 false fun x => expanderCardReaderHeadA x.toUInt8,
      bitmask 8 8 1 false fun x => expanderCardReaderHeadB x.toUInt8,
      bitmask 16 8 1 false fun x => expanderSupplyOverload x.toUInt8,
      bitmask 24 2 1 false fun x => expanderAcuJammedOrShortCircuit x.toUInt8])
  | 0x21 => some (39, [
      bitmask 0 8 1 true fun x => expanderCardReaderHeadA x.toUInt8,
      bitmask 8 8 1 true fun x => expanderCardReaderHeadB x.toUInt8,
      bitmask 16 8 1 true fun x => expanderSupplyOverload x.toUInt8,
      bitmask 24 2 1 true fun x => expanderAcuJammedOrShortCircuit x.toUInt8,
      moduleMask 26 true keypadRestart,
      bitmask 27 8 1 true fun x => expanderRestart x.toUInt8,
      custom true .panelCme])
  | 0x1D => some (60, [
      custom false .acuJamLevel,
      bitmask 15 15 17 false wirelessDeviceLowBattery,
      bitmask 30 15 17 false wirelessDeviceNoComm,
      bitmask 45 15 17 false wirelessOutputNoComm])
  | 0x22 => some (60, [
      bitmaskLimit 0 2 14 17 false fun x => expanderAcuJammedOrShortCircuit x.toUInt8,
      bitmaskLimit 2 2 14 17 true fun x => expanderAcuJammedOrShortCircuit x.toUInt8,
      bitmask 15 15 17 true wirelessDeviceLowBattery,
      bitmask 30 15 17 true wirelessDeviceNoComm,
      bitmask 45 15 17 true wirelessOutputNoComm])
  | 0x1E => some (30, [
      bitmask 0 8 1 false fun x => expanderNoComm x.toUInt8,
      bitmask 8 8 1 false fun x => expanderSubstituted x.toUInt8,
      moduleMask 16 false keypadNoComm,
      moduleMask 17 false keypadSubstituted,
      moduleMask 18 false ethmNoLanCable,
      bitmask 19 8 1 false fun x => expanderTamper x.toUInt8,
      moduleMask 27 false keypadTamper,
      moduleMask 28 false keypadInitError,
      custom false .auxStm])
  | 0x23 => some (30, [
      bitmask 0 8 1 true fun x => expanderNoComm x.toUInt8,
      bitmask 8 8 1 true fun x => expanderSubstituted x.toUInt8,
      moduleMask 16 true keypadNoComm,
      moduleMask 17 true keypadSubstituted,
      moduleMask 18 true ethmNoLanCable,
      bitmask 19 8 1 true fun x => expanderTamper x.toUInt8,
      moduleMask 27 true keypadTamper,
      moduleMask 28 true keypadInitError,
      custom true .auxStm])
  | 0x1F => some (31, [
      moduleMask 0 false masterKeyFobLowBattery,
      bitmask 1 30 1 false userKeyFobLowBattery])
  | 0x24 => some (48, [
      bitmask 0 16 1 true zoneLongViolationTrouble,
      bitmask 16 16 1 true zoneNoViolationTrouble,
      bitmask 32 16 1 true zoneTamperTrouble])
  | 0x2C => some (45, [
      bitmask 0 15 137 false wirelessDeviceLowBattery,
      bitmask 15 15 137 false wirelessDeviceNoComm,
      bitmask 30 15 137 false wirelessOutputNoComm])
  | 0x2E => some (45, [
      bitmask 0 15 137 true wirelessDeviceLowBattery,
      bitmask 15 15 137 true wirelessDeviceNoComm,
      bitmask 30 15 137 true wirelessOutputNoComm])
  | 0x2D => some (47, [
      bitmask 0 16 129 false technicalZoneTrouble,
      bitmask 16 16 129 true technicalZoneTrouble,
      custom false .acuJamLevel16To30])
  | 0x2F => some (48, [
      bitmask 0 16 129 true zoneLongViolationTrouble,
      bitmask 16 16 129 true zoneNoViolationTrouble,
      bitmask 32 16 129 true zoneTamperTrouble])
  | 0x30 => some (64, [custom false .gsmBlock])
  | 0x31 => some (64, [custom true .gsmBlock])
  | _ => none

def decodeBitmask (data : Frame) (offset length limit : Nat) (startNum : UInt16) (memory : Bool)
    (constructor : UInt16 → TroubleType) : Except Panic (List TroubleItem) := do
  let bits ← extractBitsChecked (← slice data offset (← fit usizeBound (offset + length)))
  (bits.zipIdx.take limit).mapM fun (active, i) => do
    return .flag (constructor (← addU16 startNum (UInt16.ofNat i))) memory active

def decodeRule (data : Frame) : FieldRule → Except Panic (List TroubleItem)
  | .bitmask offset length startNum memory constructor =>
    decodeBitmask data offset length (8 * length) startNum memory constructor
  | .moduleMask offset memory constructor => do
    let byte ← index data offset
    (List.range 8).mapM fun bit => do
      let number ← fit i32Bound (bit + 1)
      return .flag (constructor (UInt8.ofNat number)) memory (bitSet byte bit)
  | .bitmaskLimit offset length limit startNum memory constructor =>
    decodeBitmask data offset length limit startNum memory constructor
  | .custom memory extractor => extractor.run data memory

/-- The decoder of all trouble and trouble memory frames. -/
def decodeTroubles (cmd : UInt8) (data : Frame) : Parsed (List TroubleItem) := do
  match getRules cmd with
  | none => throw .invalidFrame
  | some (expectedLen, rules) =>
    if data.length < expectedLen then throw .invalidFrame
    let items ← checked (rules.mapM (decodeRule data))
    return items.flatten

end Rules
end SatelIntegra
