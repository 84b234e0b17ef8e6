import SatelIntegra.TroubleParsers

/-!
# The typed trouble frames

The same sixteen commands once more, each parsed into a structure with a named
field for every bit. The parsers check the command and a minimum length in the
same order; commands that share a layout share a parser.
-/

namespace SatelIntegra

open CheckedAccess

section Structures

structure MainBoardTroubles where
  out1Trouble : Bool
  out2Trouble : Bool
  out3Trouble : Bool
  out4Trouble : Bool
  kpdPowerTrouble : Bool
  ex1Ex2PowerTrouble : Bool
  batteryTrouble : Bool
  acTrouble : Bool
  dt1Trouble : Bool
  dt2Trouble : Bool
  dtmTrouble : Bool
  rtcTrouble : Bool
  noDtrSignal : Bool
  noBatteryPresent : Bool
  externalModemInitTrouble : Bool
  externalModemCmdTrouble : Bool
  telLineNoVoltage : Bool
  telLineBadSignal : Bool
  telLineNoSignal : Bool
  monitoringStation1Trouble : Bool
  monitoringStation2Trouble : Bool
  eepromRtcTrouble : Bool
  ramTrouble : Bool
  mainPanelRestart : Bool
  deriving DecidableEq, Repr

structure EthmPtsaTroubles where
  ethmPingTrouble : Bool
  serverIdError : Bool
  noServerConnection : Bool
  noEthmMonStation1 : Bool
  noEthmMonStation2 : Bool
  noGprsMonStation1 : Bool
  noGprsMonStation2 : Bool
  timeServerTrouble : Bool
  gsmInitError : Bool
  ipMonStation1Trouble : Bool
  ipMonStation2Trouble : Bool
  deriving DecidableEq, Repr

structure TroublesPart1Data where
  isMemory : Bool
  technicalZones : List Bool
  expandersAc : List Bool
  expandersBattery : List Bool
  expandersNoBattery : List Bool
  mainBoard : MainBoardTroubles
  ethmPtsa : EthmPtsaTroubles
  readAt : LocalTime
  deriving DecidableEq, Repr

structure TroublesPart2Data where
  isMemory : Bool
  cardReadersHeadAOrSynchro : List Bool
  cardReadersHeadBOrCharging : List Bool
  expandersSupplyOverload : List Bool
  acuJammedOrShortCircuit : List Bool
  readAt : LocalTime
  deriving DecidableEq, Repr

structure TroublesMemoryPart2Data where
  cardReadersHeadAOrSynchro : List Bool
  cardReadersHeadBOrCharging : List Bool
  expandersSupplyOverload : List Bool
  acuJammedOrShortCircuit : List Bool
  keypadRestart : List Bool
  expanderRestart : List Bool
  simCmeError : UInt16
  simCmeErrorMemory : UInt16
  readAt : LocalTime
  deriving DecidableEq, Repr

structure TroublesPart3Data where
  isMemory : Bool
  acuJamLevels : Frame
  wirelessDevicesLowBattery : List Bool
  wirelessDevicesNoComm : List Bool
  wirelessOutputsNoComm : List Bool
  readAt : LocalTime
  deriving DecidableEq, Repr

structure TroublesMemoryPart3Data where
  acuJammedOrShortCircuit : List Bool
  acuJammedOrShortCircuitMemory : List Bool
  wirelessDevicesLowBattery : List Bool
  wirelessDevicesNoComm : List Bool
  wirelessOutputsNoComm : List Bool
  readAt : LocalTime
  deriving DecidableEq, Repr

structure TroublesPart4Data where
  isMemory : Bool
  expandersNoComm : List Bool
  expandersSubstituted : List Bool
  keypadsNoComm : List Bool
  keypadsSubstituted : List Bool
  ethmNoLanOrIntrsNoDsr : List Bool
  expandersTamper : List Bool
  keypadsTamper : List Bool
  keypadInitErrors : List Bool
  auxiliaryStmTroubles : UInt8
  readAt : LocalTime
  deriving DecidableEq, Repr

structure TroublesPart5Data where
  isMemory : Bool
  mastersKeyFobsLowBattery : List Bool
  usersKeyFobsLowBattery : List Bool
  readAt : LocalTime
  deriving DecidableEq, Repr

structure TroublesMemoryPart5Data where
  zoneLongViolation : List Bool
  zoneNoViolation : List Bool
  zoneTamper : List Bool
  readAt : LocalTime
  deriving DecidableEq, Repr

structure TroublesPart6Data where
  isMemory : Bool
  wirelessDevicesLowBattery : List Bool
  wirelessDevicesNoComm : List Bool
  wirelessOutputsNoComm : List Bool
  readAt : LocalTime
  deriving DecidableEq, Repr

structure TroublesPart7Data where
  isMemory : Bool
  technicalZones : List Bool
  technicalZonesMemory : List Bool
  acuJamLevels : Frame
  readAt : LocalTime
  deriving DecidableEq, Repr

structure TroublesMemoryPart7Data where
  zoneLongViolation : List Bool
  zoneNoViolation : List Bool
  zoneTamper : List Bool
  readAt : LocalTime
  deriving DecidableEq, Repr

structure GsmModuleTroubles where
  moduleAddress : UInt8
  noEthmMonStation1 : Bool
  noEthmMonStation2 : Bool
  noGprsSim1MonStation1 : Bool
  noGprsSim1MonStation2 : Bool
  noGprsSim2MonStation1 : Bool
  noGprsSim2MonStation2 : Bool
  noSmsSim1MonStation1 : Bool
  noSmsSim1MonStation2 : Bool
  noSmsSim2MonStation1 : Bool
  noSmsSim2MonStation2 : Bool
  wrongSim1Pin : Bool
  wrongSim2Pin : Bool
  sim1LoggingError : Bool
  sim2LoggingError : Bool
  sim1CreditLow : Bool
  sim2CreditLow : Bool
  sim1SmsError : Bool
  sim2SmsError : Bool
  gsmJamming : Bool
  settingsCrcError : Bool
  missingModule : Bool
  changedModule : Bool
  satelServerConnError : Bool
  mailServerConnError : Bool
  ntpServerConnError : Bool
  sim1CmeError : UInt16
  sim2CmeError : UInt16
  deriving DecidableEq, Repr

structure TroublesPart8Data where
  isMemory : Bool
  gsmModules : List GsmModuleTroubles
  readAt : LocalTime
  deriving DecidableEq, Repr

inductive TroublesData where
  | part1 (data : TroublesPart1Data)
  | part2 (data : TroublesPart2Data)
  | memoryPart2 (data : TroublesMemoryPart2Data)
  | part3 (data : TroublesPart3Data)
  | memoryPart3 (data : TroublesMemoryPart3Data)
  | part4 (data : TroublesPart4Data)
  | part5 (data : TroublesPart5Data)
  | memoryPart5 (data : TroublesMemoryPart5Data)
  | part6 (data : TroublesPart6Data)
  | part7 (data : TroublesPart7Data)
  | memoryPart7 (data : TroublesMemoryPart7Data)
  | part8 (data : TroublesPart8Data)
  deriving DecidableEq, Repr

end Structures

section Parsers

/-- `extract_bits(&data[lo..hi])` -/
def sliceBits (data : Frame) (lo hi : Nat) : Except Panic (List Bool) :=
  do extractBitsChecked (← slice data lo hi)

/-- The checks that every part makes before it reads the data. -/
def troublesPart {α : Type} (commands : List UInt8) (minLength : Nat)
    (read : UInt8 → Frame → Except Panic α) (frame : Frame) : Parsed α := do
  if frame.isEmpty then throw .invalidFrame
  let command ← checked (index frame 0)
  if !commands.contains command then throw .invalidFrame
  let data ← checked (sliceFrom frame 1)
  if data.length < minLength then throw .invalidFrame
  checked (read command data)

variable (now : LocalTime)

def readPart1 (isMemory : Bool) (data : Frame) : Except Panic TroublesPart1Data := do
  let technicalZones ← sliceBits data 0 16
  let expandersAc ← sliceBits data 16 24
  let expandersBattery ← sliceBits data 24 32
  let expandersNoBattery ← sliceBits data 32 40
  let b1 ← index data 40
  let b2 ← index data 41
  let b3 ← index data 42
  let mainBoard : MainBoardTroubles := {
    out1Trouble := bitSet b1 0
    out2Trouble := bitSet b1 1
    out3Trouble := bitSet b1 2
    out4Trouble := bitSet b1 3
    kpdPowerTrouble := bitSet b1 4
    ex1Ex2PowerTrouble := bitSet b1 5
    batteryTrouble := bitSet b1 6
    acTrouble := bitSet b1 7
    dt1Trouble := bitSet b2 0
    dt2Trouble := bitSet b2 1
    dtmTrouble := bitSet b2 2
    rtcTrouble := bitSet b2 3
    noDtrSignal := bitSet b2 4
    noBatteryPresent := bitSet b2 5
    externalModemInitTrouble := bitSet b2 6
    externalModemCmdTrouble := bitSet b2 7
    telLineNoVoltage := bitSet b3 0
    telLineBadSignal := bitSet b3 1
    telLineNoSignal := bitSet b3 2
    monitoringStation1Trouble := bitSet b3 3
    monitoringStation2Trouble := bitSet b3 4
    eepromRtcTrouble := bitSet b3 5
    ramTrouble := bitSet b3 6
    mainPanelRestart := bitSet b3 7 }
  let p1 ← index data 43
  let p2 ← index data 44
  let p3 ← index data 45
  let p4 ← index data 46
  let ethmPtsa : EthmPtsaTroubles := {
    ethmPingTrouble := p1 != 0
    serverIdError := p2 != 0
    noServerConnection := p3 != 0
    noEthmMonStation1 := bitSet p4 0
    noEthmMonStation2 := bitSet p4 1
    noGprsMonStation1 := bitSet p4 2
    noGprsMonStation2 := bitSet p4 3
    timeServerTrouble := bitSet p4 4
    gsmInitError := bitSet p4 5
    ipMonStation1Trouble := bitSet p4 6
    ipMonStation2Trouble := bitSet p4 7 }
  return { isMemory, technicalZones, expandersAc, expandersBattery, expandersNoBattery, mainBoard,
           ethmPtsa, readAt := now }

def processTroublesPart1 : Frame → Parsed TroublesPart1Data :=
  troublesPart [0x1B, 0x20] 47 fun command => readPart1 now (command == 0x20)

def readPart2 (data : Frame) : Except Panic TroublesPart2Data :=
  return { isMemory := false
           cardReadersHeadAOrSynchro := ← sliceBits data 0 8
           cardReadersHeadBOrCharging := ← sliceBits data 8 16
           expandersSupplyOverload := ← sliceBits data 16 24
           acuJammedOrShortCircuit := ← sliceBits data 24 26
           readAt := now }

def processTroublesPart2 : Frame → Parsed TroublesPart2Data :=
  troublesPart [0x1C] 26 fun _ => readPart2 now

def readMemoryPart2 (data : Frame) : Except Panic TroublesMemoryPart2Data :=
  return { cardReadersHeadAOrSynchro := ← sliceBits data 0 8
           cardReadersHeadBOrCharging := ← sliceBits data 8 16
           expandersSupplyOverload := ← sliceBits data 16 24
           acuJammedOrShortCircuit := ← sliceBits data 24 26
           keypadRestart := ← sliceBits data 26 27
           expanderRestart := ← sliceBits data 27 35
           simCmeError := beU16 (← index data 35) (← index data 36)
           simCmeErrorMemory := beU16 (← index data 37) (← index data 38)
           readAt := now }

def processTroublesMemoryPart2 : Frame → Parsed TroublesMemoryPart2Data :=
  troublesPart [0x21] 39 fun _ => readMemoryPart2 now

def readPart3 (data : Frame) : Except Panic TroublesPart3Data :=
  return { isMemory := false
           acuJamLevels := ← slice data 0 15
           wirelessDevicesLowBattery := ← sliceBits data 15 30
           wirelessDevicesNoComm := ← sliceBits data 30 45
           wirelessOutputsNoComm := ← sliceBits data 45 60
           readAt := now }

def processTroublesPart3 : Frame → Parsed TroublesPart3Data :=
  troublesPart [0x1D] 60 fun _ => readPart3 now

def readMemoryPart3 (data : Frame) : Except Panic TroublesMemoryPart3Data :=
  return { acuJammedOrShortCircuit := ← sliceBits data 0 2
           acuJammedOrShortCircuitMemory := ← sliceBits data 2 4
           wirelessDevicesLowBattery := ← sliceBits data 15 30
           wirelessDevicesNoComm := ← sliceBits data 30 45
           wirelessOutputsNoComm := ← sliceBits data 45 60
           readAt := now }

def processTroublesMemoryPart3 : Frame → Parsed TroublesMemoryPart3Data :=
  troublesPart [0x22] 60 fun _ => readMemoryPart3 now

def readPart4 (isMemory : Bool) (data : Frame) : Except Panic TroublesPart4Data :=
  return { isMemory
           expandersNoComm := ← sliceBits data 0 8
           expandersSubstituted := ← sliceBits data 8 16
           keypadsNoComm := ← sliceBits data 16 17
           keypadsSubstituted := ← sliceBits data 17 18
           ethmNoLanOrIntrsNoDsr := ← sliceBits data 18 19
           expandersTamper := ← sliceBits data 19 27
           keypadsTamper := ← sliceBits data 27 28
           keypadInitErrors := ← sliceBits data 28 29
           auxiliaryStmTroubles := ← index data 29
           readAt := now }

def processTroublesPart4 : Frame → Parsed TroublesPart4Data :=
  troublesPart [0x1E, 0x23] 30 fun command => readPart4 now (command == 0x23)

def readPart5 (data : Frame) : Except Panic TroublesPart5Data :=
  return { isMemory := false
           mastersKeyFobsLowBattery := ← sliceBits data 0 1
           usersKeyFobsLowBattery := ← sliceBits data 1 31
           readAt := now }

def processTroublesPart5 : Frame → Parsed TroublesPart5Data :=
  troublesPart [0x1F] 31 fun _ => readPart5 now

def readMemoryPart5 (data : Frame) : Except Panic TroublesMemoryPart5Data :=
  return { zoneLongViolation := ← sliceBits data 0 16
           zoneNoViolation := ← sliceBits data 16 32
           zoneTamper := ← sliceBits data 32 48
           readAt := now }

def processTroublesMemoryPart5 : Frame → Parsed TroublesMemoryPart5Data :=
  troublesPart [0x24] 48 fun _ => readMemoryPart5 now

def readPart6 (isMemory : Bool) (data : Frame) : Except Panic TroublesPart6Data :=
  return { isMemory
           wirelessDevicesLowBattery := ← sliceBits data 0 15
           wirelessDevicesNoComm := ← sliceBits data 15 30
           wirelessOutputsNoComm := ← sliceBits data 30 45
           readAt := now }

def processTroublesPart6 : Frame → Parsed TroublesPart6Data :=
  troublesPart [0x2C, 0x2E] 45 fun command => readPart6 now (command == 0x2E)

def readPart7 (data : Frame) : Except Panic TroublesPart7Data :=
  return { isMemory := false
           technicalZones := ← sliceBits data 0 16
           technicalZonesMemory := ← sliceBits data 16 32
           acuJamLevels := ← slice data 32 47
           readAt := now }

def processTroublesPart7 : Frame → Parsed TroublesPart7Data :=
  troublesPart [0x2D] 47 fun _ => readPart7 now

def readMemoryPart7 (data : Frame) : Except Panic TroublesMemoryPart7Data :=
  return { zoneLongViolation := ← sliceBits data 0 16
           zoneNoViolation := ← sliceBits data 16 32
           zoneTamper := ← sliceBits data 32 48
           readAt := now }

def processTroublesMemoryPart7 : Frame → Parsed TroublesMemoryPart7Data :=
  troublesPart [0x2F] 48 fun _ => readMemoryPart7 now

/-- One pass of the loop over the eight chunks. -/
def readGsmModule (data : Frame) (addr : Nat) : Except Panic GsmModuleTroubles := do
  let lo ← fit usizeBound (addr * 8)
  let hi ← fit usizeBound ((← fit usizeBound (addr + 1)) * 8)
  let chunk ← slice data lo hi
  let b0 ← index chunk 0
  let b1 ← index chunk 1
  let b2 ← index chunk 2
  let b3 ← index chunk 3
  let sim1Cme := beU16 (← index chunk 4) (← index chunk 5)
  let sim2Cme := beU16 (← index chunk 6) (← index chunk 7)
  return {
    moduleAddress := UInt8.ofNat addr
    noEthmMonStation1 := bitSet b0 0
    noEthmMonStation2 := bitSet b0 1
    noGprsSim1MonStation1 := bitSet b0 2
    noGprsSim1MonStation2 := bitSet b0 3
    noGprsSim2MonStation1 := bitSet b0 4
    noGprsSim2MonStation2 := bitSet b0 5
    noSmsSim1MonStation1 := bitSet b0 6
    noSmsSim1MonStation2 := bitSet b0 7
    noSmsSim2MonStation1 := bitSet b1 0
    noSmsSim2MonStation2 := bitSet b1 1
    wrongSim1Pin := bitSet b1 2
    wrongSim2Pin := bitSet b1 3
    sim1LoggingError := bitSet b1 4
    sim2LoggingError := bitSet b1 5
    sim1CreditLow := bitSet b1 6
    sim2CreditLow := bitSet b1 7
    sim1SmsError := bitSet b2 0
    sim2SmsError := bitSet b2 1
    gsmJamming := bitSet b2 2
    settingsCrcError := bitSet b2 3
    missingModule := bitSet b2 4
    changedModule := bitSet b2 5
    satelServerConnError := bitSet b2 6
    mailServerConnError := bitSet b2 7
    ntpServerConnError := bitSet b3 0
    sim1CmeError := sim1Cme
    sim2CmeError := sim2Cme }

def readPart8 (isMemory : Bool) (data : Frame) : Except Panic TroublesPart8Data :=
  return { isMemory, gsmModules := ← (List.range 8).mapM (readGsmModule data), readAt := now }

def processTroublesPart8 : Frame → Parsed TroublesPart8Data :=
  troublesPart [0x30, 0x31] 64 fun command => readPart8 now (command == 0x31)

/-- The dispatcher of all trouble frames. -/
def processTroublesFrame (frame : Frame) : Parsed TroublesData := do
  if frame.isEmpty then throw .invalidFrame
  match ← checked (index frame 0) with
  | 0x1B | 0x20 => return .part1 (← processTroublesPart1 now frame)
  | 0x1C => return .part2 (← processTroublesPart2 now frame)
  | 0x21 => return .memoryPart2 (← processTroublesMemoryPart2 now frame)
  | 0x1D => return .part3 (← processTroublesPart3 now frame)
  | 0x22 => return .memoryPart3 (← processTroublesMemoryPart3 now frame)
  | 0x1E | 0x23 => return .part4 (← processTroublesPart4 now frame)
  | 0x1F => return .part5 (← processTroublesPart5 now frame)
  | 0x24 => return .memoryPart5 (← processTroublesMemoryPart5 now frame)
  | 0x2C | 0x2E => return .part6 (← processTroublesPart6 now frame)
  | 0x2D => return .part7 (← processTroublesPart7 now frame)
  | 0x2F => return .memoryPart7 (← processTroublesMemoryPart7 now frame)
  | 0x30 | 0x31 => return .part8 (← processTroublesPart8 now frame)
  | _ => throw .invalidFrame

end Parsers
end SatelIntegra
