import SatelIntegra.Command
import SatelIntegra.Config
import SatelIntegra.Telemetry

/-!
# The in-memory cache

Zones, partitions and outputs hold one flag and one read time for every binary
category, as in the source. The three trouble maps are partial functions that are
updated at one key.
-/

namespace SatelIntegra

/-- A hash map, as far as lookups can see it. -/
def Table (κ : Type) (ν : Type) := κ → Option ν

namespace Table
variable {κ ν : Type} [DecidableEq κ]

def empty : Table κ ν := fun _ => none

def insert (m : Table κ ν) (k : κ) (v : ν) : Table κ ν :=
  fun k' => if k' = k then some v else m k'

@[simp] lemma insert_self (m : Table κ ν) (k : κ) (v : ν) : m.insert k v k = some v := by
  simp [insert]

lemma insert_of_ne {k k' : κ} (h : k' ≠ k) (m : Table κ ν) (v : ν) :
    m.insert k v k' = m k' := by
  simp [insert, h]

end Table

structure IntegraVersion where
  model : String
  firmwareVersion : String
  language : String
  storedInFlash : Bool
  ioCount : UInt16
  partitionCount : UInt16
  readAt : LocalTime
  deriving DecidableEq, Repr

structure EthmCapabilities where
  support32ByteFrames : Bool
  support8TroublesGroups : Bool
  supportExtendedArmingCommands : Bool
  reservedBit3 : Bool
  reservedBit4 : Bool
  reservedBit5 : Bool
  reservedBit6 : Bool
  reservedBit7 : Bool
  deriving DecidableEq, Repr

structure EthmVersion where
  versionRaw : String
  capabilities : EthmCapabilities
  readAt : LocalTime
  deriving DecidableEq, Repr

/-- The flags a mask frame is parsed to; one type per category in the source. -/
structure StatesData where
  states : List Bool
  readAt : LocalTime
  deriving DecidableEq, Repr

structure Zone where
  id : UInt16
  tamperState : Bool := false
  tamperReadAt : Option LocalTime := none
  alarmState : Bool := false
  alarmReadAt : Option LocalTime := none
  violationState : Bool := false
  violationReadAt : Option LocalTime := none
  tamperAlarmState : Bool := false
  tamperAlarmReadAt : Option LocalTime := none
  alarmMemoryState : Bool := false
  alarmMemoryReadAt : Option LocalTime := none
  tamperAlarmMemoryState : Bool := false
  tamperAlarmMemoryReadAt : Option LocalTime := none
  bypassState : Bool := false
  bypassReadAt : Option LocalTime := none
  noViolationTroubleState : Bool := false
  noViolationTroubleReadAt : Option LocalTime := none
  longViolationTroubleState : Bool := false
  longViolationTroubleReadAt : Option LocalTime := none
  deriving DecidableEq, Repr

structure Partition where
  id : UInt16
  armedSuppressed : Bool := false
  armedSuppressedAt : Option LocalTime := none
  armedReally : Bool := false
  armedReallyAt : Option LocalTime := none
  alarm : Bool := false
  alarmAt : Option LocalTime := none
  alarmMemory : Bool := false
  alarmMemoryAt : Option LocalTime := none
  entryTime : Bool := false
  entryTimeAt : Option LocalTime := none
  exitTimeGt10s : Bool := false
  exitTimeGt10sAt : Option LocalTime := none
  exitTimeLt10s : Bool := false
  exitTimeLt10sAt : Option LocalTime := none
  deriving DecidableEq, Repr

structure Output where
  id : UInt16
  state : Bool := false
  stateReadAt : Option LocalTime := none
  deriving DecidableEq, Repr

structure SystemStatus where
  serviceMode : Bool
  troublesPresent : Bool
  troublesMemory : Bool
  rtc : LocalTime
  deriving DecidableEq, Repr

inductive CmeSource where
  | gsmModule (n : UInt8)
  | panel
  deriving DecidableEq, Repr

inductive TroubleType where
  | mainBoardAcLoss
  | mainBoardBatteryLow
  | mainBoardBatteryMissing
  | mainBoardOutOverload (n : UInt8)
  | mainBoardKpdPowerOverload
  | mainBoardExPowerOverload
  | mainBoardDataBusDt1
  | mainBoardDataBusDt2
  | mainBoardDataBusDtm
  | rtcLoss
  | noDtrSignal
  | externalModemInitTrouble
  | externalModemCmdTrouble
  | telephoneLineNoVoltage
  | telephoneLineBadSignal
  | telephoneLineNoSignal
  | monitoringStation1Trouble
  | monitoringStation2Trouble
  | eepromRtcTrouble
  | ramMemoryError
  | mainPanelRestartMemory
  | technicalZoneTrouble (n : UInt16)
  | expanderAcLoss (n : UInt8)
  | expanderBatteryLow (n : UInt8)
  | expanderBatteryMissing (n : UInt8)
  | expanderSupplyOverload (n : UInt8)
  | expanderNoComm (n : UInt8)
  | expanderSubstituted (n : UInt8)
  | expanderTamper (n : UInt8)
  | expanderCardReaderHeadA (n : UInt8)
  | expanderCardReaderHeadB (n : UInt8)
  | expanderAcuJammedOrShortCircuit (n : UInt8)
  | keypadNoComm (n : UInt8)
  | keypadSubstituted (n : UInt8)
  | keypadTamper (n : UInt8)
  | keypadInitError (n : UInt8)
  | keypadRestart (n : UInt8)
  | ethmNoLanCable (n : UInt8)
  | ethmPingTrouble (n : UInt8)
  | ethmServerIdError (n : UInt8)
  | ethmSatelServerConnectionError (n : UInt8)
  | ethmMonitoringStation1Error
  | ethmMonitoringStation2Error
  | gprsMonitoringStation1Error
  | gprsMonitoringStation2Error
  | ipMonitoringStation1Trouble
  | ipMonitoringStation2Trouble
  | timeServerTrouble
  | gsmInitError
  | gsmEthmStation1Error (n : UInt8)
  | gsmEthmStation2Error (n : UInt8)
  | gsmGprsSim1Station1Error (n : UInt8)
  | gsmGprsSim1Station2Error (n : UInt8)
  | gsmGprsSim2Station1Error (n : UInt8)
  | gsmGprsSim2Station2Error (n : UInt8)
  | gsmSmsSim1Station1Error (n : UInt8)
  | gsmSmsSim1Station2Error (n : UInt8)
  | gsmSmsSim2Station1Error (n : UInt8)
  | gsmSmsSim2Station2Error (n : UInt8)
  | gsmSimPinError (module : UInt8) (sim : UInt8)
  | gsmSimLoggingError (module : UInt8) (sim : UInt8)
  | gsmSimCreditLow (module : UInt8) (sim : UInt8)
  | gsmSimSmsError (module : UInt8) (sim : UInt8)
  | gsmJamming (n : UInt8)
  | gsmSettingsCrcError (n : UInt8)
  | gsmModuleMissing (n : UInt8)
  | gsmModuleChanged (n : UInt8)
  | gsmServerConnError (n : UInt8)
  | gsmMailServerConnError (n : UInt8)
  | gsmNtpServerConnError (n : UInt8)
  | wirelessDeviceLowBattery (zoneId : UInt16)
  | wirelessDeviceNoComm (zoneId : UInt16)
  | wirelessOutputNoComm (outputId : UInt16)
  | masterKeyFobLowBattery (n : UInt8)
  | userKeyFobLowBattery (userId : UInt16)
  | zoneLongViolationTrouble (n : UInt16)
  | zoneNoViolationTrouble (n : UInt16)
  | zoneTamperTrouble (n : UInt16)
  | expanderRestart (n : UInt8)
  | auxiliaryStmTroubles
  | genericTrouble (part : UInt8) (bit : UInt16)
  deriving DecidableEq, Repr

inductive AutoReadItemState where
  | active
  | notRequested
  | unsupportedByHardware
  | rejectedByPanel (code : UInt8)
  deriving DecidableEq, Repr

structure AutoReadItemStatus where
  name : String
  state : AutoReadItemState
  deriving DecidableEq, Repr

structure AutoReadReport where
  items : List AutoReadItemStatus
  successCount : Nat
  totalRequested : Nat
  deriving DecidableEq, Repr

structure SatelState where
  connectionType : Option ConnectionType
  telemetry : ConnectionTelemetry
  integraVersion : Option IntegraVersion
  ethmVersion : Option EthmVersion
  zones : List Zone
  outputs : List Output
  partitions : List Partition
  systemStatus : Option SystemStatus
  troubleFlags : Table (TroubleType × Bool) Bool
  acuJamLevels : Table UInt8 UInt8
  cmeErrors : Table (CmeSource × UInt8 × Bool) UInt16
  autoReadReport : Option AutoReadReport

def SatelState.new (now : Instant) : SatelState where
  connectionType := none
  telemetry := .new now
  integraVersion := none
  ethmVersion := none
  zones := (List.range 256).map fun i => { id := UInt16.ofNat (i + 1) }
  outputs := (List.range 256).map fun i => { id := UInt16.ofNat (i + 1) }
  partitions := (List.range 32).map fun i => { id := UInt16.ofNat (i + 1) }
  systemStatus := none
  troubleFlags := .empty
  acuJamLevels := .empty
  cmeErrors := .empty
  autoReadReport := none

/-- The events of the modelled operations. -/
inductive SatelEvent where
  | connectionChanged (state : ConnectionState)
  | connectionStatistics (stats : ConnectionStatistics)
  | zoneViolation (id : UInt16) (state : Bool)
  | zoneTamper (id : UInt16) (state : Bool)
  | zoneAlarm (id : UInt16) (state : Bool)
  | zoneTamperAlarm (id : UInt16) (state : Bool)
  | zoneAlarmMemory (id : UInt16) (state : Bool)
  | zoneTamperAlarmMemory (id : UInt16) (state : Bool)
  | zoneBypass (id : UInt16) (state : Bool)
  | zoneNoViolationTrouble (id : UInt16) (state : Bool)
  | zoneLongViolationTrouble (id : UInt16) (state : Bool)
  | partitionArmed (id : UInt16) (state : Bool)
  | partitionArmedReally (id : UInt16) (state : Bool)
  | partitionAlarm (id : UInt16) (state : Bool)
  | partitionAlarmMemory (id : UInt16) (state : Bool)
  | partitionEntryTime (id : UInt16) (state : Bool)
  | partitionExitTimeGt10s (id : UInt16) (state : Bool)
  | partitionExitTimeLt10s (id : UInt16) (state : Bool)
  | outputChanged (id : UInt16) (state : Bool)
  | integraVersionReceived (version : IntegraVersion)
  | ethmVersionReceived (version : EthmVersion)
  | panelMessage (result : SatelResult)
  | autoReadConfigured (report : AutoReadReport)
  | trouble (trouble : TroubleType) (active : Bool)
  | troubleMemory (trouble : TroubleType) (active : Bool)
  | acuJamLevel (module : UInt8) (level : UInt8)
  | cmeError (source : CmeSource) (sim : UInt8) (code : UInt16) (memory : Bool)
  | systemStatusChanged (status : SystemStatus)
  | configUpdated
  deriving DecidableEq, Repr

end SatelIntegra
