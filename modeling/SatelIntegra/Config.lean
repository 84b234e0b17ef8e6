import SatelIntegra.CheckedAccess

/-!
# Errors and configuration

`Config` has the fields, defaults and checks of the source. The flags of the
eighteen auto-read categories decide what the panel is asked to push.
-/

namespace SatelIntegra

open CheckedAccess

inductive SatelError where
  | io
  | serial
  | timeout
  | notConnected
  | streamClosed
  | connectionLost
  | invalidCrc
  | invalidFrame
  | messageExpired
  | workerDropped
  | alreadyConnected
  | temperatureSensorError
  | temperatureNotSupportedOrTimeOut
  | tempTooManyErrors
  | statePoisoned
  | invalidUserCode
  | noAccess
  | canNotArm
  | integraResultError (code : UInt8)
  | invalidConfig (reason : String)
  | invalidIntegrationKey (reason : String)
  | encryptionError (reason : String)
  | invalidEncryptedDataLength (len : Nat)
  | panelVersionUnknown
  deriving DecidableEq, Repr

/-- What a parser computes: a value, an error of the library, or a panic. -/
abbrev Parsed (α : Type) := Fallible SatelError α

structure TemperatureProbe where
  zoneId : UInt16
  intervalMinutes : UInt64
  maxTimeoutErrors : UInt32
  maxSensorErrors : UInt32
  unblockEnabled : Bool := false
  unblockAfterCycles : UInt32 := 10
  deriving DecidableEq, Repr

def minUnblockAfterCycles : UInt32 := 10

inductive ConnectionConfig where
  | tcp (host : String) (port : UInt16)
  | uart (path : String) (baudRate : UInt32)
  deriving DecidableEq, Repr

structure Config where
  connection : ConnectionConfig := .tcp "localhost" 7094
  encryption : Bool := false
  integrationKey : Option String := none
  readTimeoutMs : UInt64 := 2000
  writeTimeoutMs : UInt64 := 500
  tempReadTimeoutMs : UInt64 := 2000
  bufferTimeoutMs : UInt64 := 10000
  userCode : Option String := none
  autoReconnect : Bool := true
  tempBlockingEnabled : Bool := true
  tempMaxTimeoutErrors : UInt32 := 4
  tempMaxSensorErrors : UInt32 := 10
  ioTamperInvert : List UInt16 := []
  ioAlarmInvert : List UInt16 := []
  ioViolationInvert : List UInt16 := []
  ioTamperAlarmInvert : List UInt16 := []
  ioAlarmMemoryInvert : List UInt16 := []
  ioTamperAlarmMemoryInvert : List UInt16 := []
  ioBypassInvert : List UInt16 := []
  ioNoViolationTroubleInvert : List UInt16 := []
  ioLongViolationTroubleInvert : List UInt16 := []
  autoReadZonesViolation : Bool := false
  autoReadZonesTamper : Bool := false
  autoReadZonesAlarm : Bool := false
  autoReadZonesTamperAlarm : Bool := false
  autoReadZonesAlarmMemory : Bool := false
  autoReadZonesTamperAlarmMemory : Bool := false
  autoReadZonesBypass : Bool := false
  autoReadZonesNoViolationTrouble : Bool := false
  autoReadZonesLongViolationTrouble : Bool := false
  autoReadPartitionsArmedSuppressed : Bool := false
  autoReadPartitionsArmedReally : Bool := false
  autoReadPartitionsAlarm : Bool := false
  autoReadPartitionsAlarmMemory : Bool := false
  autoReadPartitionsEntryTime : Bool := false
  autoReadPartitionsExitTime : Bool := false
  autoReadOutputsState : Bool := false
  autoReadSystemTroubles : Bool := false
  autoReadTroublesMemory : Bool := false
  temperatureProbes : List TemperatureProbe := []
  emitUnchangedTemperatures : Bool := false
  emitUnchangedZones : Bool := false
  emitUnchangedOutputs : Bool := false
  emitUnchangedPartitions : Bool := false
  emitUnchangedTroubles : Bool := false
  emitUnchangedSystemStatus : Bool := false
  extendedNameRead : Bool := true
  maxMissedPings : UInt32 := 3
  deriving DecidableEq, Repr

namespace Config

def isAutoReadEnabled (c : Config) : Bool :=
  c.autoReadZonesViolation
    || c.autoReadZonesTamper
    || c.autoReadZonesAlarm
    || c.autoReadZonesTamperAlarm
    || c.autoReadZonesAlarmMemory
    || c.autoReadZonesTamperAlarmMemory
    || c.autoReadZonesBypass
    || c.autoReadZonesNoViolationTrouble
    || c.autoReadZonesLongViolationTrouble
    || c.autoReadPartitionsArmedSuppressed
    || c.autoReadPartitionsArmedReally
    || c.autoReadPartitionsAlarm
    || c.autoReadPartitionsAlarmMemory
    || c.autoReadPartitionsEntryTime
    || c.autoReadPartitionsExitTime
    || c.autoReadOutputsState
    || c.autoReadSystemTroubles
    || c.autoReadTroublesMemory

/-- `hot_reload_config` keeps how the panel is reached. -/
def keepConnection (newConfig old : Config) : Config :=
  { newConfig with
    connection := old.connection
    encryption := old.encryption
    integrationKey := old.integrationKey }

end Config
end SatelIntegra
