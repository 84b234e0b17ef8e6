import Mathlib.Tactic.Common

/-!
# Commands and result codes

The command bytes of the integration protocol, in the order of the source, and
the result codes a panel sends with command `EF`.
-/

namespace SatelIntegra

inductive SatelCommand where
  | zonesViolation
  | zonesTamper
  | zonesAlarm
  | zonesTamperAlarm
  | zonesAlarmMemory
  | zonesTamperAlarmMemory
  | zonesBypass
  | zonesNoViolationTrouble
  | zonesLongViolationTrouble
  | armedPartitionsSuppressed
  | armedPartitionsReally
  | partitionsArmedMode2
  | partitionsArmedMode3
  | partitionsWith1stCodeEntered
  | partitionsEntryTime
  | partitionsExitTimeMore10s
  | partitionsExitTimeLess10s
  | partitionsTemporaryBlocked
  | partitionsBlockedForGuardRound
  | partitionsAlarm
  | partitionsFireAlarm
  | partitionsAlarmMemory
  | partitionsFireAlarmMemory
  | outputsState
  | doorsOpened
  | doorsOpenedLong
  | rtcAndBasicStatusBits
  | troublesPart1
  | troublesPart2
  | troublesPart3
  | troublesPart4
  | troublesPart5
  | troublesMemoryPart1
  | troublesMemoryPart2
  | troublesMemoryPart3
  | troublesMemoryPart4
  | troublesMemoryPart5
  | partitionsWithViolatedZones
  | zonesIsolate
  | partitionsWithVerifiedAlarms
  | zonesMasked
  | zonesMaskedMemory
  | partitionsArmedInMode1
  | partitionsWithWarningAlarms
  | troublesPart6
  | troublesPart7
  | troublesMemoryPart6
  | troublesMemoryPart7
  | troublesPart8
  | troublesMemoryPart8
  | readOutputPower
  | moduleVersion
  | readZoneTemperature
  | integraVersion
  | listOfNewData
  | armMode0
  | armMode1
  | armMode2
  | armMode3
  | disarm
  | clearAlarm
  | zonesBypassCmd
  | zonesUnbypass
  | outputsOn
  | outputsOff
  | openDoor
  | clearTroubleMemory
  | readEvent
  | enter1stCode
  | setRtcClock
  | getEventText
  | zonesIsolateCmd
  | outputsSwitch
  | forceArmMode0
  | forceArmMode1
  | forceArmMode2
  | forceArmMode3
  | readSelfInfo
  | readUser
  | readUsersList
  | readUserLocks
  | writeUserLocks
  | removeUser
  | createUser
  | changeUser
  | userDallasCardKeyFobMgmt
  | changeUserCode
  | changeUserTelCode
  | readDeviceName
  | resultCode
  deriving DecidableEq, Repr

namespace SatelCommand

def toByte : SatelCommand → UInt8
  | .zonesViolation => 0x00
  | .zonesTamper => 0x01
  | .zonesAlarm => 0x02
  | .zonesTamperAlarm => 0x03
  | .zonesAlarmMemory => 0x04
  | .zonesTamperAlarmMemory => 0x05
  | .zonesBypass => 0x06
  | .zonesNoViolationTrouble => 0x07
  | .zonesLongViolationTrouble => 0x08
  | .armedPartitionsSuppressed => 0x09
  | .armedPartitionsReally => 0x0A
  | .partitionsArmedMode2 => 0x0B
  | .partitionsArmedMode3 => 0x0C
  | .partitionsWith1stCodeEntered => 0x0D
  | .partitionsEntryTime => 0x0E
  | .partitionsExitTimeMore10s => 0x0F
  | .partitionsExitTimeLess10s => 0x10
  | .partitionsTemporaryBlocked => 0x11
  | .partitionsBlockedForGuardRound => 0x12
  | .partitionsAlarm => 0x13
  | .partitionsFireAlarm => 0x14
  | .partitionsAlarmMemory => 0x15
  | .partitionsFireAlarmMemory => 0x16
  | .outputsState => 0x17
  | .doorsOpened => 0x18
  | .doorsOpenedLong => 0x19
  | .rtcAndBasicStatusBits => 0x1A
  | .troublesPart1 => 0x1B
  | .troublesPart2 => 0x1C
  | .troublesPart3 => 0x1D
  | .troublesPart4 => 0x1E
  | .troublesPart5 => 0x1F
  | .troublesMemoryPart1 => 0x20
  | .troublesMemoryPart2 => 0x21
  | .troublesMemoryPart3 => 0x22
  | .troublesMemoryPart4 => 0x23
  | .troublesMemoryPart5 => 0x24
  | .partitionsWithViolatedZones => 0x25
  | .zonesIsolate => 0x26
  | .partitionsWithVerifiedAlarms => 0x27
  | .zonesMasked => 0x28
  | .zonesMaskedMemory => 0x29
  | .partitionsArmedInMode1 => 0x2A
  | .partitionsWithWarningAlarms => 0x2B
  | .troublesPart6 => 0x2C
  | .troublesPart7 => 0x2D
  | .troublesMemoryPart6 => 0x2E
  | .troublesMemoryPart7 => 0x2F
  | .troublesPart8 => 0x30
  | .troublesMemoryPart8 => 0x31
  | .readOutputPower => 0x7B
  | .moduleVersion => 0x7C
  | .readZoneTemperature => 0x7D
  | .integraVersion => 0x7E
  | .listOfNewData => 0x7F
  | .armMode0 => 0x80
  | .armMode1 => 0x81
  | .armMode2 => 0x82
  | .armMode3 => 0x83
  | .disarm => 0x84
  | .clearAlarm => 0x85
  | .zonesBypassCmd => 0x86
  | .zonesUnbypass => 0x87
  | .outputsOn => 0x88
  | .outputsOff => 0x89
  | .openDoor => 0x8A
  | .clearTroubleMemory => 0x8B
  | .readEvent => 0x8C
  | .enter1stCode => 0x8D
  | .setRtcClock => 0x8E
  | .getEventText => 0x8F
  | .zonesIsolateCmd => 0x90
  | .outputsSwitch => 0x91
  | .forceArmMode0 => 0xA0
  | .forceArmMode1 => 0xA1
  | .forceArmMode2 => 0xA2
  | .forceArmMode3 => 0xA3
  | .readSelfInfo => 0xE0
  | .readUser => 0xE1
  | .readUsersList => 0xE2
  | .readUserLocks => 0xE3
  | .writeUserLocks => 0xE4
  | .removeUser => 0xE5
  | .createUser => 0xE6
  | .changeUser => 0xE7
  | .userDallasCardKeyFobMgmt => 0xE8
  | .changeUserCode => 0xE9
  | .changeUserTelCode => 0xEA
  | .readDeviceName => 0xEE
  | .resultCode => 0xEF

def fromByte (b : UInt8) : Option SatelCommand :=
  match b with
  | 0x00 => some .zonesViolation
  | 0x01 => some .zonesTamper
  | 0x02 => some .zonesAlarm
  | 0x03 => some .zonesTamperAlarm
  | 0x04 => some .zonesAlarmMemory
  | 0x05 => some .zonesTamperAlarmMemory
  | 0x06 => some .zonesBypass
  | 0x07 => some .zonesNoViolationTrouble
  | 0x08 => some .zonesLongViolationTrouble
  | 0x09 => some .armedPartitionsSuppressed
  | 0x0A => some .armedPartitionsReally
  | 0x0B => some .partitionsArmedMode2
  | 0x0C => some .partitionsArmedMode3
  | 0x0D => some .partitionsWith1stCodeEntered
  | 0x0E => some .partitionsEntryTime
  | 0x0F => some .partitionsExitTimeMore10s
  | 0x10 => some .partitionsExitTimeLess10s
  | 0x11 => some .partitionsTemporaryBlocked
  | 0x12 => some .partitionsBlockedForGuardRound
  | 0x13 => some .partitionsAlarm
  | 0x14 => some .partitionsFireAlarm
  | 0x15 => some .partitionsAlarmMemory
  | 0x16 => some .partitionsFireAlarmMemory
  | 0x17 => some .outputsState
  | 0x18 => some .doorsOpened
  | 0x19 => some .doorsOpenedLong
  | 0x1A => some .rtcAndBasicStatusBits
  | 0x1B => some .troublesPart1
  | 0x1C => some .troublesPart2
  | 0x1D => some .troublesPart3
  | 0x1E => some .troublesPart4
  | 0x1F => some .troublesPart5
  | 0x20 => some .troublesMemoryPart1
  | 0x21 => some .troublesMemoryPart2
  | 0x22 => some .troublesMemoryPart3
  | 0x23 => some .troublesMemoryPart4
  | 0x24 => some .troublesMemoryPart5
  | 0x25 => some .partitionsWithViolatedZones
  | 0x26 => some .zonesIsolate
  | 0x27 => some .partitionsWithVerifiedAlarms
  | 0x28 => some .zonesMasked
  | 0x29 => some .zonesMaskedMemory
  | 0x2A => some .partitionsArmedInMode1
  | 0x2B => some .partitionsWithWarningAlarms
  | 0x2C => some .troublesPart6
  | 0x2D => some .troublesPart7
  | 0x2E => some .troublesMemoryPart6
  | 0x2F => some .troublesMemoryPart7
  | 0x30 => some .troublesPart8
  | 0x31 => some .troublesMemoryPart8
  | 0x7B => some .readOutputPower
  | 0x7C => some .moduleVersion
  | 0x7D => some .readZoneTemperature
  | 0x7E => some .integraVersion
  | 0x7F => some .listOfNewData
  | 0x80 => some .armMode0
  | 0x81 => some .armMode1
  | 0x82 => some .armMode2
  | 0x83 => some .armMode3
  | 0x84 => some .disarm
  | 0x85 => some .clearAlarm
  | 0x86 => some .zonesBypassCmd
  | 0x87 => some .zonesUnbypass
  | 0x88 => some .outputsOn
  | 0x89 => some .outputsOff
  | 0x8A => some .openDoor
  | 0x8B => some .clearTroubleMemory
  | 0x8C => some .readEvent
  | 0x8D => some .enter1stCode
  | 0x8E => some .setRtcClock
  | 0x8F => some .getEventText
  | 0x90 => some .zonesIsolateCmd
  | 0x91 => some .outputsSwitch
  | 0xA0 => some .forceArmMode0
  | 0xA1 => some .forceArmMode1
  | 0xA2 => some .forceArmMode2
  | 0xA3 => some .forceArmMode3
  | 0xE0 => some .readSelfInfo
  | 0xE1 => some .readUser
  | 0xE2 => some .readUsersList
  | 0xE3 => some .readUserLocks
  | 0xE4 => some .writeUserLocks
  | 0xE5 => some .removeUser
  | 0xE6 => some .createUser
  | 0xE7 => some .changeUser
  | 0xE8 => some .userDallasCardKeyFobMgmt
  | 0xE9 => some .changeUserCode
  | 0xEA => some .changeUserTelCode
  | 0xEE => some .readDeviceName
  | 0xEF => some .resultCode
  | _ => none

/-- Every command is recognised by its own byte. -/
theorem fromByte_toByte (command : SatelCommand) : fromByte command.toByte = some command := by
  cases command <;> rfl

theorem toByte_injective {command command' : SatelCommand}
    (h : command.toByte = command'.toByte) : command = command' := by
  have recognised := congrArg fromByte h
  rw [fromByte_toByte, fromByte_toByte] at recognised
  exact Option.some.inj recognised

end SatelCommand

/-- Result codes of command `EF`. -/
inductive SatelResult where
  | ok
  | invalidUserCode
  | noAccess
  | canNotArm
  | commandAccepted
  | other (code : UInt8)
  deriving DecidableEq, Repr

def SatelResult.fromByte (b : UInt8) : SatelResult :=
  match b with
  | 0x00 => .ok
  | 0x01 => .invalidUserCode
  | 0x02 => .noAccess
  | 0x11 => .canNotArm
  | 0x12 => .canNotArm
  | 0xFF => .commandAccepted
  | _ => .other b

end SatelIntegra
