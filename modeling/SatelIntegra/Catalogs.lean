import SatelIntegra.Config
import SatelIntegra.Telemetry

/-!
# Catalogs of zone reactions, output functions and partition types

The reply to a name query carries one byte for what the object does. Each catalog
names the bytes it knows and keeps the others as they are.
-/

namespace SatelIntegra

inductive ZoneReaction where
  | entryExit
  | entry
  | delayedWithSignaling
  | interiorDelayed
  | perimeter
  | instant
  | exit
  | audibleSilent
  | exterior
  | tamper24h
  | vibration24h
  | cashMachine24h
  | panicAudible
  | panicSilent
  | medicalButton
  | medicalRemote
  | counting (n : UInt8)
  | fire24h
  | fireSmoke24h
  | fireCombustion24h
  | fireWater24h
  | fireTemperature24h
  | fireButton24h
  | fireDuct24h
  | fireFlame24h
  | fireCircuitsProtection24h
  | waterPressure24h
  | co2Pressure24h
  | valveSensor24h
  | waterLevel24h
  | pumpsStart24h
  | pumpsFailure24h
  | noAlarmAction
  | auxiliaryGeneral24h
  | auxiliaryGas24h
  | auxiliaryFreeze24h
  | auxiliaryHeatLoss24h
  | auxiliaryWaterLeak24h
  | auxiliarySecurityNonBurglary24h
  | auxiliaryLowCylinderGasPressure24h
  | auxiliaryHighTemp24h
  | auxiliaryLowTemp24h
  | technicalDoorControl
  | technicalDoorButton
  | technicalAcTrouble
  | technicalBatteryTrouble
  | technicalGsmTrouble
  | technicalPowerSupplyOverload
  | trouble
  | blockingGroup (n : UInt8)
  | arming
  | disarming
  | armDisarm
  | alarmClearing
  | guardRound
  | entryExitConditional
  | entryExitFinal
  | exitFinal
  | burglary24h
  | exitTimeTerminating
  | verificationBlocking
  | maskingSensor
  | outputsGroupOff
  | outputsGroupOn
  | entryExitInterior
  | entryInterior
  | monitoringFire
  | monitoringFirePanelTrouble
  | unknown (code : UInt8)
  deriving DecidableEq, Repr

def ZoneReaction.fromCode (code : UInt8) : ZoneReaction :=
  match code with
  | 0 => .entryExit
  | 1 => .entry
  | 2 => .delayedWithSignaling
  | 3 => .interiorDelayed
  | 4 => .perimeter
  | 5 => .instant
  | 6 => .exit
  | 7 => .audibleSilent
  | 8 => .exterior
  | 9 => .tamper24h
  | 10 => .vibration24h
  | 11 => .cashMachine24h
  | 12 => .panicAudible
  | 13 => .panicSilent
  | 14 => .medicalButton
  | 15 => .medicalRemote
  | 32 => .fire24h
  | 33 => .fireSmoke24h
  | 34 => .fireCombustion24h
  | 35 => .fireWater24h
  | 36 => .fireTemperature24h
  | 37 => .fireButton24h
  | 38 => .fireDuct24h
  | 39 => .fireFlame24h
  | 40 => .fireCircuitsProtection24h
  | 41 => .waterPressure24h
  | 42 => .co2Pressure24h
  | 43 => .valveSensor24h
  | 44 => .waterLevel24h
  | 45 => .pumpsStart24h
  | 46 => .pumpsFailure24h
  | 47 => .noAlarmAction
  | 48 => .auxiliaryGeneral24h
  | 49 => .auxiliaryGas24h
  | 50 => .auxiliaryFreeze24h
  | 51 => .auxiliaryHeatLoss24h
  | 52 => .auxiliaryWaterLeak24h
  | 53 => .auxiliarySecurityNonBurglary24h
  | 54 => .auxiliaryLowCylinderGasPressure24h
  | 55 => .auxiliaryHighTemp24h
  | 56 => .auxiliaryLowTemp24h
  | 57 => .technicalDoorControl
  | 58 => .technicalDoorButton
  | 59 => .technicalAcTrouble
  | 60 => .technicalBatteryTrouble
  | 61 => .technicalGsmTrouble
  | 62 => .technicalPowerSupplyOverload
  | 63 => .trouble
  | 80 => .arming
  | 81 => .disarming
  | 82 => .armDisarm
  | 83 => .alarmClearing
  | 84 => .guardRound
  | 85 => .entryExitConditional
  | 86 => .entryExitFinal
  | 87 => .exitFinal
  | 88 => .burglary24h
  | 89 => .exitTimeTerminating
  | 90 => .verificationBlocking
  | 91 => .maskingSensor
  | 92 => .outputsGroupOff
  | 93 => .outputsGroupOn
  | 94 => .entryExitInterior
  | 95 => .entryInterior
  | 96 => .monitoringFire
  | 97 => .monitoringFirePanelTrouble
  | other =>
    if 16 ≤ other ∧ other ≤ 31 then .counting (other - 16 + 1)
    else if 64 ≤ other ∧ other ≤ 79 then .blockingGroup (other - 64 + 1)
    else .unknown other

def ZoneReaction.code : ZoneReaction → UInt8
  | .entryExit => 0
  | .entry => 1
  | .delayedWithSignaling => 2
  | .interiorDelayed => 3
  | .perimeter => 4
  | .instant => 5
  | .exit => 6
  | .audibleSilent => 7
  | .exterior => 8
  | .tamper24h => 9
  | .vibration24h => 10
  | .cashMachine24h => 11
  | .panicAudible => 12
  | .panicSilent => 13
  | .medicalButton => 14
  | .medicalRemote => 15
  | .counting n => 16 + (max 1 (min n 16) - 1)
  | .fire24h => 32
  | .fireSmoke24h => 33
  | .fireCombustion24h => 34
  | .fireWater24h => 35
  | .fireTemperature24h => 36
  | .fireButton24h => 37
  | .fireDuct24h => 38
  | .fireFlame24h => 39
  | .fireCircuitsProtection24h => 40
  | .waterPressure24h => 41
  | .co2Pressure24h => 42
  | .valveSensor24h => 43
  | .waterLevel24h => 44
  | .pumpsStart24h => 45
  | .pumpsFailure24h => 46
  | .noAlarmAction => 47
  | .auxiliaryGeneral24h => 48
  | .auxiliaryGas24h => 49
  | .auxiliaryFreeze24h => 50
  | .auxiliaryHeatLoss24h => 51
  | .auxiliaryWaterLeak24h => 52
  | .auxiliarySecurityNonBurglary24h => 53
  | .auxiliaryLowCylinderGasPressure24h => 54
  | .auxiliaryHighTemp24h => 55
  | .auxiliaryLowTemp24h => 56
  | .technicalDoorControl => 57
  | .technicalDoorButton => 58
  | .technicalAcTrouble => 59
  | .technicalBatteryTrouble => 60
  | .technicalGsmTrouble => 61
  | .technicalPowerSupplyOverload => 62
  | .trouble => 63
  | .blockingGroup n => 64 + (max 1 (min n 16) - 1)
  | .arming => 80
  | .disarming => 81
  | .armDisarm => 82
  | .alarmClearing => 83
  | .guardRound => 84
  | .entryExitConditional => 85
  | .entryExitFinal => 86
  | .exitFinal => 87
  | .burglary24h => 88
  | .exitTimeTerminating => 89
  | .verificationBlocking => 90
  | .maskingSensor => 91
  | .outputsGroupOff => 92
  | .outputsGroupOn => 93
  | .entryExitInterior => 94
  | .entryInterior => 95
  | .monitoringFire => 96
  | .monitoringFirePanelTrouble => 97
  | .unknown code => code

/-- No code is lost in the catalog. -/
lemma ZoneReaction.code_fromCode (code : UInt8) : (ZoneReaction.fromCode code).code = code := by
  have all : ∀ n : Fin 256, (ZoneReaction.fromCode (.ofFin n)).code = .ofFin n := by decide +kernel
  exact all code.toFin

inductive OutputFunction where
  | unused
  | burglaryAlarm
  | fireAndBurglaryAlarm
  | fireAlarm
  | keypadAlarm
  | keypadFireAlarm
  | keypadPanicAlarm
  | keypadMedicalAlarm
  | tamperAlarm
  | alarmDay
  | duressAlarm
  | chime
  | silentAlarm
  | technicalAlarm
  | zoneViolation
  | videoDisarmed
  | videoArmed
  | readyIndicator
  | bypassesIndicator
  | exitDelayIndicator
  | entryDelayIndicator
  | armedIndicator
  | allArmedIndicator
  | armDisarmConfirmation
  | monoSwitch
  | biSwitch
  | timer
  | troubleIndicator
  | mainBoardAcTrouble
  | zonesAcTrouble
  | expandersAcTrouble
  | mainBoardBatteryTrouble
  | zonesBatteryTrouble
  | expanderBatteryTrouble
  | zoneTrouble
  | dialerActive
  | groundStart
  | monitoringConfirmation
  | serviceModeIndicator
  | vibrationSensorsTest
  | cashMachineBypassIndicator
  | powerSupply
  | powerSupplyArmed
  | resettablePowerSupply
  | fireDetectorsPowerSupply
  | partitionBlockedIndicator
  | outputsLogicAnd
  | outputsLogicOr
  | synthesizer (n : UInt8)
  | telephoneRelayNumbered (n : UInt8)
  | noGuardRound
  | longMainBoardAcTrouble
  | longExpandersAcTrouble
  | outputsSignalingEnd
  | codeEnteredSignaling
  | codeUsedSignaling
  | doorOpenIndicator
  | doorLongOpenIndicator
  | burglaryAlarmNoTamperNoFire
  | eventsMemory50Percent
  | eventsMemory90Percent
  | autoArmDelaySignaling
  | autoArmDelayIndicator
  | unauthorizedDoorOpening
  | unauthorizedDoorOpeningAlarm
  | ipMonitoringTrouble
  | telephoneLineTrouble
  | synthesizerSelectable
  | telephoneRelay
  | cardRead
  | cardHold
  | cardReadInModule
  | wirelessZoneNoComm
  | wirelessOutputNoComm
  | wirelessDeviceBatteryTrouble
  | rollerBlindUp
  | rollerBlindDown
  | expanderCardHeadA
  | expanderCardHeadB
  | zonesLogicAnd
  | unverifiedAlarm
  | verifiedAlarm
  | verificationWithoutAlarm
  | verificationBypassIndicator
  | zoneTestIndicator
  | armModeIndicator
  | internalSiren
  | tamperIndicator
  | keyFobsBatteryTrouble
  | wirelessJammingTrouble
  | thermostat
  | zoneMaskingSignaling
  | zoneMaskingIndicator
  | moduleLock
  | unknown (code : UInt8)
  deriving DecidableEq, Repr

def OutputFunction.fromCode (code : UInt8) : OutputFunction :=
  match code with
  | 0 => .unused
  | 1 => .burglaryAlarm
  | 2 => .fireAndBurglaryAlarm
  | 3 => .fireAlarm
  | 4 => .keypadAlarm
  | 5 => .keypadFireAlarm
  | 6 => .keypadPanicAlarm
  | 7 => .keypadMedicalAlarm
  | 8 => .tamperAlarm
  | 9 => .alarmDay
  | 10 => .duressAlarm
  | 11 => .chime
  | 12 => .silentAlarm
  | 13 => .technicalAlarm
  | 14 => .zoneViolation
  | 15 => .videoDisarmed
  | 16 => .videoArmed
  | 17 => .readyIndicator
  | 18 => .bypassesIndicator
  | 19 => .exitDelayIndicator
  | 20 => .entryDelayIndicator
  | 21 => .armedIndicator
  | 22 => .allArmedIndicator
  | 23 => .armDisarmConfirmation
  | 24 => .monoSwitch
  | 25 => .biSwitch
  | 26 => .timer
  | 27 => .troubleIndicator
  | 28 => .mainBoardAcTrouble
  | 29 => .zonesAcTrouble
  | 30 => .expandersAcTrouble
  | 31 => .mainBoardBatteryTrouble
  | 32 => .zonesBatteryTrouble
  | 33 => .expanderBatteryTrouble
  | 34 => .zoneTrouble
  | 35 => .dialerActive
  | 36 => .groundStart
  | 37 => .monitoringConfirmation
  | 38 => .serviceModeIndicator
  | 39 => .vibrationSensorsTest
  | 40 => .cashMachineBypassIndicator
  | 41 => .powerSupply
  | 42 => .powerSupplyArmed
  | 43 => .resettablePowerSupply
  | 44 => .fireDetectorsPowerSupply
  | 45 => .partitionBlockedIndicator
  | 46 => .outputsLogicAnd
  | 47 => .outputsLogicOr
  | 80 => .noGuardRound
  | 81 => .longMainBoardAcTrouble
  | 82 => .longExpandersAcTrouble
  | 83 => .outputsSignalingEnd
  | 84 => .codeEnteredSignaling
  | 85 => .codeUsedSignaling
  | 86 => .doorOpenIndicator
  | 87 => .doorLongOpenIndicator
  | 88 => .burglaryAlarmNoTamperNoFire
  | 89 => .eventsMemory50Percent
  | 90 => .eventsMemory90Percent
  | 91 => .autoArmDelaySignaling
  | 92 => .autoArmDelayIndicator
  | 93 => .unauthorizedDoorOpening
  | 94 => .unauthorizedDoorOpeningAlarm
  | 95 => .ipMonitoringTrouble
  | 96 => .telephoneLineTrouble
  | 97 => .synthesizerSelectable
  | 98 => .telephoneRelay
  | 99 => .cardRead
  | 100 => .cardHold
  | 101 => .cardReadInModule
  | 102 => .wirelessZoneNoComm
  | 103 => .wirelessOutputNoComm
  | 104 => .wirelessDeviceBatteryTrouble
  | 105 => .rollerBlindUp
  | 106 => .rollerBlindDown
  | 107 => .expanderCardHeadA
  | 108 => .expanderCardHeadB
  | 109 => .zonesLogicAnd
  | 110 => .unverifiedAlarm
  | 111 => .verifiedAlarm
  | 112 => .verificationWithoutAlarm
  | 113 => .verificationBypassIndicator
  | 114 => .zoneTestIndicator
  | 115 => .armModeIndicator
  | 116 => .internalSiren
  | 117 => .tamperIndicator
  | 118 => .keyFobsBatteryTrouble
  | 119 => .wirelessJammingTrouble
  | 120 => .thermostat
  | 121 => .zoneMaskingSignaling
  | 122 => .zoneMaskingIndicator
  | 123 => .moduleLock
  | other =>
    if 48 ≤ other ∧ other ≤ 63 then .synthesizer (other - 48)
    else if 64 ≤ other ∧ other ≤ 79 then .telephoneRelayNumbered (other - 64 + 1)
    else .unknown other

def OutputFunction.code : OutputFunction → UInt8
  | .unused => 0
  | .burglaryAlarm => 1
  | .fireAndBurglaryAlarm => 2
  | .fireAlarm => 3
  | .keypadAlarm => 4
  | .keypadFireAlarm => 5
  | .keypadPanicAlarm => 6
  | .keypadMedicalAlarm => 7
  | .tamperAlarm => 8
  | .alarmDay => 9
  | .duressAlarm => 10
  | .chime => 11
  | .silentAlarm => 12
  | .technicalAlarm => 13
  | .zoneViolation => 14
  | .videoDisarmed => 15
  | .videoArmed => 16
  | .readyIndicator => 17
  | .bypassesIndicator => 18
  | .exitDelayIndicator => 19
  | .entryDelayIndicator => 20
  | .armedIndicator => 21
  | .allArmedIndicator => 22
  | .armDisarmConfirmation => 23
  | .monoSwitch => 24
  | .biSwitch => 25
  | .timer => 26
  | .troubleIndicator => 27
  | .mainBoardAcTrouble => 28
  | .zonesAcTrouble => 29
  | .expandersAcTrouble => 30
  | .mainBoardBatteryTrouble => 31
  | .zonesBatteryTrouble => 32
  | .expanderBatteryTrouble => 33
  | .zoneTrouble => 34
  | .dialerActive => 35
  | .groundStart => 36
  | .monitoringConfirmation => 37
  | .serviceModeIndicator => 38
  | .vibrationSensorsTest => 39
  | .cashMachineBypassIndicator => 40
  | .powerSupply => 41
  | .powerSupplyArmed => 42
  | .resettablePowerSupply => 43
  | .fireDetectorsPowerSupply => 44
  | .partitionBlockedIndicator => 45
  | .outputsLogicAnd => 46
  | .outputsLogicOr => 47
  | .synthesizer n => 48 + min n 15
  | .telephoneRelayNumbered n => 64 + (max 1 (min n 16) - 1)
  | .noGuardRound => 80
  | .longMainBoardAcTrouble => 81
  | .longExpandersAcTrouble => 82
  | .outputsSignalingEnd => 83
  | .codeEnteredSignaling => 84
  | .codeUsedSignaling => 85
  | .doorOpenIndicator => 86
  | .doorLongOpenIndicator => 87
  | .burglaryAlarmNoTamperNoFire => 88
  | .eventsMemory50Percent => 89
  | .eventsMemory90Percent => 90
  | .autoArmDelaySignaling => 91
  | .autoArmDelayIndicator => 92
  | .unauthorizedDoorOpening => 93
  | .unauthorizedDoorOpeningAlarm => 94
  | .ipMonitoringTrouble => 95
  | .telephoneLineTrouble => 96
  | .synthesizerSelectable => 97
  | .telephoneRelay => 98
  | .cardRead => 99
  | .cardHold => 100
  | .cardReadInModule => 101
  | .wirelessZoneNoComm => 102
  | .wirelessOutputNoComm => 103
  | .wirelessDeviceBatteryTrouble => 104
  | .rollerBlindUp => 105
  | .rollerBlindDown => 106
  | .expanderCardHeadA => 107
  | .expanderCardHeadB => 108
  | .zonesLogicAnd => 109
  | .unverifiedAlarm => 110
  | .verifiedAlarm => 111
  | .verificationWithoutAlarm => 112
  | .verificationBypassIndicator => 113
  | .zoneTestIndicator => 114
  | .armModeIndicator => 115
  | .internalSiren => 116
  | .tamperIndicator => 117
  | .keyFobsBatteryTrouble => 118
  | .wirelessJammingTrouble => 119
  | .thermostat => 120
  | .zoneMaskingSignaling => 121
  | .zoneMaskingIndicator => 122
  | .moduleLock => 123
  | .unknown code => code

/-- No code is lost in the catalog. -/
lemma OutputFunction.code_fromCode (code : UInt8) : (OutputFunction.fromCode code).code = code := by
  have all : ∀ n : Fin 256, (OutputFunction.fromCode (.ofFin n)).code = .ofFin n := by decide +kernel
  exact all code.toFin

inductive OutputControl where
  | none
  | timed (duration : Option Duration)
  | bistable
  | unknown
  deriving DecidableEq, Repr

def OutputFunction.controlFromDuration (function : OutputFunction) (duration : Option Duration) :
    OutputControl :=
  let code := function.code
  if code = 24 ∨ code = 105 ∨ code = 106 then .timed duration
  else if code = 25 then .bistable
  else if (64 ≤ code ∧ code ≤ 79) ∨ code = 98 then
    match duration with
    | .none => .unknown
    | some d => if d = 0 then .bistable else .timed (some d)
  else .none

/-- The duration of a reply is in tenths of a second. -/
def tenthsOfSecond (ds : UInt16) : Duration := ds.toNat * 100 * 1000000

def OutputFunction.control (function : OutputFunction) (durationTenthsSec : Option UInt16) :
    OutputControl :=
  function.controlFromDuration (durationTenthsSec.map tenthsOfSecond)

inductive PartitionType where
  | normal
  | timedBlocking
  | dependentAnd
  | dependentOr
  | unknown (code : UInt8)
  deriving DecidableEq, Repr

def PartitionType.fromCode (code : UInt8) : PartitionType :=
  match code with
  | 0 => .normal
  | 1 => .timedBlocking
  | 2 => .dependentAnd
  | 3 => .dependentOr
  | other => .unknown other

def PartitionType.code : PartitionType → UInt8
  | .normal => 0
  | .timedBlocking => 1
  | .dependentAnd => 2
  | .dependentOr => 3
  | .unknown code => code

/-- No code is lost in the catalog. -/
lemma PartitionType.code_fromCode (code : UInt8) : (PartitionType.fromCode code).code = code := by
  have all : ∀ n : Fin 256, (PartitionType.fromCode (.ofFin n)).code = .ofFin n := by decide +kernel
  exact all code.toFin

structure PartitionOptions where
  twoCodesToArm : Bool
  twoCodesToDisarm : Bool
  timerPriority : Bool
  twoCodesOnTwoDevices : Bool
  alarmVerification : Bool
  exitDelayCanBeShortened : Bool
  infiniteExitDelay : Bool
  constantFirstCodeValidityPeriod : Bool
  constantBlockingTime : Bool
  doNotDisarmOnAlarm : Bool
  autoArmCanBeDeferred : Bool
  rawByte1 : UInt8
  rawByte2 : UInt8
  deriving DecidableEq, Repr

def PartitionOptions.fromBytes (b1 b2 : UInt8) : PartitionOptions where
  twoCodesToArm := b1 &&& 0x01 != 0
  twoCodesToDisarm := b1 &&& 0x02 != 0
  timerPriority := b1 &&& 0x04 != 0
  twoCodesOnTwoDevices := b1 &&& 0x08 != 0
  alarmVerification := b1 &&& 0x10 != 0
  exitDelayCanBeShortened := b1 &&& 0x20 != 0
  infiniteExitDelay := b1 &&& 0x40 != 0
  constantFirstCodeValidityPeriod := b1 &&& 0x80 != 0
  constantBlockingTime := b2 &&& 0x01 != 0
  doNotDisarmOnAlarm := b2 &&& 0x02 != 0
  autoArmCanBeDeferred := b2 &&& 0x80 != 0
  rawByte1 := b1
  rawByte2 := b2

inductive AutoArmDeferStatus where
  | inactive
  | set
  | running
  | unknown (code : UInt8)
  deriving DecidableEq, Repr

structure AutoArmDeferTimer where
  status : AutoArmDeferStatus
  deferTimeS : UInt16
  raw : UInt16
  deriving DecidableEq, Repr

def AutoArmDeferTimer.fromRaw (raw : UInt16) : AutoArmDeferTimer where
  status :=
    match (raw >>> 14).toUInt8 with
    | 0 => .inactive
    | 1 => .set
    | 2 => .running
    | other => .unknown other
  deferTimeS := raw &&& 0x3FFF
  raw := raw

structure DependentPartitions where
  raw : UInt32
  deriving DecidableEq, Repr

/-- `u32::from_le_bytes` -/
def DependentPartitions.fromBytes (b0 b1 b2 b3 : UInt8) : DependentPartitions where
  raw := b0.toUInt32 ||| b1.toUInt32 <<< 8 ||| b2.toUInt32 <<< 16 ||| b3.toUInt32 <<< 24

end SatelIntegra
