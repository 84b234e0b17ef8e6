import SatelIntegra.ObservedCell
import SatelIntegra.SystemParsers
import SatelIntegra.TroubleParsers

/-!
# The routines that update the cache

Each of the seventeen mask routines writes one flag of one kind of entity, with
its read time, and sends one event. `FlagField` names these four things; the loop
is the same for all. The routine for troubles inserts into three maps.
-/

namespace SatelIntegra

open CheckedAccess

/-- A flag of an entity with its read time, and the event that reports it. -/
structure FlagField (E : Type) where
  id : E → UInt16
  state : E → Bool
  readAt : E → Option LocalTime
  write : E → Bool → LocalTime → E
  event : UInt16 → Bool → SatelEvent
  id_write : ∀ e b t, id (write e b t) = id e
  state_write : ∀ e b t, state (write e b t) = b
  readAt_write : ∀ e b t, readAt (write e b t) = some t

section Loop
variable {E : Type}

/-- The loop over `result.states`; past the last entity `get_mut` finds nothing. -/
def updateFlags (field : FlagField E) (emit : Bool) (readAt : LocalTime) :
    List Bool → List E → List E × List SatelEvent
  | newState :: states, entity :: entities =>
    let isInitial := (field.readAt entity).isNone
    let changed := field.state entity != newState
    let (entities', events) := updateFlags field emit readAt states entities
    if emit || isInitial || changed then
      (field.write entity newState readAt :: entities',
        field.event (field.id entity) newState :: events)
    else (entity :: entities', events)
  | _, entities => (entities, [])

end Loop

section Fields

def zoneField (state : Zone → Bool) (readAt : Zone → Option LocalTime)
    (write : Zone → Bool → LocalTime → Zone) (event : UInt16 → Bool → SatelEvent)
    (id_write : ∀ e b t, Zone.id (write e b t) = Zone.id e := by intros; rfl)
    (state_write : ∀ e b t, state (write e b t) = b := by intros; rfl)
    (readAt_write : ∀ e b t, readAt (write e b t) = some t := by intros; rfl) : FlagField Zone :=
  { id := Zone.id, state, readAt, write, event, id_write, state_write, readAt_write }

def zoneTamper : FlagField Zone :=
  zoneField Zone.tamperState Zone.tamperReadAt
    (fun zone b t => { zone with tamperState := b, tamperReadAt := some t }) .zoneTamper

def zoneAlarm : FlagField Zone :=
  zoneField Zone.alarmState Zone.alarmReadAt
    (fun zone b t => { zone with alarmState := b, alarmReadAt := some t }) .zoneAlarm

def zoneViolation : FlagField Zone :=
  zoneField Zone.violationState Zone.violationReadAt
    (fun zone b t => { zone with violationState := b, violationReadAt := some t }) .zoneViolation

def zoneTamperAlarm : FlagField Zone :=
  zoneField Zone.tamperAlarmState Zone.tamperAlarmReadAt
    (fun zone b t => { zone with tamperAlarmState := b, tamperAlarmReadAt := some t })
    .zoneTamperAlarm

def zoneAlarmMemory : FlagField Zone :=
  zoneField Zone.alarmMemoryState Zone.alarmMemoryReadAt
    (fun zone b t => { zone with alarmMemoryState := b, alarmMemoryReadAt := some t })
    .zoneAlarmMemory

def zoneTamperAlarmMemory : FlagField Zone :=
  zoneField Zone.tamperAlarmMemoryState Zone.tamperAlarmMemoryReadAt
    (fun zone b t => { zone with tamperAlarmMemoryState := b, tamperAlarmMemoryReadAt := some t })
    .zoneTamperAlarmMemory

def zoneBypass : FlagField Zone :=
  zoneField Zone.bypassState Zone.bypassReadAt
    (fun zone b t => { zone with bypassState := b, bypassReadAt := some t }) .zoneBypass

def zoneNoViolationTrouble : FlagField Zone :=
  zoneField Zone.noViolationTroubleState Zone.noViolationTroubleReadAt
    (fun zone b t =>
      { zone with noViolationTroubleState := b, noViolationTroubleReadAt := some t })
    .zoneNoViolationTrouble

def zoneLongViolationTrouble : FlagField Zone :=
  zoneField Zone.longViolationTroubleState Zone.longViolationTroubleReadAt
    (fun zone b t =>
      { zone with longViolationTroubleState := b, longViolationTroubleReadAt := some t })
    .zoneLongViolationTrouble

def partitionField (state : Partition → Bool) (readAt : Partition → Option LocalTime)
    (write : Partition → Bool → LocalTime → Partition) (event : UInt16 → Bool → SatelEvent)
    (id_write : ∀ e b t, Partition.id (write e b t) = Partition.id e := by intros; rfl)
    (state_write : ∀ e b t, state (write e b t) = b := by intros; rfl)
    (readAt_write : ∀ e b t, readAt (write e b t) = some t := by intros; rfl) :
    FlagField Partition :=
  { id := Partition.id, state, readAt, write, event, id_write, state_write, readAt_write }

def partitionArmed : FlagField Partition :=
  partitionField Partition.armedSuppressed Partition.armedSuppressedAt
    (fun partition b t => { partition with armedSuppressed := b, armedSuppressedAt := some t })
    .partitionArmed

def partitionArmedReally : FlagField Partition :=
  partitionField Partition.armedReally Partition.armedReallyAt
    (fun partition b t => { partition with armedReally := b, armedReallyAt := some t })
    .partitionArmedReally

def partitionAlarm : FlagField Partition :=
  partitionField Partition.alarm Partition.alarmAt
    (fun partition b t => { partition with alarm := b, alarmAt := some t }) .partitionAlarm

def partitionAlarmMemory : FlagField Partition :=
  partitionField Partition.alarmMemory Partition.alarmMemoryAt
    (fun partition b t => { partition with alarmMemory := b, alarmMemoryAt := some t })
    .partitionAlarmMemory

def partitionEntryTime : FlagField Partition :=
  partitionField Partition.entryTime Partition.entryTimeAt
    (fun partition b t => { partition with entryTime := b, entryTimeAt := some t })
    .partitionEntryTime

def partitionExitTimeGt10s : FlagField Partition :=
  partitionField Partition.exitTimeGt10s Partition.exitTimeGt10sAt
    (fun partition b t => { partition with exitTimeGt10s := b, exitTimeGt10sAt := some t })
    .partitionExitTimeGt10s

def partitionExitTimeLt10s : FlagField Partition :=
  partitionField Partition.exitTimeLt10s Partition.exitTimeLt10sAt
    (fun partition b t => { partition with exitTimeLt10s := b, exitTimeLt10sAt := some t })
    .partitionExitTimeLt10s

def outputState : FlagField Output where
  id := Output.id
  state := Output.state
  readAt := Output.stateReadAt
  write := fun output b t => { output with state := b, stateReadAt := some t }
  event := .outputChanged
  id_write := by intros; rfl
  state_write := by intros; rfl
  readAt_write := by intros; rfl

end Fields

section Routines

/-- An update leaves a state and sends events. -/
abbrev Updated := SatelState × List SatelEvent

def updateZones (field : FlagField Zone) (config : Config) (state : SatelState)
    (result : StatesData) (emitAll : Bool) : Updated :=
  let (zones, events) := updateFlags field (emitAll || config.emitUnchangedZones) result.readAt
    result.states state.zones
  ({ state with zones }, events)

def updatePartitions (field : FlagField Partition) (config : Config) (state : SatelState)
    (result : StatesData) (emitAll : Bool) : Updated :=
  let (partitions, events) := updateFlags field (emitAll || config.emitUnchangedPartitions)
    result.readAt result.states state.partitions
  ({ state with partitions }, events)

def updateZonesTamperInternal := updateZones zoneTamper
def updateZonesAlarmInternal := updateZones zoneAlarm
def updateZonesViolationInternal := updateZones zoneViolation
def updateZonesTamperAlarmInternal := updateZones zoneTamperAlarm
def updateZonesAlarmMemoryInternal := updateZones zoneAlarmMemory
def updateZonesTamperAlarmMemoryInternal := updateZones zoneTamperAlarmMemory
def updateZonesBypassInternal := updateZones zoneBypass
def updateZonesNoViolationTroubleInternal := updateZones zoneNoViolationTrouble
def updateZonesLongViolationTroubleInternal := updateZones zoneLongViolationTrouble

def updatePartitionsArmedInternal := updatePartitions partitionArmed
def updatePartitionsArmedReallyInternal := updatePartitions partitionArmedReally
def updatePartitionsAlarmInternal := updatePartitions partitionAlarm
def updatePartitionsAlarmMemoryInternal := updatePartitions partitionAlarmMemory
def updatePartitionsEntryTimeInternal := updatePartitions partitionEntryTime
def updatePartitionsExitTimeGt10sInternal := updatePartitions partitionExitTimeGt10s
def updatePartitionsExitTimeLt10sInternal := updatePartitions partitionExitTimeLt10s

def updateOutputsStateInternal (config : Config) (state : SatelState) (result : StatesData)
    (emitAll : Bool) : Updated :=
  let (outputs, events) := updateFlags outputState (emitAll || config.emitUnchangedOutputs)
    result.readAt result.states state.outputs
  ({ state with outputs }, events)

def updateIntegraVersionInternal (state : SatelState) (version : IntegraVersion) : Updated :=
  ({ state with integraVersion := some version }, [.integraVersionReceived version])

def updateEthmVersionInternal (state : SatelState) (version : EthmVersion) : Updated :=
  ({ state with ethmVersion := some version }, [.ethmVersionReceived version])

def updateSystemStatusInternal (config : Config) (state : SatelState) (status : SystemStatus) :
    Updated :=
  let changed := state.systemStatus != some status
  if changed || config.emitUnchangedSystemStatus then
    ({ state with systemStatus := some status }, [.systemStatusChanged status])
  else (state, [])

/-- The body of the loop over the decoded items. -/
def updateTrouble (emitUnchanged : Bool) (state : SatelState) : TroubleItem → Updated
  | .flag trouble memory active =>
    let prev := (state.troubleFlags (trouble, memory)).getD false
    let changed := prev != active
    ({ state with troubleFlags := state.troubleFlags.insert (trouble, memory) active },
      if changed || emitUnchanged then
        [if memory then .troubleMemory trouble active else .trouble trouble active]
      else [])
  | .acuJamLevel module level =>
    let prev := (state.acuJamLevels module).getD 0
    let changed := prev != level
    ({ state with acuJamLevels := state.acuJamLevels.insert module level },
      if changed || emitUnchanged then [.acuJamLevel module level] else [])
  | .cmeError source sim memory code =>
    let prev := (state.cmeErrors (source, sim, memory)).getD 0
    let changed := prev != code
    ({ state with cmeErrors := state.cmeErrors.insert (source, sim, memory) code },
      if changed || emitUnchanged then [.cmeError source sim code memory] else [])

def updateTroubles (emitUnchanged : Bool) : SatelState → List TroubleItem → Updated
  | state, [] => (state, [])
  | state, item :: items =>
    let (state₁, events) := updateTrouble emitUnchanged state item
    let (state₂, events') := updateTroubles emitUnchanged state₁ items
    (state₂, events ++ events')

def updateTroublesInternal (config : Config) (state : SatelState) (cmd : SatelCommand)
    (data : Frame) : Parsed Updated := do
  let items ← decodeTroubles cmd.toByte data
  return updateTroubles config.emitUnchangedTroubles state items

end Routines
end SatelIntegra
