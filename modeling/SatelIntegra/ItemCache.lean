import Mathlib.Logic.Function.Basic
import SatelIntegra.NameParsers

/-!
# What queries read and write in the cache

The fields of zones, outputs and partitions that name and temperature queries use,
and the blocks of code that run under the lock of the state, one constructor of
`CacheSection` each. `SatelState::new` numbers the entries from 1 and no operation
writes an `id`, so an entry's number is a function of its place.
-/

namespace SatelIntegra

inductive TemperatureSensorStatus where
  | noRead
  | ok
  | sensorMissing
  | communicationError
  | blockSensorMissing
  | blockCommunicationError
  | retryRead
  deriving DecidableEq, Repr

structure ZoneItem where
  zoneName : String := ""
  zoneNameReadAt : LocalTime
  temperatureValue : HalfDegrees := 0
  temperatureReadAt : LocalTime
  temperatureStatus : TemperatureSensorStatus := .noRead
  temperatureTimeoutErrorsTotal : UInt32 := 0
  temperatureSensorErrorsTotal : UInt32 := 0
  temperatureTimeoutErrorsCurrent : UInt32 := 0
  temperatureSensorErrorsCurrent : UInt32 := 0
  temperatureBlockedCycles : UInt32 := 0
  reaction : Option ZoneReaction := none
  partition : Option UInt8 := none
  paramsReadAt : Option LocalTime := none
  deriving DecidableEq, Repr

structure OutputItem where
  name : String := ""
  nameReadAt : LocalTime
  function : Option OutputFunction := none
  duration : Option Duration := none
  control : Option OutputControl := none
  paramsReadAt : Option LocalTime := none
  deriving DecidableEq, Repr

structure PartitionItem where
  name : String := ""
  nameReadAt : LocalTime
  partitionType : Option PartitionType := none
  objectNumber : Option UInt8 := none
  options : Option PartitionOptions := none
  autoArmDefer : Option AutoArmDeferTimer := none
  dependentPartitions : Option DependentPartitions := none
  paramsReadAt : Option LocalTime := none
  deriving DecidableEq, Repr

structure ZoneTemperature where
  zoneId : UInt16
  temperature : HalfDegrees
  readAt : LocalTime
  deriving DecidableEq, Repr

structure ItemCache where
  zones : Fin 256 → ZoneItem
  outputs : Fin 256 → OutputItem
  partitions : Fin 32 → PartitionItem

def ItemCache.new (now : LocalTime) : ItemCache where
  zones _ := { zoneNameReadAt := now, temperatureReadAt := now }
  outputs _ := { nameReadAt := now }
  partitions _ := { nameReadAt := now }

lemma zoneCount_pos : 0 < 256 := by decide

lemma partitionCount_pos : 0 < 32 := by decide

/-- `(id.wrapping_sub(1) % n) as usize`, so `get` and `get_mut` always find an entry. -/
def itemIndex (n : Nat) (id : UInt16)
    (h : 0 < n := by first | exact zoneCount_pos | exact partitionCount_pos) : Fin n :=
  ⟨(id - 1).toNat % n, Nat.mod_lt _ h⟩

def itemId {n : Nat} (i : Fin n) : UInt16 := .ofNat (i + 1)

structure TempLimits where
  maxTimeoutErrors : UInt32
  maxSensorErrors : UInt32
  unblockEnabled : Bool
  unblockAfterCycles : UInt32
  deriving DecidableEq, Repr

def tempLimits (config : Config) (zoneId : UInt16) : TempLimits :=
  match config.temperatureProbes.find? fun probe => probe.zoneId == zoneId with
  | some probe =>
    { maxTimeoutErrors := probe.maxTimeoutErrors
      maxSensorErrors := probe.maxSensorErrors
      unblockEnabled := probe.unblockEnabled
      unblockAfterCycles := probe.unblockAfterCycles }
  | none =>
    { maxTimeoutErrors := config.tempMaxTimeoutErrors
      maxSensorErrors := config.tempMaxSensorErrors
      unblockEnabled := false
      unblockAfterCycles := minUnblockAfterCycles }

namespace ZoneItem

def store (name : SatelName) (params : ZoneParams) (z : ZoneItem) : ZoneItem :=
  { z with
    zoneName := name.name
    zoneNameReadAt := name.readAt
    reaction := some params.reaction
    partition := params.partition
    paramsReadAt := some params.readAt }

def clear (now : LocalTime) (z : ZoneItem) : ZoneItem :=
  { z with
    zoneName := ""
    zoneNameReadAt := now
    reaction := none
    partition := none
    paramsReadAt := some now }

def toZoneTemperature (id : UInt16) (z : ZoneItem) : ZoneTemperature :=
  { zoneId := id, temperature := z.temperatureValue, readAt := z.temperatureReadAt }

def temperatureSuccess (temp : HalfDegrees) (now : LocalTime) (z : ZoneItem) : ZoneItem :=
  { z with
    temperatureValue := temp
    temperatureReadAt := now
    temperatureStatus := .ok
    temperatureBlockedCycles := 0
    temperatureTimeoutErrorsCurrent :=
      if z.temperatureTimeoutErrorsCurrent > 0 then z.temperatureTimeoutErrorsCurrent - 1
      else z.temperatureTimeoutErrorsCurrent
    temperatureSensorErrorsCurrent :=
      if z.temperatureSensorErrorsCurrent > 0 then z.temperatureSensorErrorsCurrent - 1
      else z.temperatureSensorErrorsCurrent }

def isTimeout (e : SatelError) : Bool := e = .timeout || e = .temperatureNotSupportedOrTimeOut

/-- The counters wrap, as in a release build. -/
def timeoutError (limits : TempLimits) (z : ZoneItem) : ZoneItem :=
  let current := z.temperatureTimeoutErrorsCurrent + 1
  let z :=
    { z with
      temperatureTimeoutErrorsTotal := z.temperatureTimeoutErrorsTotal + 1
      temperatureTimeoutErrorsCurrent := current }
  if current ≥ limits.maxTimeoutErrors then
    { z with temperatureStatus := .blockSensorMissing, temperatureBlockedCycles := 0 }
  else { z with temperatureStatus := .sensorMissing }

def sensorError (limits : TempLimits) (z : ZoneItem) : ZoneItem :=
  let current := z.temperatureSensorErrorsCurrent + 1
  let z :=
    { z with
      temperatureSensorErrorsTotal := z.temperatureSensorErrorsTotal + 1
      temperatureSensorErrorsCurrent := current }
  if current ≥ limits.maxSensorErrors then
    { z with temperatureStatus := .blockCommunicationError, temperatureBlockedCycles := 0 }
  else { z with temperatureStatus := .communicationError }

/-- The block of `update_temp_error` under the lock. -/
def temperatureError (error : SatelError) (limits : TempLimits) (now : LocalTime) (z : ZoneItem) :
    ZoneItem :=
  let z :=
    if isTimeout error then z.timeoutError limits
    else if error = .temperatureSensorError then z.sensorError limits
    else z
  { z with temperatureReadAt := now }

/-- The status `update_temp_error` reports. -/
def reportedStatus (error : SatelError) (z : ZoneItem) : TemperatureSensorStatus :=
  if isTimeout error then .sensorMissing
  else if error = .temperatureSensorError then .communicationError
  else z.temperatureStatus

def resetTemperature (z : ZoneItem) : ZoneItem :=
  { z with
    temperatureStatus := .noRead
    temperatureTimeoutErrorsCurrent := 0
    temperatureSensorErrorsCurrent := 0
    temperatureBlockedCycles := 0 }

def isBlocked (limits : TempLimits) (z : ZoneItem) : Bool :=
  z.temperatureStatus = .blockSensorMissing
    || z.temperatureStatus = .blockCommunicationError
    || z.temperatureTimeoutErrorsCurrent ≥ limits.maxTimeoutErrors
    || z.temperatureSensorErrorsCurrent ≥ limits.maxSensorErrors

def blockedStatus (limits : TempLimits) (z : ZoneItem) : TemperatureSensorStatus :=
  if z.temperatureStatus = .blockSensorMissing
      ∨ z.temperatureTimeoutErrorsCurrent ≥ limits.maxTimeoutErrors then .blockSensorMissing
  else .blockCommunicationError

/-- `saturating_sub(1)` of a counter at its limit. -/
def lowered (current max : UInt32) : UInt32 :=
  if current ≥ max then (if current = 0 then 0 else current - 1) else current

def unblock (limits : TempLimits) (z : ZoneItem) : ZoneItem :=
  { z with
    temperatureTimeoutErrorsCurrent :=
      lowered z.temperatureTimeoutErrorsCurrent limits.maxTimeoutErrors
    temperatureSensorErrorsCurrent :=
      lowered z.temperatureSensorErrorsCurrent limits.maxSensorErrors
    temperatureStatus := .retryRead
    temperatureBlockedCycles := 0 }

def keepBlocked (status : TemperatureSensorStatus) (cycles : UInt32) (z : ZoneItem) : ZoneItem :=
  { z with temperatureStatus := status, temperatureBlockedCycles := cycles }

end ZoneItem

def OutputItem.store (name : SatelName) (params : OutputParams) (o : OutputItem) : OutputItem :=
  { o with
    name := name.name
    nameReadAt := name.readAt
    function := some params.function
    duration := params.duration
    control := some params.control
    paramsReadAt := some params.readAt }

def OutputItem.clear (now : LocalTime) (o : OutputItem) : OutputItem :=
  { o with
    name := ""
    nameReadAt := now
    function := none
    duration := none
    control := none
    paramsReadAt := some now }

def PartitionItem.store (name : SatelName) (params : PartitionParams) (p : PartitionItem) :
    PartitionItem :=
  { p with
    name := name.name
    nameReadAt := name.readAt
    partitionType := some params.partitionType
    objectNumber := params.objectNumber
    options := params.options
    autoArmDefer := params.autoArmDefer
    dependentPartitions := params.dependentPartitions
    paramsReadAt := some params.readAt }

def PartitionItem.clear (now : LocalTime) (p : PartitionItem) : PartitionItem :=
  { p with
    name := ""
    nameReadAt := now
    partitionType := none
    objectNumber := none
    options := none
    autoArmDefer := none
    dependentPartitions := none
    paramsReadAt := some now }

/-- The blocks under the lock of the state, `look` for those that only read. -/
inductive CacheSection where
  | look
  | storeZone (id : UInt16) (name : SatelName) (params : ZoneParams)
  | clearZone (id : UInt16) (now : LocalTime)
  | storeOutput (id : UInt16) (name : SatelName) (params : OutputParams)
  | clearOutput (id : UInt16) (now : LocalTime)
  | storePartition (id : UInt16) (name : SatelName) (params : PartitionParams)
  | clearPartition (id : UInt16) (now : LocalTime)
  | temperatureSuccess (id : UInt16) (temp : HalfDegrees)
  | temperatureError (id : UInt16) (error : SatelError) (limits : TempLimits)
  | resetTemperature (id : UInt16)
  | unblock (id : UInt16) (limits : TempLimits)
  | keepBlocked (id : UInt16) (status : TemperatureSensorStatus) (cycles : UInt32)

namespace ItemCache

def modifyZone (id : UInt16) (f : ZoneItem → ZoneItem) (c : ItemCache) : ItemCache :=
  let i := itemIndex 256 id
  { c with zones := Function.update c.zones i (f (c.zones i)) }

def modifyOutput (id : UInt16) (f : OutputItem → OutputItem) (c : ItemCache) : ItemCache :=
  let i := itemIndex 256 id
  { c with outputs := Function.update c.outputs i (f (c.outputs i)) }

def modifyPartition (id : UInt16) (f : PartitionItem → PartitionItem) (c : ItemCache) :
    ItemCache :=
  let i := itemIndex 32 id
  { c with partitions := Function.update c.partitions i (f (c.partitions i)) }

/-- What a block makes of the cache, with the local time it may read. -/
def enter (now : LocalTime) : CacheSection → ItemCache → ItemCache
  | .look, c => c
  | .storeZone id name params, c => c.modifyZone id (.store name params)
  | .clearZone id now, c => c.modifyZone id (.clear now)
  | .storeOutput id name params, c => c.modifyOutput id (.store name params)
  | .clearOutput id now, c => c.modifyOutput id (.clear now)
  | .storePartition id name params, c => c.modifyPartition id (.store name params)
  | .clearPartition id now, c => c.modifyPartition id (.clear now)
  | .temperatureSuccess id temp, c => c.modifyZone id (.temperatureSuccess temp now)
  | .temperatureError id error limits, c => c.modifyZone id (.temperatureError error limits now)
  | .resetTemperature id, c => c.modifyZone id .resetTemperature
  | .unblock id limits, c => c.modifyZone id (.unblock limits)
  | .keepBlocked id status cycles, c => c.modifyZone id (.keepBlocked status cycles)

variable (id : UInt16) (c : ItemCache)

@[simp] lemma modifyZone_zones_self (f : ZoneItem → ZoneItem) :
    (c.modifyZone id f).zones (itemIndex 256 id) = f (c.zones (itemIndex 256 id)) := by
  simp [modifyZone]

lemma modifyZone_zones_of_ne (f : ZoneItem → ZoneItem) {i : Fin 256} (ne : i ≠ itemIndex 256 id) :
    (c.modifyZone id f).zones i = c.zones i := by
  simp [modifyZone, ne]

lemma modifyZone_zones (f : ZoneItem → ZoneItem) (i : Fin 256) :
    (c.modifyZone id f).zones i = if itemIndex 256 id = i then f (c.zones i) else c.zones i := by
  by_cases same : itemIndex 256 id = i
  · subst same
    simp
  · rw [if_neg same, c.modifyZone_zones_of_ne id f (Ne.symm same)]

@[simp] lemma modifyZone_outputs (f : ZoneItem → ZoneItem) :
    (c.modifyZone id f).outputs = c.outputs := rfl

@[simp] lemma modifyZone_partitions (f : ZoneItem → ZoneItem) :
    (c.modifyZone id f).partitions = c.partitions := rfl

@[simp] lemma modifyOutput_zones (f : OutputItem → OutputItem) :
    (c.modifyOutput id f).zones = c.zones := rfl

@[simp] lemma modifyOutput_outputs_self (f : OutputItem → OutputItem) :
    (c.modifyOutput id f).outputs (itemIndex 256 id) = f (c.outputs (itemIndex 256 id)) := by
  simp [modifyOutput]

lemma modifyOutput_outputs_of_ne (f : OutputItem → OutputItem) {i : Fin 256}
    (ne : i ≠ itemIndex 256 id) : (c.modifyOutput id f).outputs i = c.outputs i := by
  simp [modifyOutput, ne]

@[simp] lemma modifyOutput_partitions (f : OutputItem → OutputItem) :
    (c.modifyOutput id f).partitions = c.partitions := rfl

@[simp] lemma modifyPartition_zones (f : PartitionItem → PartitionItem) :
    (c.modifyPartition id f).zones = c.zones := rfl

@[simp] lemma modifyPartition_outputs (f : PartitionItem → PartitionItem) :
    (c.modifyPartition id f).outputs = c.outputs := rfl

@[simp] lemma modifyPartition_partitions_self (f : PartitionItem → PartitionItem) :
    (c.modifyPartition id f).partitions (itemIndex 32 id) = f (c.partitions (itemIndex 32 id)) := by
  simp [modifyPartition]

lemma modifyPartition_partitions_of_ne (f : PartitionItem → PartitionItem) {i : Fin 32}
    (ne : i ≠ itemIndex 32 id) : (c.modifyPartition id f).partitions i = c.partitions i := by
  simp [modifyPartition, ne]

end ItemCache
end SatelIntegra
