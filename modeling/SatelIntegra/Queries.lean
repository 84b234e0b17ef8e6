import SatelIntegra.Client

/-!
# Name and parameter queries, and the functions that reset their level

Zones, outputs and partitions are queried in the same way, with device types, a
parser and cache fields of their own: a `QueryFamily`. A query tries the device types
of its session level from the richest down until the panel does not reject one.
-/

namespace SatelIntegra

open CheckedAccess AtomicCalls

structure QueryFamily (π : Type) where
  kind : ItemKind
  typesToTry : (extended : Bool) → (sessionType : UInt8) → (confirmed : Bool) → List UInt8
  deviceId : UInt16 → UInt8
  process : NameDecoder → Frame → LocalTime → Parsed (UInt16 × SatelName × π)
  store : UInt16 → SatelName → π → CacheSection
  clear : UInt16 → LocalTime → CacheSection
  nameReceived : UInt16 → String → QueryEvent
  paramsReceived : UInt16 → π → QueryEvent
  unconfigured : UInt16 → LocalTime → π

/-- Number 256 is `0` in a byte. -/
def narrowNumber (id : UInt16) : UInt8 := if id = 256 then 0 else id.toUInt8

/-- A reply begins with the byte of its command. -/
def startsWith (b : UInt8) (response : Frame) : Bool := response.head? == some b

def zoneFamily : QueryFamily ZoneParams where
  kind := .zone
  typesToTry extended sessionType confirmed :=
    if extended then
      if confirmed then [sessionType]
      else if sessionType = 5 then [5, 1]
      else [1]
    else [1]
  deviceId := narrowNumber
  process := processZoneResponse
  store := .storeZone
  clear := .clearZone
  nameReceived := .zoneNameReceived
  paramsReceived := .zoneParamsReceived
  unconfigured id now :=
    { zoneId := id, reaction := .fromCode 0, partition := none, readAt := now }

def outputFamily : QueryFamily OutputParams where
  kind := .output
  typesToTry extended sessionType confirmed :=
    if extended then
      if confirmed then [sessionType]
      else if sessionType = 17 then [17, 4]
      else [4]
    else [4]
  deviceId := narrowNumber
  process := processOutputResponse
  store := .storeOutput
  clear := .clearOutput
  nameReceived := .outputNameReceived
  paramsReceived := .outputParamsReceived
  unconfigured id now :=
    { outputId := id, function := .unused, duration := none, control := .none, readAt := now }

def partitionFamily : QueryFamily PartitionParams where
  kind := .partition
  typesToTry extended sessionType confirmed :=
    if extended then
      if confirmed then [sessionType]
      else
        match sessionType with
        | 19 => [19, 18, 16, 0]
        | 18 => [18, 16, 0]
        | 16 => [16, 0]
        | _ => [0]
    else [0]
  deviceId := UInt16.toUInt8
  process := processPartitionResponse
  store := .storePartition
  clear := .clearPartition
  nameReceived := .partitionNameReceived
  paramsReceived := .partitionParamsReceived
  unconfigured id now :=
    { partitionId := id
      partitionType := .normal
      objectNumber := none
      options := none
      autoArmDefer := none
      dependentPartitions := none
      readAt := now }

namespace ClientCall

section Family
variable {π : Type} (family : QueryFamily π) (decoder : NameDecoder) (id : UInt16)

/-- The level is stored as soon as the reply is recognised, and only then is the reply parsed. -/
def takeReply (sessionType devType : UInt8) (response : Frame) : ClientCall (SatelName × Option π) := do
  if devType < sessionType then
    CallTree.perform (ClientOp.storeType family.kind devType)
  CallTree.perform (ClientOp.storeConfirmed family.kind)
  let parsed ← orPanic (family.process decoder response (← localNow)).run
  let (number, name, params) ← orReturn parsed
  let _ ← underLock (family.store number name params)
  return (name, some params)

def tryTypes (sessionType : UInt8) : List UInt8 → ClientCall (SatelName × Option π)
  | [] => do
    let now ← localNow
    let _ ← underLock (family.clear id now)
    return ({ name := "", readAt := now }, none)
  | devType :: types => do
    let response ← orReturn (← exchange
      [SatelCommand.readDeviceName.toByte, devType, family.deviceId id] none)
    if startsWith SatelCommand.resultCode.toByte response then tryTypes sessionType types
    else if startsWith SatelCommand.readDeviceName.toByte response then
      takeReply family decoder sessionType devType response
    else throw (.returned .invalidFrame)

def queryInternal : ClientCall (SatelName × Option π) := do
  let extended := (← readConfig).extendedNameRead
  let sessionType ← CallTree.perform (ClientOp.loadType family.kind)
  let confirmed ← CallTree.perform (ClientOp.loadConfirmed family.kind)
  tryTypes family decoder id sessionType (family.typesToTry extended sessionType confirmed)

def getName : ClientCall SatelName := do
  let (name, maybeParams) ← queryInternal family decoder id
  match maybeParams with
  | some params =>
    send (family.nameReceived id name.name)
    if (← readConfig).extendedNameRead then send (family.paramsReceived id params)
    return name
  | none => return name

def getParams : ClientCall π := do
  let (name, maybeParams) ← queryInternal family decoder id
  match maybeParams with
  | some params =>
    send (family.nameReceived id name.name)
    send (family.paramsReceived id params)
    return params
  | none => return family.unconfigured id name.readAt

end Family

section Members
variable (decoder : NameDecoder)

def queryZoneInternal (zoneId : UInt16) := queryInternal zoneFamily decoder zoneId

def getZoneName (zoneId : UInt16) := getName zoneFamily decoder zoneId

def getZoneParams (zoneId : UInt16) := getParams zoneFamily decoder zoneId

def queryOutputInternal (outputId : UInt16) := queryInternal outputFamily decoder outputId

def getOutputName (outputId : UInt16) := getName outputFamily decoder outputId

def getOutputParams (outputId : UInt16) := getParams outputFamily decoder outputId

def queryPartitionInternal (partitionId : UInt16) :=
  queryInternal partitionFamily decoder partitionId

def getPartitionName (partitionId : UInt16) := getName partitionFamily decoder partitionId

def getPartitionParams (partitionId : UInt16) := getParams partitionFamily decoder partitionId

end Members

/-- The six stores `connect` and `hot_reload_config` make in this order. -/
def resetLevels (extended : Bool) : ClientCall Unit := do
  CallTree.perform (ClientOp.resetType .zone (ItemKind.topType .zone extended))
  CallTree.perform (ClientOp.resetType .output (ItemKind.topType .output extended))
  CallTree.perform (ClientOp.resetType .partition (ItemKind.topType .partition extended))
  CallTree.perform (ClientOp.resetConfirmed .zone)
  CallTree.perform (ClientOp.resetConfirmed .output)
  CallTree.perform (ClientOp.resetConfirmed .partition)

def hotReloadConfig (newConfig : Config) : ClientCall Unit := do
  orReturn newConfig.validate
  let old ← CallTree.perform (ClientOp.swapConfig newConfig)
  let stored := newConfig.keepConnection old
  let changed := SatelConnectionWorker.connectBuildPushMask old true
    != SatelConnectionWorker.connectBuildPushMask stored true
  if changed then CallTree.perform ClientOp.markAutoReadDirty
  if old.extendedNameRead != stored.extendedNameRead then resetLevels stored.extendedNameRead
  send .configUpdated

/-- The first call starts the worker, later ones send it a message; both wait for its answer. -/
def connect : ClientCall Unit := do
  orReturn (← readConfig).validate
  resetLevels (← readConfig).extendedNameRead
  let _ ← CallTree.perform ClientOp.takeWorker
  orReturn (← CallTree.perform ClientOp.awaitConnect)

end ClientCall
end SatelIntegra
