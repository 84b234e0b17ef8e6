import SatelIntegra.AutoReadTables
import SatelIntegra.CallTraces
import SatelIntegra.Client
import SatelIntegra.ParserBounds

/-!
# Queries for the state of the panel

The `get_*` and `refresh_*` functions ask the panel for what it would otherwise push.
Each makes one request, parses the reply and stores it in a block under the lock of
the state. Their parsers, and for troubles a second decoder beside the typed one, are
not the code that handles pushed frames. Here a query and a push are compared frame by
frame.
-/

namespace SatelIntegra

open CheckedAccess AtomicCalls KeyedWrites ObservedCell

/-! ### Operations -/

/-- A block under the write lock of the state. -/
inductive StateUpdate where
  | flags (category : Category) (result : StatesData) (emitAll : Bool)
  | systemStatus (status : SystemStatus)
  | troubles (items : List TroubleItem)
  | integraVersion (version : IntegraVersion)
  | ethmVersion (version : EthmVersion)
  | autoReadReport (report : AutoReadReport)
  | markStatistics

/-- What a block leaves, and the events it sends before it ends. -/
def StateUpdate.apply (config : Config) (state : SatelState) : StateUpdate → Updated
  | flags category result emitAll => category.update config state result emitAll
  | systemStatus status => updateSystemStatusInternal config state status
  | troubles items => updateTroubles config.emitUnchangedTroubles state items
  | integraVersion version => ({ state with integraVersion := some version }, [])
  | ethmVersion version => ({ state with ethmVersion := some version }, [])
  | autoReadReport report => ({ state with autoReadReport := some report }, [])
  | markStatistics =>
    let telemetry := state.telemetry
    ({ state with telemetry := { telemetry with lastSentStatsMark := telemetry.statsMark } }, [])

/-- What a parser reads besides the frame. -/
structure ParseContext where
  config : Config
  clock : Clock

/-- `nextMessage` takes a message from the channel of the auto-requester, `swapConfig` is the block
of `hot_reload_config`. A block answers with the state it leaves. -/
inductive StateOp where
  | exchange (data : Frame)
  | parseContext
  | underLock (update : StateUpdate)
  | send (event : SatelEvent)
  | nextMessage
  | swapConfig (newConfig : Config)

abbrev StateOp.Answer : StateOp → Type
  | exchange _ => Except SatelError Frame
  | parseContext => ParseContext
  | underLock _ => SatelState
  | nextMessage => StateWorkerMessage
  | send _ | swapConfig _ => Unit

/-- A function of the client or of the auto-requester, operation by operation. -/
abbrev StateCall (α : Type) := CallTree StateOp StateOp.Answer Failure α

namespace StateCall
variable {α : Type}

abbrev parseContext : StateCall ParseContext := CallTree.perform StateOp.parseContext

abbrev underLock (update : StateUpdate) : StateCall SatelState :=
  CallTree.perform (StateOp.underLock update)

abbrev send (event : SatelEvent) : StateCall Unit := CallTree.perform (StateOp.send event)

/-- `?` after a parser. -/
def orReturn : Except Panic (Except SatelError α) → StateCall α
  | .ok (.ok a) => pure a
  | .ok (.error e) => throw (.returned e)
  | .error p => throw (.panicked p)

def exchange (data : Frame) : StateCall Frame := do
  let answer ← CallTree.perform (StateOp.exchange data)
  orReturn (.ok answer)

end StateCall

/-! ### The queries -/

/-- Zones and outputs are asked for in the long form. -/
def Category.request (category : Category) : Frame :=
  match category with
  | .partitions _ => [category.command]
  | .zones _ | .outputs => [category.command, 0x00]

/-- The functions for troubles: of any command, and of the command of one part. -/
inductive TroublesQuery where
  | frame (cmd : SatelCommand)
  | part1
  | memoryPart1
  | part2
  | memoryPart2
  | part3
  | memoryPart3
  | part4
  | memoryPart4
  | part5
  | memoryPart5
  | part6
  | memoryPart6
  | part7
  | memoryPart7
  | part8
  | memoryPart8
  deriving DecidableEq, Repr

namespace TroublesQuery

def cmd : TroublesQuery → SatelCommand
  | frame cmd => cmd
  | part1 => .troublesPart1
  | memoryPart1 => .troublesMemoryPart1
  | part2 => .troublesPart2
  | memoryPart2 => .troublesMemoryPart2
  | part3 => .troublesPart3
  | memoryPart3 => .troublesMemoryPart3
  | part4 => .troublesPart4
  | memoryPart4 => .troublesMemoryPart4
  | part5 => .troublesPart5
  | memoryPart5 => .troublesMemoryPart5
  | part6 => .troublesPart6
  | memoryPart6 => .troublesMemoryPart6
  | part7 => .troublesPart7
  | memoryPart7 => .troublesMemoryPart7
  | part8 => .troublesPart8
  | memoryPart8 => .troublesMemoryPart8

abbrev Data : TroublesQuery → Type
  | frame _ => TroublesData
  | part1 | memoryPart1 => TroublesPart1Data
  | part2 => TroublesPart2Data
  | memoryPart2 => TroublesMemoryPart2Data
  | part3 => TroublesPart3Data
  | memoryPart3 => TroublesMemoryPart3Data
  | part4 | memoryPart4 => TroublesPart4Data
  | part5 => TroublesPart5Data
  | memoryPart5 => TroublesMemoryPart5Data
  | part6 | memoryPart6 => TroublesPart6Data
  | part7 => TroublesPart7Data
  | memoryPart7 => TroublesMemoryPart7Data
  | part8 | memoryPart8 => TroublesPart8Data

/-- The returned structure among those of all commands. -/
def data : (query : TroublesQuery) → query.Data → TroublesData
  | frame _ => id
  | part1 | memoryPart1 => .part1
  | part2 => .part2
  | memoryPart2 => .memoryPart2
  | part3 => .part3
  | memoryPart3 => .memoryPart3
  | part4 | memoryPart4 => .part4
  | part5 => .part5
  | memoryPart5 => .memoryPart5
  | part6 | memoryPart6 => .part6
  | part7 => .part7
  | memoryPart7 => .memoryPart7
  | part8 | memoryPart8 => .part8

end TroublesQuery

namespace StateCall

/-- `get_*` with `emitAll` off and `refresh_*` with `emitAll` on, for one category. -/
def queryFlags (category : Category) (emitAll : Bool) : StateCall Unit := do
  let response ← exchange category.request
  let seen ← parseContext
  let result ← orReturn (category.process seen.config response seen.clock.now).run
  let _ ← underLock (.flags category result emitAll)
  return ()

def getSystemStatus : StateCall SystemStatus := do
  let response ← exchange [SatelCommand.rtcAndBasicStatusBits.toByte]
  let seen ← parseContext
  let status ← orReturn (processRtcAndStatus response seen.clock).run
  let _ ← underLock (.systemStatus status)
  return status

def getSatelTime : StateCall LocalTime := do
  let status ← getSystemStatus
  return status.rtc

def getIntegraVersion : StateCall IntegraVersion := do
  let response ← exchange [SatelCommand.integraVersion.toByte]
  let seen ← parseContext
  let version ← orReturn (processIntegraVersion response seen.clock.now).run
  let _ ← underLock (.integraVersion version)
  send (.integraVersionReceived version)
  return version

def getEthmVersion : StateCall EthmVersion := do
  let response ← exchange [SatelCommand.moduleVersion.toByte]
  let seen ← parseContext
  let version ← orReturn (processEthmVersion response seen.clock.now).run
  let _ ← underLock (.ethmVersion version)
  send (.ethmVersionReceived version)
  return version

/-- The functions for troubles differ in the command and in the typed parser. -/
def queryTroubles {α : Type} (cmd : SatelCommand) (process : LocalTime → Frame → Parsed α) :
    StateCall α := do
  let response ← exchange [cmd.toByte]
  let seen ← parseContext
  let parsed ← orReturn (process seen.clock.now response).run
  let data ← orReturn (Except.ok <$> sliceFrom response 1)
  let items ← orReturn (decodeTroubles cmd.toByte data).run
  let _ ← underLock (.troubles items)
  return parsed

def getTroubles (cmd : SatelCommand) : StateCall TroublesData :=
  queryTroubles cmd processTroublesFrame

def getZonesTamper : StateCall Unit := queryFlags (.zones .tamper) false
def getZonesAlarm : StateCall Unit := queryFlags (.zones .alarm) false
def getZonesViolation : StateCall Unit := queryFlags (.zones .violation) false
def getZonesTamperAlarm : StateCall Unit := queryFlags (.zones .tamperAlarm) false
def getZonesAlarmMemory : StateCall Unit := queryFlags (.zones .alarmMemory) false
def getZonesTamperAlarmMemory : StateCall Unit := queryFlags (.zones .tamperAlarmMemory) false
def getZonesBypass : StateCall Unit := queryFlags (.zones .bypass) false
def getZonesNoViolationTrouble : StateCall Unit := queryFlags (.zones .noViolationTrouble) false
def getZonesLongViolationTrouble : StateCall Unit := queryFlags (.zones .longViolationTrouble) false
def getPartitionsArmedSuppressed : StateCall Unit := queryFlags (.partitions .armedSuppressed) false
def getPartitionsArmedReally : StateCall Unit := queryFlags (.partitions .armedReally) false
def getPartitionsAlarm : StateCall Unit := queryFlags (.partitions .alarm) false
def getPartitionsAlarmMemory : StateCall Unit := queryFlags (.partitions .alarmMemory) false
def getOutputsState : StateCall Unit := queryFlags .outputs false

def refreshZonesTamper : StateCall Unit := queryFlags (.zones .tamper) true
def refreshZonesAlarm : StateCall Unit := queryFlags (.zones .alarm) true
def refreshZonesViolation : StateCall Unit := queryFlags (.zones .violation) true
def refreshZonesTamperAlarm : StateCall Unit := queryFlags (.zones .tamperAlarm) true
def refreshZonesAlarmMemory : StateCall Unit := queryFlags (.zones .alarmMemory) true
def refreshZonesTamperAlarmMemory : StateCall Unit := queryFlags (.zones .tamperAlarmMemory) true
def refreshZonesBypass : StateCall Unit := queryFlags (.zones .bypass) true
def refreshZonesNoViolationTrouble : StateCall Unit := queryFlags (.zones .noViolationTrouble) true
def refreshZonesLongViolationTrouble : StateCall Unit := queryFlags (.zones .longViolationTrouble) true
def refreshPartitionsArmedSuppressed : StateCall Unit := queryFlags (.partitions .armedSuppressed) true
def refreshPartitionsArmedReally : StateCall Unit := queryFlags (.partitions .armedReally) true
def refreshPartitionsAlarm : StateCall Unit := queryFlags (.partitions .alarm) true
def refreshPartitionsAlarmMemory : StateCall Unit := queryFlags (.partitions .alarmMemory) true
def refreshOutputsState : StateCall Unit := queryFlags .outputs true

/-- The three timers, each with a request of its own. -/
def queryPartitionsTimes (emitAll : Bool) : StateCall Unit := do
  queryFlags (.partitions .entryTime) emitAll
  queryFlags (.partitions .exitTimeGt10s) emitAll
  queryFlags (.partitions .exitTimeLt10s) emitAll

def getPartitionsTimes : StateCall Unit := queryPartitionsTimes false

def refreshPartitionsTimes : StateCall Unit := queryPartitionsTimes true

def getTroublesPart1 : StateCall TroublesPart1Data :=
  queryTroubles .troublesPart1 processTroublesPart1

def getTroublesMemoryPart1 : StateCall TroublesPart1Data :=
  queryTroubles .troublesMemoryPart1 processTroublesPart1

def getTroublesPart2 : StateCall TroublesPart2Data :=
  queryTroubles .troublesPart2 processTroublesPart2

def getTroublesMemoryPart2 : StateCall TroublesMemoryPart2Data :=
  queryTroubles .troublesMemoryPart2 processTroublesMemoryPart2

def getTroublesPart3 : StateCall TroublesPart3Data :=
  queryTroubles .troublesPart3 processTroublesPart3

def getTroublesMemoryPart3 : StateCall TroublesMemoryPart3Data :=
  queryTroubles .troublesMemoryPart3 processTroublesMemoryPart3

def getTroublesPart4 : StateCall TroublesPart4Data :=
  queryTroubles .troublesPart4 processTroublesPart4

def getTroublesMemoryPart4 : StateCall TroublesPart4Data :=
  queryTroubles .troublesMemoryPart4 processTroublesPart4

def getTroublesPart5 : StateCall TroublesPart5Data :=
  queryTroubles .troublesPart5 processTroublesPart5

def getTroublesMemoryPart5 : StateCall TroublesMemoryPart5Data :=
  queryTroubles .troublesMemoryPart5 processTroublesMemoryPart5

def getTroublesPart6 : StateCall TroublesPart6Data :=
  queryTroubles .troublesPart6 processTroublesPart6

def getTroublesMemoryPart6 : StateCall TroublesPart6Data :=
  queryTroubles .troublesMemoryPart6 processTroublesPart6

def getTroublesPart7 : StateCall TroublesPart7Data :=
  queryTroubles .troublesPart7 processTroublesPart7

def getTroublesMemoryPart7 : StateCall TroublesMemoryPart7Data :=
  queryTroubles .troublesMemoryPart7 processTroublesMemoryPart7

def getTroublesPart8 : StateCall TroublesPart8Data :=
  queryTroubles .troublesPart8 processTroublesPart8

def getTroublesMemoryPart8 : StateCall TroublesPart8Data :=
  queryTroubles .troublesMemoryPart8 processTroublesPart8

end StateCall

def TroublesQuery.call : (query : TroublesQuery) → StateCall query.Data
  | .frame cmd => StateCall.getTroubles cmd
  | .part1 => StateCall.getTroublesPart1
  | .memoryPart1 => StateCall.getTroublesMemoryPart1
  | .part2 => StateCall.getTroublesPart2
  | .memoryPart2 => StateCall.getTroublesMemoryPart2
  | .part3 => StateCall.getTroublesPart3
  | .memoryPart3 => StateCall.getTroublesMemoryPart3
  | .part4 => StateCall.getTroublesPart4
  | .memoryPart4 => StateCall.getTroublesMemoryPart4
  | .part5 => StateCall.getTroublesPart5
  | .memoryPart5 => StateCall.getTroublesMemoryPart5
  | .part6 => StateCall.getTroublesPart6
  | .memoryPart6 => StateCall.getTroublesMemoryPart6
  | .part7 => StateCall.getTroublesPart7
  | .memoryPart7 => StateCall.getTroublesMemoryPart7
  | .part8 => StateCall.getTroublesPart8
  | .memoryPart8 => StateCall.getTroublesMemoryPart8

/-- A query of the client that makes one request. -/
inductive StateQuery where
  | flags (category : Category) (emitAll : Bool)
  | systemStatus
  | integraVersion
  | ethmVersion
  | troubles (query : TroublesQuery)

namespace StateQuery

abbrev Value : StateQuery → Type
  | flags _ _ => Unit
  | systemStatus => SystemStatus
  | integraVersion => IntegraVersion
  | ethmVersion => EthmVersion
  | troubles query => query.Data

def call : (query : StateQuery) → StateCall query.Value
  | flags category emitAll => StateCall.queryFlags category emitAll
  | systemStatus => StateCall.getSystemStatus
  | integraVersion => StateCall.getIntegraVersion
  | ethmVersion => StateCall.getEthmVersion
  | troubles query => query.call

def command : StateQuery → UInt8
  | flags category _ => category.command
  | systemStatus => 0x1A
  | integraVersion => 0x7E
  | ethmVersion => 0x7C
  | troubles query => query.cmd.toByte

def request : StateQuery → Frame
  | flags category _ => category.request
  | query => [query.command]

end StateQuery

/-! ### Shapes of a run -/

namespace StateCall
variable {α β : Type} {trace : List (Performed StateOp StateOp.Answer)}

/-- Nothing follows a request without a reply; a reply is parsed. -/
lemma runs_exchange {data : Frame} {body : Frame → ParseContext → StateCall α}
    {r : Except Failure α} :
    CallTree.Runs (do
      let response ← exchange data
      let seen ← parseContext
      body response seen) trace r ↔
    (∃ e, trace = [⟨.exchange data, .error e⟩] ∧ r = .error (.returned e)) ∨
      ∃ reply seen later, CallTree.Runs (body reply seen) later r ∧
        trace = ⟨.exchange data, .ok reply⟩ :: ⟨.parseContext, seen⟩ :: later := by
  constructor
  · intro run
    obtain ⟨answer, later, rfl, rest⟩ := CallTree.runs_step.mp run
    cases answer with
    | error e =>
      obtain ⟨rfl, rfl⟩ := CallTree.runs_throw.mp rest
      exact .inl ⟨e, rfl, rfl⟩
    | ok reply =>
      obtain ⟨seen, later, rfl, parsing⟩ := CallTree.runs_step.mp rest
      exact .inr ⟨reply, seen, later, parsing, rfl⟩
  · rintro (⟨e, rfl, rfl⟩ | ⟨reply, seen, later, parsing, rfl⟩)
    · exact CallTree.runs_step.mpr ⟨.error e, [], rfl, .failed _⟩
    · exact CallTree.runs_step.mpr ⟨.ok reply, _, rfl, CallTree.runs_step.mpr ⟨seen, _, rfl, parsing⟩⟩

lemma runs_parsed {parsed : Parsed α} {a : α} (h : parsed = (.ok (.ok a) : Except Panic _))
    {rest : α → StateCall β} {r : Except Failure β} :
    CallTree.Runs (orReturn parsed.run >>= rest) trace r ↔ CallTree.Runs (rest a) trace r := by
  subst h
  exact Iff.rfl

lemma runs_rejected {parsed : Parsed α} {e : SatelError}
    (h : parsed = (.ok (.error e) : Except Panic _)) {rest : α → StateCall β}
    {r : Except Failure β} :
    CallTree.Runs (orReturn parsed.run >>= rest) trace r ↔
      trace = [] ∧ r = .error (.returned e) := by
  subst h
  exact CallTree.runs_throw

end StateCall

/-! ### Troubles in the cache -/

section Troubles
variable {cmd : UInt8} {data : Frame} {items : List TroubleItem}

/-- An entry of a decoded frame is in its map afterwards. -/
lemma TroubleMap.contents_of_mem {K V : Type} [DecidableEq K] [DecidableEq V]
    (map : TroubleMap K V) (decoded : decodeTroubles cmd data = (.ok (.ok items) : Except Panic _))
    {key : K} {value : V} (entry : (key, value) ∈ items.filterMap map.write)
    (emitUnchanged : Bool) (state : SatelState) :
    map.contents (updateTroubles emitUnchanged state items).1 key = some value := by
  have once : ((map.itemWrites emitUnchanged items).map Write.key).Nodup := by
    rw [TroubleMap.itemWrites, List.map_map]
    exact map.once decoded
  have written : ⟨key, value, emitUnchanged⟩ ∈ map.itemWrites emitUnchanged items :=
    List.mem_map.mpr ⟨_, entry, rfl⟩
  rw [(map.updateTroubles_writes emitUnchanged items state).1]
  exact final_of_mem once written _

/-- The returned structure and the three maps both have what the data has, apart from the reserved
bits, for which the structure has no fields. -/
structure TroublesShown (cmd : UInt8) (data : Frame) (parsed : TroublesData)
    (state : SatelState) : Prop where
  typed : parsed.ReadFrom cmd data
  flags : ∀ slot ∈ layout cmd, slot.trouble.isGeneric = false →
    state.troubleFlags slot.key = some (slot.raised data)
  levels : ∀ place ∈ levelLayout cmd, state.acuJamLevels place.1 = some (data.getD place.2 0)
  codes : ∀ place ∈ codeLayout cmd, state.cmeErrors place.1 = some (wordAt data place.2)

lemma troublesShown (decoded : decodeTroubles cmd data = (.ok (.ok items) : Except Panic _))
    {parsed : TroublesData} (typed : parsed.ReadFrom cmd data) (emitUnchanged : Bool)
    (state : SatelState) :
    TroublesShown cmd data parsed (updateTroubles emitUnchanged state items).1 := by
  have flags := flagsOf_decoded decoded
  obtain ⟨levels, codes⟩ := decodeTroubles_words decoded
  constructor
  · exact typed
  · intro slot hslot visible
    have entry : (slot.key, slot.raised data) ∈ flagsOf items := by
      rw [flags]
      refine Slot.mem_reported.mpr ⟨slot, hslot, rfl, rfl, ?_⟩
      rw [(layout_home slot hslot).2, visible]
      intro impossible
      cases impossible
    exact troubleFlagsMap.contents_of_mem decoded entry emitUnchanged state
  · intro place hplace
    have entry : (place.1, data.getD place.2 0) ∈ levelsOf items := by
      rw [levels]
      exact List.mem_map.mpr ⟨place, hplace, rfl⟩
    exact acuJamLevelsMap.contents_of_mem decoded entry emitUnchanged state
  · intro place hplace
    have entry : (place.1, wordAt data place.2) ∈ codesOf items := by
      rw [codes]
      exact List.mem_map.mpr ⟨place, hplace, rfl⟩
    exact cmeErrorsMap.contents_of_mem decoded entry emitUnchanged state

end Troubles

/-! ### What a query shall do -/

namespace StateQuery

/-- The panel also pushes these frames, and a push announces what a query would. -/
def Pushed : StateQuery → Prop
  | flags _ emitAll => emitAll = false
  | systemStatus => True
  | troubles query => (getRules query.cmd.toByte).isSome = true
  | integraVersion | ethmVersion => False

/-- The cache and the returned value both have what the reply has. -/
def Shown (config : Config) (reply : Frame) (state : SatelState) :
    (query : StateQuery) → query.Value → Prop
  | flags category _, _ => ∀ i value, i < category.capacity →
      category.shows config i reply = some value →
        ∃ cell, category.cell state i = some cell ∧ cell.value = value ∧ cell.readAt.isSome = true
  | systemStatus, status => state.systemStatus = some status
  | integraVersion, version => state.integraVersion = some version
  | ethmVersion, version => state.ethmVersion = some version
  | troubles query, parsed =>
    TroublesShown query.cmd.toByte reply.tail (query.data parsed) state

/-- Nothing else is written. -/
def Writes (before after : SatelState) : StateQuery → Prop
  | integraVersion => after = { before with integraVersion := after.integraVersion }
  | ethmVersion => after = { before with ethmVersion := after.ethmVersion }
  | query => WritesOnly query.command before after

/-- A refresh reports every entity the reply covers. -/
def Refreshes (config : Config) (reply : Frame) (events : List SatelEvent) : StateQuery → Prop
  | flags category true => reports category events =
      (List.range category.capacity).filterMap fun i =>
        (category.shows config i reply).map (Category.entityId i, ·)
  | _ => True

/-- A block that stores an accepted reply. The configuration may have changed since the reply was
parsed. -/
structure Stores (query : StateQuery) (seen : ParseContext) (reply : Frame) (value : query.Value)
    (update : StateUpdate) : Prop where
  likePush : query.Pushed → ∀ state,
    handleAutoFrame seen.config state reply seen.clock = .ok (update.apply seen.config state)
  shown : ∀ config state, Category.Numbered state →
    query.Shown seen.config reply (update.apply config state).1 value
  writes : ∀ config state, query.Writes state (update.apply config state).1
  refreshes : ∀ config state, Category.Numbered state →
    query.Refreshes seen.config reply (update.apply config state).2

/-- The events sent after the block. -/
def told : (query : StateQuery) → query.Value → List (Performed StateOp StateOp.Answer)
  | integraVersion, version => [⟨.send (.integraVersionReceived version), ()⟩]
  | ethmVersion, version => [⟨.send (.ethmVersionReceived version), ()⟩]
  | _, _ => []

/-- The run of a query. A reply to another command may only come from a worker that passes
on what it was not asked for. -/
inductive Answered (query : StateQuery) :
    List (Performed StateOp StateOp.Answer) → Except Failure query.Value → Prop where
  | unanswered (e : SatelError) :
      Answered query [⟨.exchange query.request, .error e⟩] (.error (.returned e))
  | refused (reply : Frame) (seen : ParseContext)
      (likePush : reply.head? = some query.command → query.Pushed → ∀ state,
        handleAutoFrame seen.config state reply seen.clock = .ok (state, [])) :
      Answered query [⟨.exchange query.request, .ok reply⟩, ⟨.parseContext, seen⟩]
        (.error (.returned .invalidFrame))
  | stored (reply : Frame) (seen : ParseContext) (value : query.Value) (update : StateUpdate)
      (left : SatelState)
      (stores : reply.head? = some query.command → query.Stores seen reply value update) :
      Answered query (⟨.exchange query.request, .ok reply⟩ :: ⟨.parseContext, seen⟩ ::
        ⟨.underLock update, left⟩ :: query.told value) (.ok value)

end StateQuery

/-! ### Flags -/

/-- What the routine of a category reports at an index. -/
def Category.reported (category : Category) (config : Config) (state : SatelState)
    (result : StatesData) (emitAll : Bool) (i : Nat) : Option Bool := do
  let cell ← category.cell state i
  let value ← result.states[i]?
  (observe (emitAll || category.emitUnchanged config) result.readAt cell value).2

lemma reports_update (category : Category) (config : Config) {state : SatelState}
    (h : Category.Numbered state) (result : StatesData) (emitAll : Bool) :
    reports category (category.update config state result emitAll).2 =
      (List.range category.capacity).filterMap fun i =>
        (category.reported config state result emitAll i).map (Category.entityId i, ·) := by
  rw [category.update_eq, updateFlags_events, h.length category, reports,
    List.filterMap_filterMap]
  refine List.filterMap_congr fun i hi => ?_
  obtain ⟨entity, found, hid, hcell⟩ := h.cell_isSome category (List.mem_range.mp hi)
  rw [Category.reported, found, hcell, Option.bind_some]
  cases result.states[i]? with
  | none => rfl
  | some value =>
    have sent : category.field.sent (emitAll || category.emitUnchanged config) result.readAt
        entity value = (observe (emitAll || category.emitUnchanged config) result.readAt
          (category.field.cell entity) value).2.map
            (category.field.event (Category.entityId i)) := by
      rw [FlagField.sent, hid]
    simp only [Option.bind_some, sent, Option.bind_eq_bind]
    cases (observe (emitAll || category.emitUnchanged config) result.readAt
      (category.field.cell entity) value).2 with
    | none => rfl
    | some reported => simp [category.event_report]

namespace StateQuery
variable {category : Category} {emitAll : Bool}

lemma flags_stores {seen : ParseContext} {reply : Frame}
    (accepted : category.accepts reply = true) :
    (flags category emitAll).Stores seen reply ()
      (.flags category { states := category.bits seen.config reply.tail
                         readAt := seen.clock.now } emitAll) := by
  have parsed := category.process_eq seen.config reply seen.clock.now
  rw [accepted, if_pos rfl] at parsed
  have bits {i : Nat} := @Category.bits_getElem? category seen.config reply accepted i
  constructor
  · intro once state
    have once : emitAll = false := once
    subst once
    cases reply with
    | nil => cases accepted
    | cons first data =>
      have own : first = category.command := by
        simp only [Category.accepts, Bool.and_eq_true, beq_iff_eq] at accepted
        exact accepted.1
      subst own
      exact (handleAutoFrame_category ..).trans (ifParsed_of_ok parsed)
  · intro config state numbered i value inside hshows
    obtain ⟨entity, -, -, hcell⟩ := numbered.cell_isSome category inside
    have after := category.update_cell config state
      ⟨category.bits seen.config reply.tail, seen.clock.now⟩ emitAll i
    rw [hcell, Option.map_some, bits inside, hshows] at after
    exact ⟨_, after, observe_value .., observe_read ..⟩
  · intro config state
    exact flags_writesOnly ..
  · intro config state numbered
    cases emitAll with
    | false => exact trivial
    | true =>
      refine (reports_update category config numbered _ true).trans ?_
      refine List.filterMap_congr fun i hi => ?_
      obtain ⟨entity, -, -, hcell⟩ := numbered.cell_isSome category (List.mem_range.mp hi)
      rw [Category.reported, hcell, Option.bind_eq_bind, Option.bind_some,
        bits (List.mem_range.mp hi)]
      cases category.shows seen.config i reply with
      | none => rfl
      | some value => simp [observe, due]

/-- The queries for flags. -/
lemma flags_answered {trace : List (Performed StateOp StateOp.Answer)} {r : Except Failure Unit}
    (run : CallTree.Runs (StateCall.queryFlags category emitAll) trace r) :
    (flags category emitAll).Answered trace r := by
  rcases StateCall.runs_exchange.mp run with
    ⟨e, rfl, rfl⟩ | ⟨reply, seen, later, parsing, rfl⟩
  · exact .unanswered e
  have parsed := category.process_eq seen.config reply seen.clock.now
  cases accepted : category.accepts reply with
  | false =>
    rw [accepted] at parsed
    obtain ⟨rfl, rfl⟩ := (StateCall.runs_rejected parsed).mp parsing
    refine .refused reply seen fun own _ state => ?_
    cases reply with
    | nil => cases own
    | cons first data =>
      cases own
      exact (handleAutoFrame_category ..).trans (ifParsed_of_error parsed)
  | true =>
    rw [accepted] at parsed
    obtain ⟨left, later, rfl, rest⟩ :=
      CallTree.runs_step.mp ((StateCall.runs_parsed parsed).mp parsing)
    obtain ⟨rfl, rfl⟩ := CallTree.runs_pure.mp rest
    exact @Answered.stored (flags category emitAll) reply seen () _ left
      fun _ => flags_stores accepted

end StateQuery

/-! ### Status and versions -/

namespace StateQuery
variable {trace : List (Performed StateOp StateOp.Answer)}

lemma systemStatus_stores {seen : ParseContext} {reply : Frame} {status : SystemStatus}
    (parsed : processRtcAndStatus reply seen.clock = (.ok (.ok status) : Except Panic _))
    (own : reply.head? = some 0x1A) :
    systemStatus.Stores seen reply status (.systemStatus status) := by
  constructor
  · intro _ state
    cases reply with
    | nil => cases own
    | cons first data =>
      cases own
      exact ifParsed_of_ok parsed
  · intro config state _
    by_cases same : state.systemStatus = some status
    · simp only [Shown, StateUpdate.apply, updateSystemStatusInternal]
      split
      · rfl
      · exact same
    · simp [Shown, StateUpdate.apply, updateSystemStatusInternal, same]
  · intro config state
    exact systemStatus_writesOnly config state status
  · intro config state _
    exact trivial

lemma systemStatus_answered {r : Except Failure SystemStatus}
    (run : CallTree.Runs StateCall.getSystemStatus trace r) : systemStatus.Answered trace r := by
  rcases StateCall.runs_exchange.mp run with
    ⟨e, rfl, rfl⟩ | ⟨reply, seen, later, parsing, rfl⟩
  · exact .unanswered e
  have parsed := processRtcAndStatus_eq reply seen.clock
  cases reading : SatelIntegra.systemStatus seen.clock reply with
  | error e =>
    rw [reading] at parsed
    obtain ⟨rfl, rfl⟩ := (StateCall.runs_rejected parsed).mp parsing
    have rejection : e = .invalidFrame := by
      unfold SatelIntegra.systemStatus at reading
      split at reading
      · split at reading <;> cases reading
        rfl
      · cases reading
        rfl
    subst rejection
    refine .refused reply seen fun own _ state => ?_
    cases reply with
    | nil => cases own
    | cons first data =>
      cases own
      exact ifParsed_of_error parsed
  | ok status =>
    rw [reading] at parsed
    obtain ⟨left, later, rfl, rest⟩ :=
      CallTree.runs_step.mp ((StateCall.runs_parsed parsed).mp parsing)
    obtain ⟨rfl, rfl⟩ := CallTree.runs_pure.mp rest
    exact @Answered.stored systemStatus reply seen status _ left (systemStatus_stores parsed)

lemma integraVersion_stores {seen : ParseContext} {reply : Frame} (version : IntegraVersion) :
    integraVersion.Stores seen reply version (.integraVersion version) :=
  ⟨False.elim, fun _ _ _ => rfl, fun _ _ => rfl, fun _ _ _ => trivial⟩

lemma ethmVersion_stores {seen : ParseContext} {reply : Frame} (version : EthmVersion) :
    ethmVersion.Stores seen reply version (.ethmVersion version) :=
  ⟨False.elim, fun _ _ _ => rfl, fun _ _ => rfl, fun _ _ _ => trivial⟩

lemma integraVersion_answered {r : Except Failure IntegraVersion}
    (run : CallTree.Runs StateCall.getIntegraVersion trace r) :
    integraVersion.Answered trace r := by
  rcases StateCall.runs_exchange.mp run with
    ⟨e, rfl, rfl⟩ | ⟨reply, seen, later, parsing, rfl⟩
  · exact .unanswered e
  rcases processIntegraVersion_eq reply seen.clock.now with ⟨version, parsed, -⟩ | ⟨parsed, -⟩
  · obtain ⟨left, later, rfl, sending⟩ :=
      CallTree.runs_step.mp ((StateCall.runs_parsed parsed).mp parsing)
    obtain ⟨⟨⟩, later, rfl, rest⟩ := CallTree.runs_step.mp sending
    obtain ⟨rfl, rfl⟩ := CallTree.runs_pure.mp rest
    exact @Answered.stored integraVersion reply seen version _ left
      fun _ => integraVersion_stores version
  · obtain ⟨rfl, rfl⟩ := (StateCall.runs_rejected parsed).mp parsing
    exact .refused reply seen fun _ pushed => pushed.elim

lemma ethmVersion_answered {r : Except Failure EthmVersion}
    (run : CallTree.Runs StateCall.getEthmVersion trace r) : ethmVersion.Answered trace r := by
  rcases StateCall.runs_exchange.mp run with
    ⟨e, rfl, rfl⟩ | ⟨reply, seen, later, parsing, rfl⟩
  · exact .unanswered e
  rcases processEthmVersion_eq reply seen.clock.now with ⟨version, parsed, -⟩ | ⟨parsed, -⟩
  · obtain ⟨left, later, rfl, sending⟩ :=
      CallTree.runs_step.mp ((StateCall.runs_parsed parsed).mp parsing)
    obtain ⟨⟨⟩, later, rfl, rest⟩ := CallTree.runs_step.mp sending
    obtain ⟨rfl, rfl⟩ := CallTree.runs_pure.mp rest
    exact @Answered.stored ethmVersion reply seen version _ left
      fun _ => ethmVersion_stores version
  · obtain ⟨rfl, rfl⟩ := (StateCall.runs_rejected parsed).mp parsing
    exact .refused reply seen fun _ pushed => pushed.elim

end StateQuery

/-! ### Troubles -/

/-- A typed parser for the frames of a command, beside the parser of all trouble frames. -/
structure TypedParser (cmd : SatelCommand) {α : Type} (process : LocalTime → Frame → Parsed α)
    (data : α → TroublesData) : Prop where
  total : ∀ now frame, (frame ≠ [] ∧ ∃ a, process now frame = (.ok (.ok a) : Except Panic _)) ∨
    process now frame = (.ok (.error .invalidFrame) : Except Panic _)
  dispatch : ∀ now bytes, processTroublesFrame now (cmd.toByte :: bytes) =
    data <$> process now (cmd.toByte :: bytes)

namespace TypedParser

lemma troublesPart_total {α : Type} {commands : List UInt8} {minLength : Nat}
    {read : UInt8 → Frame → Except Panic α}
    (reads : ∀ command data, minLength ≤ data.length → NoPanic (read command data))
    (frame : Frame) :
    (frame ≠ [] ∧ ∃ a, troublesPart commands minLength read frame =
        (.ok (.ok a) : Except Panic _)) ∨
      troublesPart commands minLength read frame = (.ok (.error .invalidFrame) : Except Panic _) := by
  rcases frame with _ | ⟨command, data⟩
  · exact .inr rfl
  by_cases short : data.length < minLength
  · exact .inr (troublesPart_short read command short)
  by_cases known : commands.contains command = true
  · obtain ⟨parsed, h⟩ := reads command data (Nat.not_lt.mp short)
    have accepted := troublesPart_long read known (Nat.not_lt.mp short)
    rw [h] at accepted
    exact .inl ⟨List.cons_ne_nil command data, parsed, accepted⟩
  · refine .inr ?_
    simp only [troublesPart, List.isEmpty_cons, Bool.false_eq_true, if_false, index_cons_zero,
      checked_ok_bind, known, Bool.not_false, if_true]
    rfl

/-- The parser of one part is `troublesPart` with a reader that has enough bytes. -/
lemma of_part {cmd : SatelCommand} {α : Type} {commands : List UInt8} {minLength : Nat}
    {read : LocalTime → UInt8 → Frame → Except Panic α} {data : α → TroublesData}
    (reads : ∀ now command bytes, minLength ≤ bytes.length → NoPanic (read now command bytes))
    (dispatch : ∀ now bytes, processTroublesFrame now (cmd.toByte :: bytes) =
      data <$> troublesPart commands minLength (read now) (cmd.toByte :: bytes)) :
    TypedParser cmd (fun now => troublesPart commands minLength (read now)) data :=
  ⟨fun now => troublesPart_total (reads now), dispatch⟩

lemma frame (cmd : SatelCommand) : TypedParser cmd processTroublesFrame id := by
  constructor
  · intro now frame
    rcases frame with _ | ⟨first, bytes⟩
    · exact .inr rfl
    cases known : getRules first with
    | none => exact .inr (getRules_none now known bytes)
    | some entry =>
      obtain ⟨minLength, rules⟩ := entry
      obtain ⟨reads, rejects⟩ := getRules_parses now known bytes
      by_cases long : minLength ≤ bytes.length
      · obtain ⟨parsed, h, -⟩ := reads long
        exact .inl ⟨List.cons_ne_nil first bytes, parsed, h⟩
      · exact .inr (rejects (Nat.not_le.mp long))
  · intro now bytes
    exact (id_map _).symm

section Agreement
variable {cmd : SatelCommand} {α : Type} {process : LocalTime → Frame → Parsed α}
  {data : α → TroublesData}

/-- Where the typed parser accepts a frame of its command, so does the other decoder, and where it
does not, neither does that. -/
lemma agrees (typed : TypedParser cmd process data) (now : LocalTime) (bytes : Frame) :
    (∃ a items, process now (cmd.toByte :: bytes) = (.ok (.ok a) : Except Panic _) ∧
        decodeTroubles cmd.toByte bytes = (.ok (.ok items) : Except Panic _) ∧
        (data a).ReadFrom cmd.toByte bytes) ∨
      (process now (cmd.toByte :: bytes) = (.ok (.error .invalidFrame) : Except Panic _) ∧
        decodeTroubles cmd.toByte bytes = (.ok (.error .invalidFrame) : Except Panic _)) := by
  have dispatch := typed.dispatch now bytes
  have accepts := decodeTroubles_flags cmd.toByte bytes
  unfold AcceptsTroubles at accepts
  have parsed : ∀ all, processTroublesFrame now (cmd.toByte :: bytes) =
      (.ok (.ok all) : Except Panic _) →
        ∃ a, process now (cmd.toByte :: bytes) = (.ok (.ok a) : Except Panic _) ∧ data a = all := by
    intro all h
    rcases typed.total now (cmd.toByte :: bytes) with ⟨-, a, ha⟩ | rejected
    · rw [ha, h] at dispatch
      cases dispatch
      exact ⟨a, ha, rfl⟩
    · rw [rejected, h] at dispatch
      cases dispatch
  have rejected : processTroublesFrame now (cmd.toByte :: bytes) =
      (.ok (.error .invalidFrame) : Except Panic _) →
        process now (cmd.toByte :: bytes) = (.ok (.error .invalidFrame) : Except Panic _) := by
    intro h
    rcases typed.total now (cmd.toByte :: bytes) with ⟨-, a, ha⟩ | rejected
    · rw [ha, h] at dispatch
      cases dispatch
    · exact rejected
  cases known : getRules cmd.toByte with
  | none =>
    rw [known] at accepts
    obtain ⟨⟨⟩, -⟩ | ⟨-, undecoded⟩ := accepts
    exact .inr ⟨rejected (getRules_none now known bytes), undecoded⟩
  | some entry =>
    obtain ⟨minLength, rules⟩ := entry
    obtain ⟨reads, rejects⟩ := getRules_parses now known bytes
    rw [known] at accepts
    rcases accepts with ⟨long, items, decoded, -⟩ | ⟨short, undecoded⟩
    · obtain ⟨all, h, readFrom⟩ := reads long
      obtain ⟨a, ha, rfl⟩ := parsed all h
      exact .inl ⟨a, items, ha, decoded, readFrom⟩
    · exact .inr ⟨rejected (rejects (Nat.not_le.mp short)), undecoded⟩

end Agreement
end TypedParser

/-- The dispatcher hands the frame of a trouble command to the routine for troubles. -/
lemma handleAutoFrame_troubles {cmd : SatelCommand} (known : (getRules cmd.toByte).isSome = true)
    (config : Config) (state : SatelState) (bytes : Frame) (clock : Clock) :
    handleAutoFrame config state (cmd.toByte :: bytes) clock =
      ifParsed state (updateTroublesInternal config state cmd bytes) id := by
  have arm : handleAutoFrame config state (cmd.toByte :: bytes) clock =
      handleAutoTroubles config state cmd.toByte (cmd.toByte :: bytes) := by
    cases cmd <;> first
      | rfl
      | cases known
  rw [arm, handleAutoTroubles, SatelCommand.fromByte_toByte]
  simp only [sliceFrom_cons_one, bind, Except.bind]

section Runs
variable {cmd : SatelCommand} {α : Type} {process : LocalTime → Frame → Parsed α}
  {data : α → TroublesData} {trace : List (Performed StateOp StateOp.Answer)}

/-- Both decoders read an accepted reply, and a reply to the command is accepted by both or by
neither. -/
lemma runs_queryTroubles (typed : TypedParser cmd process data) {r : Except Failure α}
    (run : CallTree.Runs (StateCall.queryTroubles cmd process) trace r) :
    (∃ e, trace = [⟨.exchange [cmd.toByte], .error e⟩] ∧ r = .error (.returned e)) ∨
      (∃ reply seen, trace = [⟨.exchange [cmd.toByte], .ok reply⟩, ⟨.parseContext, seen⟩] ∧
        r = .error (.returned .invalidFrame) ∧
        (reply.head? = some cmd.toByte →
          decodeTroubles cmd.toByte reply.tail = (.ok (.error .invalidFrame) : Except Panic _))) ∨
      ∃ reply seen a items left, trace = [⟨.exchange [cmd.toByte], .ok reply⟩, ⟨.parseContext, seen⟩,
          ⟨.underLock (.troubles items), left⟩] ∧ r = .ok a ∧
        decodeTroubles cmd.toByte reply.tail = (.ok (.ok items) : Except Panic _) ∧
        (reply.head? = some cmd.toByte → (data a).ReadFrom cmd.toByte reply.tail) := by
  rcases StateCall.runs_exchange.mp run with
    ⟨e, rfl, rfl⟩ | ⟨reply, seen, later, parsing, rfl⟩
  · exact .inl ⟨e, rfl, rfl⟩
  refine .inr ?_
  have own : reply.head? = some cmd.toByte → reply = cmd.toByte :: reply.tail := by
    intro h
    cases reply with
    | nil => cases h
    | cons first bytes =>
      cases h
      rfl
  rcases typed.total seen.clock.now reply with ⟨filled, a, parsed⟩ | rejected
  · replace parsing := (StateCall.runs_parsed parsed).mp parsing
    obtain ⟨first, bytes, rfl⟩ := List.exists_cons_of_ne_nil filled
    have sliced : sliceFrom (first :: bytes) 1 = .ok bytes := sliceFrom_cons_one first bytes
    rw [sliced] at parsing
    rcases decodeTroubles_flags cmd.toByte bytes with ⟨-, items, decoded, -⟩ | ⟨-, undecoded⟩
    · obtain ⟨left, later, rfl, rest⟩ :=
        CallTree.runs_step.mp ((StateCall.runs_parsed decoded).mp parsing)
      obtain ⟨rfl, rfl⟩ := CallTree.runs_pure.mp rest
      refine .inr ⟨first :: bytes, seen, a, items, left, rfl, rfl, decoded, fun h => ?_⟩
      cases h
      rcases typed.agrees seen.clock.now bytes with ⟨a', -, parsed', -, readFrom⟩ | ⟨rejected, -⟩
      · cases parsed.symm.trans parsed'
        exact readFrom
      · cases parsed.symm.trans rejected
    · obtain ⟨rfl, rfl⟩ := (StateCall.runs_rejected undecoded).mp parsing
      exact .inl ⟨first :: bytes, seen, rfl, rfl, fun _ => undecoded⟩
  · obtain ⟨rfl, rfl⟩ := (StateCall.runs_rejected rejected).mp parsing
    refine .inl ⟨reply, seen, rfl, rfl, fun h => ?_⟩
    rcases typed.agrees seen.clock.now reply.tail with ⟨a, -, parsed, -⟩ | ⟨-, undecoded⟩
    · rw [← own h] at parsed
      cases rejected.symm.trans parsed
    · exact undecoded

variable {items : List TroubleItem} {bytes : Frame}

lemma troubles_likePush (known : (getRules cmd.toByte).isSome = true)
    (decoded : decodeTroubles cmd.toByte bytes = (.ok (.ok items) : Except Panic _))
    (config : Config) (state : SatelState) (clock : Clock) :
    handleAutoFrame config state (cmd.toByte :: bytes) clock =
      .ok (updateTroubles config.emitUnchangedTroubles state items) := by
  rw [handleAutoFrame_troubles known]
  refine ifParsed_of_ok ?_
  rw [updateTroublesInternal, decoded]
  rfl

lemma troubles_refused (known : (getRules cmd.toByte).isSome = true)
    (undecoded : decodeTroubles cmd.toByte bytes =
      (.ok (.error .invalidFrame) : Except Panic _))
    (config : Config) (state : SatelState) (clock : Clock) :
    handleAutoFrame config state (cmd.toByte :: bytes) clock = .ok (state, []) := by
  rw [handleAutoFrame_troubles known]
  refine @ifParsed_of_error _ _ _ _ .invalidFrame ?_
  rw [updateTroublesInternal, undecoded]
  rfl

lemma troubles_writes (decoded : decodeTroubles cmd.toByte bytes =
    (.ok (.ok items) : Except Panic _)) (config : Config) (state : SatelState) :
    WritesOnly cmd.toByte state (updateTroubles config.emitUnchangedTroubles state items).1 := by
  have step := TroubleFrame.step_eq state ⟨config, cmd, bytes⟩
  rw [TroubleFrame.items, decoded] at step
  exact step ▸ troubles_writesOnly state ⟨config, cmd, bytes⟩

end Runs

namespace StateQuery
variable {trace : List (Performed StateOp StateOp.Answer)}

/-- Each function for troubles has its typed parser. -/
lemma call_troubles (query : TroublesQuery) :
    ∃ process, query.call = StateCall.queryTroubles query.cmd process ∧
      TypedParser query.cmd process query.data := by
  cases query with
  | frame cmd => exact ⟨_, rfl, .frame cmd⟩
  | part1 | memoryPart1 =>
    exact ⟨_, rfl, .of_part (fun now _ _ long =>
      Parser.noPanic_of_exists (readPart1_readFrom now _ long)) fun _ _ => rfl⟩
  | part2 =>
    exact ⟨_, rfl, .of_part (fun now _ _ long =>
      Parser.noPanic_of_exists (readPart2_readFrom now long)) fun _ _ => rfl⟩
  | memoryPart2 =>
    exact ⟨_, rfl, .of_part (fun now _ _ long =>
      Parser.noPanic_of_exists (readMemoryPart2_readFrom now long)) fun _ _ => rfl⟩
  | part3 =>
    exact ⟨_, rfl, .of_part (fun now _ _ long =>
      Parser.noPanic_of_exists (readPart3_readFrom now long)) fun _ _ => rfl⟩
  | memoryPart3 =>
    exact ⟨_, rfl, .of_part (fun now _ _ long =>
      Parser.noPanic_of_exists (readMemoryPart3_readFrom now long)) fun _ _ => rfl⟩
  | part4 | memoryPart4 =>
    exact ⟨_, rfl, .of_part (fun now _ _ long =>
      Parser.noPanic_of_exists (readPart4_readFrom now _ long)) fun _ _ => rfl⟩
  | part5 =>
    exact ⟨_, rfl, .of_part (fun now _ _ long =>
      Parser.noPanic_of_exists (readPart5_readFrom now long)) fun _ _ => rfl⟩
  | memoryPart5 =>
    exact ⟨_, rfl, .of_part (fun now _ _ long =>
      Parser.noPanic_of_exists (readMemoryPart5_readFrom now long)) fun _ _ => rfl⟩
  | part6 | memoryPart6 =>
    exact ⟨_, rfl, .of_part (fun now _ _ long =>
      Parser.noPanic_of_exists (readPart6_readFrom now _ long)) fun _ _ => rfl⟩
  | part7 =>
    exact ⟨_, rfl, .of_part (fun now _ _ long =>
      Parser.noPanic_of_exists (readPart7_readFrom now long)) fun _ _ => rfl⟩
  | memoryPart7 =>
    exact ⟨_, rfl, .of_part (fun now _ _ long =>
      Parser.noPanic_of_exists (readMemoryPart7_readFrom now long)) fun _ _ => rfl⟩
  | part8 | memoryPart8 =>
    exact ⟨_, rfl, .of_part (fun now _ _ long =>
      Parser.noPanic_of_exists (readPart8_readFrom now _ long)) fun _ _ => rfl⟩

lemma troubles_answered {query : TroublesQuery} {r : Except Failure query.Data}
    (run : CallTree.Runs query.call trace r) : (troubles query).Answered trace r := by
  obtain ⟨process, call, typed⟩ := call_troubles query
  rw [call] at run
  rcases runs_queryTroubles typed run with ⟨e, rfl, rfl⟩ |
    ⟨reply, seen, rfl, rfl, undecoded⟩ |
      ⟨reply, seen, all, items, left, rfl, rfl, decoded, readFrom⟩
  · exact .unanswered e
  · refine .refused reply seen fun own known state => ?_
    cases reply with
    | nil => cases own
    | cons first bytes =>
      cases own
      exact troubles_refused known (undecoded rfl) seen.config state seen.clock
  · refine @Answered.stored (troubles query) reply seen all _ left fun own => ?_
    cases reply with
    | nil => cases own
    | cons first bytes =>
      cases own
      constructor
      · intro known state
        exact troubles_likePush known decoded seen.config state seen.clock
      · intro config state _
        exact troublesShown decoded (readFrom rfl) _ state
      · intro config state
        exact troubles_writes decoded config state
      · intro config state _
        exact trivial

end StateQuery

/-- Queries for flags one after the other. The first that fails ends the row, and what was stored
before it stays. -/
inductive InTurn (emitAll : Bool) :
    List Category → List (Performed StateOp StateOp.Answer) → Except Failure Unit → Prop where
  | done : InTurn emitAll [] [] (.ok ())
  | fails {category : Category} {rest : List Category}
      {trace : List (Performed StateOp StateOp.Answer)} {e : Failure}
      (answered : (StateQuery.flags category emitAll).Answered trace (.error e)) :
      InTurn emitAll (category :: rest) trace (.error e)
  | goesOn {category : Category} {rest : List Category}
      {trace later : List (Performed StateOp StateOp.Answer)} {r : Except Failure Unit}
      (answered : (StateQuery.flags category emitAll).Answered trace (.ok ()))
      (others : InTurn emitAll rest later r) : InTurn emitAll (category :: rest) (trace ++ later) r

lemma InTurn.one {emitAll : Bool} {category : Category}
    {trace : List (Performed StateOp StateOp.Answer)} {r : Except Failure Unit}
    (run : CallTree.Runs (StateCall.queryFlags category emitAll) trace r) :
    InTurn emitAll [category] trace r := by
  have answered := StateQuery.flags_answered run
  cases r with
  | error e => exact .fails answered
  | ok a =>
    have row := InTurn.goesOn answered .done
    rwa [List.append_nil] at row

/-- A query for flags, then others. -/
lemma InTurn.of_runs {emitAll : Bool} {category : Category} {rest : List Category}
    {call : StateCall Unit} {trace : List (Performed StateOp StateOp.Answer)}
    {r : Except Failure Unit}
    (others : ∀ later r, CallTree.Runs call later r → InTurn emitAll rest later r)
    (run : CallTree.Runs (StateCall.queryFlags category emitAll >>= fun _ => call) trace r) :
    InTurn emitAll (category :: rest) trace r := by
  rcases CallTree.runs_bind.mp run with ⟨e, rfl, first⟩ | ⟨before, a, after, rfl, first, last⟩
  · exact .fails (StateQuery.flags_answered first)
  · exact .goesOn (StateQuery.flags_answered first) (others after r last)

/-- Whatever the panel answers, a query makes its one request and does not panic. A reply that it
refuses leaves the cache alone. A reply that it accepts is stored by one block, which shows in the
cache what the reply has and the caller gets, and writes nothing else; a refresh reports all it
covers. The queries that are `Pushed` do what a push of the same frame does, and refuse where a
push does nothing; the versions are never pushed, and a refresh writes more than a push. The three
queries for the partition times are made in turn. -/
theorem queries_like_pushes :
    (∀ (query : StateQuery) (trace : List (Performed StateOp StateOp.Answer))
      (r : Except Failure query.Value), CallTree.Runs query.call trace r →
        query.Answered trace r) ∧
    ∀ (emitAll : Bool) (trace : List (Performed StateOp StateOp.Answer))
      (r : Except Failure Unit), CallTree.Runs (StateCall.queryPartitionsTimes emitAll) trace r →
        InTurn emitAll [.partitions .entryTime, .partitions .exitTimeGt10s,
          .partitions .exitTimeLt10s] trace r := by
  constructor
  · intro query trace r run
    cases query with
    | flags category emitAll => exact StateQuery.flags_answered run
    | systemStatus => exact StateQuery.systemStatus_answered run
    | integraVersion => exact StateQuery.integraVersion_answered run
    | ethmVersion => exact StateQuery.ethmVersion_answered run
    | troubles query => exact StateQuery.troubles_answered run
  · intro emitAll trace r run
    refine InTurn.of_runs (fun later r run => InTurn.of_runs (fun later r run => ?_) run) run
    exact .one run

/-- A refresh of the partition alarms with an alarm in the first partition. -/
theorem queries_like_pushes_alarm :
    (StateQuery.flags (.partitions .alarm) true).Answered
      [⟨.exchange [0x13], .ok [0x13, 1, 0, 0, 0]⟩,
        ⟨.parseContext, ⟨{}, ⟨⟨0, Nat.zero_le _⟩, fun _ _ _ _ _ _ => none⟩⟩⟩,
        ⟨.underLock (.flags (.partitions .alarm)
          ⟨true :: List.replicate 31 false, ⟨0, Nat.zero_le _⟩⟩ true), .new 0⟩] (.ok ()) := by
  have parsed := Category.process_eq (.partitions .alarm) {} [0x13, 1, 0, 0, 0] ⟨0, Nat.zero_le _⟩
  have reading : Category.bits {} (.partitions .alarm) [1, 0, 0, 0] =
      true :: List.replicate 31 false := by decide
  rw [if_pos (by decide), List.tail_cons, reading] at parsed
  refine queries_like_pushes.1 (.flags (.partitions .alarm) true) _ _ ?_
  refine StateCall.runs_exchange.mpr (.inr ⟨_, _, _, ?_, rfl⟩)
  refine (StateCall.runs_parsed parsed).mpr ?_
  exact CallTree.runs_step.mpr ⟨.new 0, [], rfl, .done ()⟩

end SatelIntegra
