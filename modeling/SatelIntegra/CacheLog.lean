import SatelIntegra.AutoRequester

/-!
# The cache and the event log follow the frames

A frame that a category accepts shows one bit for each index its data reaches. The
bits shown so far at an index are its history; the cached flag is the last of
them, and the events sent are the first and every later change. The log of a
category therefore rebuilds its cached flags.
-/

namespace SatelIntegra

open CheckedAccess ObservedCell

abbrev FlagCell := Cell Bool LocalTime

namespace Category

/-! ### What the cache holds for a category -/

def zoneCell : ZoneFlag → Zone → FlagCell
  | .violation, z => ⟨z.violationState, z.violationReadAt⟩
  | .tamper, z => ⟨z.tamperState, z.tamperReadAt⟩
  | .alarm, z => ⟨z.alarmState, z.alarmReadAt⟩
  | .tamperAlarm, z => ⟨z.tamperAlarmState, z.tamperAlarmReadAt⟩
  | .alarmMemory, z => ⟨z.alarmMemoryState, z.alarmMemoryReadAt⟩
  | .tamperAlarmMemory, z => ⟨z.tamperAlarmMemoryState, z.tamperAlarmMemoryReadAt⟩
  | .bypass, z => ⟨z.bypassState, z.bypassReadAt⟩
  | .noViolationTrouble, z => ⟨z.noViolationTroubleState, z.noViolationTroubleReadAt⟩
  | .longViolationTrouble, z => ⟨z.longViolationTroubleState, z.longViolationTroubleReadAt⟩

def partitionCell : PartitionFlag → Partition → FlagCell
  | .armedSuppressed, p => ⟨p.armedSuppressed, p.armedSuppressedAt⟩
  | .armedReally, p => ⟨p.armedReally, p.armedReallyAt⟩
  | .alarm, p => ⟨p.alarm, p.alarmAt⟩
  | .alarmMemory, p => ⟨p.alarmMemory, p.alarmMemoryAt⟩
  | .entryTime, p => ⟨p.entryTime, p.entryTimeAt⟩
  | .exitTimeGt10s, p => ⟨p.exitTimeGt10s, p.exitTimeGt10sAt⟩
  | .exitTimeLt10s, p => ⟨p.exitTimeLt10s, p.exitTimeLt10sAt⟩

/-- The cached flag of the entity at an index, with its read time. -/
def cell : Category → SatelState → Nat → Option FlagCell
  | .zones flag, state, i => state.zones[i]?.map (zoneCell flag)
  | .partitions flag, state, i => state.partitions[i]?.map (partitionCell flag)
  | .outputs, state, i => state.outputs[i]?.map fun output => ⟨output.state, output.stateReadAt⟩

def capacity : Category → Nat
  | .zones _ => 256
  | .partitions _ => 32
  | .outputs => 256

/-! ### What a frame shows -/

def minLength : Category → Nat
  | .zones _ => 16
  | .partitions _ => 4
  | .outputs => 16

def invertList (config : Config) : Category → List UInt16
  | .zones .violation => config.ioViolationInvert
  | .zones .tamper => config.ioTamperInvert
  | .zones .alarm => config.ioAlarmInvert
  | .zones .tamperAlarm => config.ioTamperAlarmInvert
  | .zones .alarmMemory => config.ioAlarmMemoryInvert
  | .zones .tamperAlarmMemory => config.ioTamperAlarmMemoryInvert
  | .zones .bypass => config.ioBypassInvert
  | .zones .noViolationTrouble => config.ioNoViolationTroubleInvert
  | .zones .longViolationTrouble => config.ioLongViolationTroubleInvert
  | .partitions _ => []
  | .outputs => []

def emitUnchanged (config : Config) : Category → Bool
  | .zones _ => config.emitUnchangedZones
  | .partitions _ => config.emitUnchangedPartitions
  | .outputs => config.emitUnchangedOutputs

def accepts (category : Category) : Frame → Bool
  | [] => false
  | first :: data => first == category.command && category.minLength ≤ data.length

/-- The identifier of the entity at an index. -/
def entityId (i : Nat) : UInt16 := UInt16.ofNat (i + 1)

/-- The bit of an accepted frame at an index it covers. -/
def shows (category : Category) (config : Config) (i : Nat) (frame : Frame) : Option Bool :=
  if category.accepts frame ∧ i < category.capacity ∧ i < 8 * frame.tail.length then
    some (maskBit frame.tail i ^^ (category.invertList config).contains (entityId i))
  else none

end Category

/-! ### Runs -/

/-- One application of a frame: unsolicited, or the reply to a query. -/
inductive Application where
  | auto (frame : Frame)
  | get (category : Category) (frame : Frame)
  | refresh (category : Category) (frame : Frame)

namespace Application

def emitAll : Application → Bool
  | .refresh .. => true
  | _ => false

def apply (config : Config) (clock : Clock) (state : SatelState) :
    Application → Except Panic Updated
  | .auto frame => handleAutoFrame config state frame clock
  | .get category frame =>
    ifParsed state (category.applyReply false config state frame clock.now) id
  | .refresh category frame =>
    ifParsed state (category.applyReply true config state frame clock.now) id

def frame : Application → Frame
  | .auto frame => frame
  | .get _ frame => frame
  | .refresh _ frame => frame

/-- The category whose parser gets the frame. -/
def target : Application → Option Category
  | .auto frame => frame.head?.bind Category.ofCommand
  | .get category _ => some category
  | .refresh category _ => some category

/-- What the application shows of a category at an index. -/
def shows (application : Application) (category : Category) (config : Config) (i : Nat) :
    Option Bool :=
  if application.target = some category then category.shows config i application.frame else none

end Application

/-- Frames applied one after another, each at its own time. -/
def applyAll (config : Config) : SatelState → List (Application × Clock) → Except Panic Updated
  | state, [] => .ok (state, [])
  | state, (application, clock) :: rest => do
    let (state₁, events) ← application.apply config clock state
    let (state₂, events') ← applyAll config state₁ rest
    return (state₂, events ++ events')

/-- The bits shown so far at an index of a category. -/
def history (config : Config) (category : Category) (i : Nat)
    (run : List (Application × Clock)) : List Bool :=
  run.filterMap fun step => step.1.shows category config i

/-- The reports of a log on one category: identifier and value, in order. -/
def reports (category : Category) (log : List SatelEvent) : List (UInt16 × Bool) :=
  log.filterMap fun event =>
    match event.report with
    | some (category', report) => if category' = category then some report else none
    | none => none

/-- Folding the reports rebuilds a flag for every identifier. -/
def replay (category : Category) (log : List SatelEvent) : UInt16 → Bool :=
  (reports category log).foldl (fun flags report => Function.update flags report.1 report.2)
    fun _ => false

def valuesOf (id : UInt16) (reports : List (UInt16 × Bool)) : List Bool :=
  reports.filterMap fun report => if report.1 = id then some report.2 else none

/-- The report a step owes for an index, given the run before it. -/
def owed (config : Config) (category : Category) (past : List (Application × Clock))
    (step : Application) (i : Nat) : Option (UInt16 × Bool) :=
  match step.shows category config i with
  | none => none
  | some value =>
    let earlier := history config category i past
    if step.emitAll || category.emitUnchanged config || earlier.isEmpty
        || earlier.getLastD false != value then
      some (Category.entityId i, value)
    else none

/-! ### One pass of an update routine -/

namespace FlagField
variable {E : Type} (field : FlagField E)

def cell (entity : E) : FlagCell := ⟨field.state entity, field.readAt entity⟩

/-- The body of the update loop. -/
def step (emit : Bool) (time : LocalTime) (entity : E) (value : Bool) : E :=
  if due emit (field.cell entity) value then field.write entity value time else entity

lemma cell_step (emit : Bool) (time : LocalTime) (entity : E) (value : Bool) :
    field.cell (field.step emit time entity value) =
      (observe emit time (field.cell entity) value).1 := by
  cases h : due emit (field.cell entity) value with
  | true => rw [step, if_pos h, observe_of_due h, cell, field.state_write, field.readAt_write]
  | false => simp [step, observe, h]

/-- What the loop sends for one entity. -/
def sent (emit : Bool) (time : LocalTime) (entity : E) (value : Bool) : Option SatelEvent :=
  (observe emit time (field.cell entity) value).2.map (field.event (field.id entity))

end FlagField

section Loop
variable {E : Type} (field : FlagField E) (emit : Bool) (time : LocalTime)

lemma updateFlags_cons (value : Bool) (states : List Bool) (entity : E) (entities : List E) :
    updateFlags field emit time (value :: states) (entity :: entities) =
      (field.step emit time entity value :: (updateFlags field emit time states entities).1,
        (field.sent emit time entity value).toList ++
          (updateFlags field emit time states entities).2) := by
  have hdue : (emit || (field.readAt entity).isNone || field.state entity != value) =
      due emit (field.cell entity) value := rfl
  cases h : due emit (field.cell entity) value with
  | true => simp [updateFlags, hdue, h, FlagField.step, FlagField.sent, observe]
  | false => simp [updateFlags, hdue, h, FlagField.step, FlagField.sent, observe]

/-- The loop keeps whatever writing the flag keeps. -/
lemma updateFlags_map {γ : Type} {g : E → γ}
    (kept : ∀ entity value t, g (field.write entity value t) = g entity) (states : List Bool)
    (entities : List E) :
    (updateFlags field emit time states entities).1.map g = entities.map g := by
  induction states generalizing entities with
  | nil => cases entities <;> rfl
  | cons value states ih =>
    cases entities with
    | nil => rfl
    | cons entity entities =>
      have head : g (field.step emit time entity value) = g entity := by
        unfold FlagField.step
        split
        · exact kept entity value time
        · rfl
      rw [updateFlags_cons, List.map_cons, List.map_cons, ih, head]

lemma updateFlags_getElem? (states : List Bool) (entities : List E) (i : Nat) :
    (updateFlags field emit time states entities).1[i]? = entities[i]?.map fun entity =>
      (states[i]?).elim entity (field.step emit time entity) := by
  induction states generalizing entities i with
  | nil => cases entities <;> simp [updateFlags]
  | cons value states ih =>
    cases entities with
    | nil => simp [updateFlags]
    | cons entity entities =>
      rw [updateFlags_cons]
      cases i with
      | zero => simp
      | succ i => simpa using ih entities i

lemma updateFlags_events (states : List Bool) (entities : List E) :
    (updateFlags field emit time states entities).2 =
      (List.range entities.length).filterMap fun i =>
        (entities[i]?).bind fun entity => (states[i]?).bind (field.sent emit time entity) := by
  induction states generalizing entities with
  | nil => cases entities <;> simp [updateFlags]
  | cons value states ih =>
    cases entities with
    | nil => rfl
    | cons entity entities =>
      rw [updateFlags_cons, List.length_cons, List.range_succ_eq_map, List.filterMap_cons,
        List.filterMap_map, ih]
      cases h : field.sent emit time entity value with
      | none => simp [h]
      | some event => simp [h]

end Loop

/-! ### The entities of a category -/

namespace Category

def Entity : Category → Type
  | .zones _ => Zone
  | .partitions _ => Partition
  | .outputs => Output

def entities : (category : Category) → SatelState → List category.Entity
  | .zones _, state => state.zones
  | .partitions _, state => state.partitions
  | .outputs, state => state.outputs

def withEntities : (category : Category) → SatelState → List category.Entity → SatelState
  | .zones _, state, es => { state with zones := es }
  | .partitions _, state, es => { state with partitions := es }
  | .outputs, state, es => { state with outputs := es }

def field : (category : Category) → FlagField category.Entity
  | .zones .violation => zoneViolation
  | .zones .tamper => zoneTamper
  | .zones .alarm => zoneAlarm
  | .zones .tamperAlarm => zoneTamperAlarm
  | .zones .alarmMemory => zoneAlarmMemory
  | .zones .tamperAlarmMemory => zoneTamperAlarmMemory
  | .zones .bypass => zoneBypass
  | .zones .noViolationTrouble => zoneNoViolationTrouble
  | .zones .longViolationTrouble => zoneLongViolationTrouble
  | .partitions .armedSuppressed => partitionArmed
  | .partitions .armedReally => partitionArmedReally
  | .partitions .alarm => partitionAlarm
  | .partitions .alarmMemory => partitionAlarmMemory
  | .partitions .entryTime => partitionEntryTime
  | .partitions .exitTimeGt10s => partitionExitTimeGt10s
  | .partitions .exitTimeLt10s => partitionExitTimeLt10s
  | .outputs => outputState

lemma cell_eq (category : Category) (state : SatelState) (i : Nat) :
    category.cell state i = ((category.entities state)[i]?).map category.field.cell := by
  rcases category with flag | flag | _
  · cases flag <;> rfl
  · cases flag <;> rfl
  · rfl

lemma update_eq (category : Category) (config : Config) (state : SatelState) (result : StatesData)
    (emitAll : Bool) :
    category.update config state result emitAll =
      let updated := updateFlags category.field (emitAll || category.emitUnchanged config)
        result.readAt result.states (category.entities state)
      (category.withEntities state updated.1, updated.2) := by
  rcases category with flag | flag | _
  · cases flag <;> rfl
  · cases flag <;> rfl
  · rfl

lemma event_report (category : Category) (id : UInt16) (value : Bool) :
    (category.field.event id value).report = some (category, id, value) := by
  rcases category with flag | flag | _
  · cases flag <;> rfl
  · cases flag <;> rfl
  · rfl

lemma entities_withEntities (category : Category) (state : SatelState)
    (entities : List category.Entity) :
    category.entities (category.withEntities state entities) = entities := by
  cases category <;> rfl

lemma zoneCell_write {flag flag' : ZoneFlag} (h : flag' ≠ flag) (zone : Zone) (value : Bool)
    (time : LocalTime) :
    zoneCell flag' ((field (.zones flag)).write zone value time) = zoneCell flag' zone := by
  cases flag <;> cases flag' <;> first | rfl | exact absurd rfl h

lemma partitionCell_write {flag flag' : PartitionFlag} (h : flag' ≠ flag) (partition : Partition)
    (value : Bool) (time : LocalTime) :
    partitionCell flag' ((field (.partitions flag)).write partition value time) =
      partitionCell flag' partition := by
  cases flag <;> cases flag' <;> first | rfl | exact absurd rfl h

/-- The identifiers of the entities of every category are their positions, from 1 on. -/
structure Numbered (state : SatelState) : Prop where
  zones : state.zones.map Zone.id = (List.range 256).map entityId
  partitions : state.partitions.map Partition.id = (List.range 32).map entityId
  outputs : state.outputs.map Output.id = (List.range 256).map entityId

lemma numbered_new (now : Instant) : Numbered (SatelState.new now) := by
  constructor <;> simp [SatelState.new, entityId, Function.comp_def]

lemma Numbered.ids {state : SatelState} (h : Numbered state) (category : Category) :
    (category.entities state).map category.field.id =
      (List.range category.capacity).map entityId := by
  rcases category with flag | flag | _
  · cases flag <;> exact h.zones
  · cases flag <;> exact h.partitions
  · exact h.outputs

lemma Numbered.length {state : SatelState} (h : Numbered state) (category : Category) :
    (category.entities state).length = category.capacity := by
  have := congrArg List.length (h.ids category)
  simpa using this

lemma Numbered.id_eq {state : SatelState} (h : Numbered state) (category : Category) {i : Nat}
    {entity : category.Entity} (hi : (category.entities state)[i]? = some entity) :
    category.field.id entity = entityId i := by
  have at_i := congrArg (fun ids => ids[i]?) (h.ids category)
  have inside : i < category.capacity := by
    rw [← h.length category]
    exact (List.getElem?_eq_some_iff.mp hi).1
  simpa [hi, inside] using at_i

lemma Numbered.quiet {state : SatelState} {updated : Updated} (h : Numbered state)
    (quiet : Quiet state updated) : Numbered updated.1 :=
  ⟨by rw [quiet.zones, h.zones], by rw [quiet.partitions, h.partitions],
    by rw [quiet.outputs, h.outputs]⟩

lemma cell_quiet {state : SatelState} {updated : Updated} (quiet : Quiet state updated)
    (category : Category) (i : Nat) : category.cell updated.1 i = category.cell state i := by
  cases category with
  | zones flag => rw [cell, cell, quiet.zones]
  | partitions flag => rw [cell, cell, quiet.partitions]
  | outputs => rw [cell, cell, quiet.outputs]

section Update
variable (category : Category) (config : Config) (state : SatelState) (result : StatesData)
  (emitAll : Bool)

lemma Numbered.update {state : SatelState} (h : Numbered state) :
    Numbered (category.update config state result emitAll).1 := by
  rw [update_eq]
  have ids := (updateFlags_map category.field (emitAll || category.emitUnchanged config)
    result.readAt category.field.id_write result.states (category.entities state)).trans
      (h.ids category)
  rcases category with flag | flag | _
  · exact ⟨by cases flag <;> exact ids, h.partitions, h.outputs⟩
  · exact ⟨h.zones, by cases flag <;> exact ids, h.outputs⟩
  · exact ⟨h.zones, h.partitions, ids⟩

/-- The routine of a category observes the flags of the frame. -/
lemma update_cell (i : Nat) :
    category.cell (category.update config state result emitAll).1 i =
      (category.cell state i).map fun cell => (result.states[i]?).elim cell fun value =>
        (observe (emitAll || category.emitUnchanged config) result.readAt cell value).1 := by
  rw [cell_eq, cell_eq, update_eq, entities_withEntities, updateFlags_getElem?, Option.map_map,
    Option.map_map]
  congr 1
  funext entity
  cases h : result.states[i]? with
  | none => simp
  | some value => simp [FlagField.cell_step]

/-- It writes no flag of another category. -/
lemma update_other {category' : Category} (h : category' ≠ category) (i : Nat) :
    category'.cell (category.update config state result emitAll).1 i =
      category'.cell state i := by
  rw [update_eq]
  have at_i {E γ : Type} {xs ys : List E} {g : E → γ} (heq : xs.map g = ys.map g) :
      (xs[i]?).map g = (ys[i]?).map g := by
    simpa using congrArg (fun l => l[i]?) heq
  cases category with
  | zones flag =>
    cases category' with
    | zones flag' =>
      have kept := zoneCell_write fun heq : flag' = flag => h (congrArg zones heq)
      exact at_i (updateFlags_map _ _ _ kept result.states state.zones)
    | partitions flag' => rfl
    | outputs => rfl
  | partitions flag =>
    cases category' with
    | zones flag' => rfl
    | partitions flag' =>
      have kept := partitionCell_write fun heq : flag' = flag => h (congrArg partitions heq)
      exact at_i (updateFlags_map _ _ _ kept result.states state.partitions)
    | outputs => rfl
  | outputs =>
    cases category' with
    | zones flag' => rfl
    | partitions flag' => rfl
    | outputs => exact absurd rfl h

end Update

/-! ### What a parser makes of a frame -/

def bits (config : Config) : Category → Frame → List Bool
  | .zones flag, data => parseBitStates data ((zones flag).invertList config)
  | .partitions _, data => parsePartitionBits data
  | .outputs, data => parseOutputBits data

lemma process_eq (category : Category) (config : Config) (frame : Frame) (now : LocalTime) :
    category.process config frame now =
      (.ok (if category.accepts frame then
        .ok { states := category.bits config frame.tail, readAt := now }
      else .error .invalidFrame) : Except Panic _) := by
  have reading : category.process config frame now =
      (.ok (maskReading category.command category.minLength (category.bits config) now frame) :
        Except Panic _) := by
    rcases category with flag | flag | _
    · cases flag <;> exact processMask_eq ..
    · cases flag <;> exact processMask_eq ..
    · exact processMask_eq ..
  rw [reading]
  cases frame with
  | nil => rfl
  | cons first data => simp [maskReading, accepts]

lemma maskBit_take {data : Frame} {n i : Nat} (h : i < 8 * n) :
    maskBit (data.take n) i = maskBit data i := by
  have inside : i / 8 < n := by omega
  simp [maskBit, inside]

/-- At the indices of the cache, the parsed flags are what the frame shows. -/
lemma bits_getElem? (category : Category) (config : Config) {frame : Frame}
    (accepted : category.accepts frame = true) {i : Nat} (hi : i < category.capacity) :
    (category.bits config frame.tail)[i]? = category.shows config i frame := by
  unfold shows
  by_cases inside : i < 8 * frame.tail.length
  · rw [if_pos ⟨accepted, hi, inside⟩]
    cases category with
    | zones flag =>
      rw [bits, parseBitStates_eq, List.getElem?_map, List.getElem?_range inside]
      rfl
    | partitions flag =>
      have first_four : i < 8 * (frame.tail.take 4).length := by
        rw [List.length_take]
        have : i < 32 := hi
        omega
      rw [bits, parsePartitionBits, flatMap_byteBits, List.getElem?_map,
        List.getElem?_range first_four, Option.map_some, maskBit_take hi]
      simp [invertList]
    | outputs =>
      rw [bits, parseOutputBits, flatMap_byteBits, List.getElem?_map, List.getElem?_range inside]
      simp [invertList]
  · rw [if_neg fun h => inside h.2.2]
    apply List.getElem?_eq_none
    cases category with
    | zones flag => simpa [bits, parseBitStates_eq] using inside
    | partitions flag =>
      simp only [bits, parsePartitionBits, flatMap_byteBits, List.length_map, List.length_range,
        List.length_take]
      omega
    | outputs => simpa [bits, parseOutputBits, flatMap_byteBits] using inside

end Category

/-! ### One application -/

/-- The pass of a category's routine over a frame, or nothing if the frame is rejected. -/
def Category.pass (category : Category) (config : Config) (emitAll : Bool) (now : LocalTime)
    (frame : Frame) (state : SatelState) : Updated :=
  if category.accepts frame then
    category.update config state { states := category.bits config frame.tail, readAt := now } emitAll
  else (state, [])

lemma ifParsed_process (category : Category) (config : Config) (emitAll : Bool) (now : LocalTime)
    (frame : Frame) (state : SatelState) :
    ifParsed state (category.process config frame now)
      (fun d => category.update config state d emitAll) =
        .ok (category.pass config emitAll now frame state) := by
  have parsed := category.process_eq config frame now
  unfold Category.pass
  cases h : category.accepts frame with
  | true => exact ifParsed_of_ok (by rw [parsed, h]; rfl)
  | false => exact ifParsed_of_error (by rw [parsed, h]; rfl)

lemma ifParsed_applyReply (category : Category) (config : Config) (emitAll : Bool)
    (now : LocalTime) (frame : Frame) (state : SatelState) :
    ifParsed state (category.applyReply emitAll config state frame now) id =
      .ok (category.pass config emitAll now frame state) := by
  have parsed := category.process_eq config frame now
  unfold Category.pass
  cases h : category.accepts frame with
  | true => exact ifParsed_of_ok (by rw [Category.applyReply, parsed, h]; rfl)
  | false => exact ifParsed_of_error (by rw [Category.applyReply, parsed, h]; rfl)

section Pass
variable (category : Category) (config : Config) (emitAll : Bool) (now : LocalTime) (frame : Frame)
  (state : SatelState)

/-- One index of a pass. -/
def Category.passCell (i : Nat) (cell : FlagCell) : FlagCell × Option Bool :=
  match category.shows config i frame with
  | none => (cell, none)
  | some value => observe (emitAll || category.emitUnchanged config) now cell value

lemma pass_cell {i : Nat} (hi : i < category.capacity) :
    category.cell (category.pass config emitAll now frame state).1 i =
      (category.cell state i).map fun cell =>
        (category.passCell config emitAll now frame i cell).1 := by
  unfold Category.pass
  cases accepted : category.accepts frame with
  | true =>
    rw [if_pos rfl, category.update_cell]
    simp only [category.bits_getElem? config accepted hi, Category.passCell]
    cases category.shows config i frame <;> rfl
  | false => simp [Category.passCell, Category.shows, accepted]

lemma pass_other {category' : Category} (h : category' ≠ category) (i : Nat) :
    category'.cell (category.pass config emitAll now frame state).1 i =
      category'.cell state i := by
  unfold Category.pass
  split
  · exact category.update_other config state _ emitAll h i
  · rfl

lemma pass_numbered {state : SatelState} (h : Category.Numbered state) :
    Category.Numbered (category.pass config emitAll now frame state).1 := by
  unfold Category.pass
  split
  · exact Category.Numbered.update category config _ emitAll h
  · exact h

lemma Category.Numbered.cell_isSome {state : SatelState} (h : Category.Numbered state)
    (category : Category) {i : Nat} (hi : i < category.capacity) :
    ∃ entity, (category.entities state)[i]? = some entity ∧ category.field.id entity =
      Category.entityId i ∧ category.cell state i = some (category.field.cell entity) := by
  have inside : i < (category.entities state).length := by rwa [h.length category]
  have found := List.getElem?_eq_getElem inside
  refine ⟨(category.entities state)[i], found, h.id_eq category found, ?_⟩
  rw [Category.cell_eq, found, Option.map_some]

lemma reports_pass {state : SatelState} (h : Category.Numbered state) :
    reports category (category.pass config emitAll now frame state).2 =
      (List.range category.capacity).filterMap fun i => (category.cell state i).bind fun cell =>
        (category.passCell config emitAll now frame i cell).2.map (Category.entityId i, ·) := by
  unfold Category.pass
  cases accepted : category.accepts frame with
  | false =>
    refine (List.filterMap_eq_nil_iff.mpr ?_).symm
    intro i _
    cases category.cell state i <;> simp [Category.passCell, Category.shows, accepted]
  | true =>
    rw [if_pos rfl, category.update_eq, updateFlags_events, h.length category, reports,
      List.filterMap_filterMap]
    refine List.filterMap_congr fun i hi => ?_
    have inside := List.mem_range.mp hi
    obtain ⟨entity, found, hid, hcell⟩ := h.cell_isSome category inside
    have hshow := category.bits_getElem? config accepted inside
    rw [found, hcell, Option.bind_some, hshow, Option.bind_some, Category.passCell]
    cases category.shows config i frame with
    | none => rfl
    | some value =>
      rw [Option.bind_some, FlagField.sent, hid]
      cases (observe (emitAll || category.emitUnchanged config) now
        (category.field.cell entity) value).2 with
      | none => rfl
      | some reported => simp [category.event_report]

lemma reports_pass_other {category' : Category} (h : category' ≠ category) :
    reports category' (category.pass config emitAll now frame state).2 = [] := by
  unfold Category.pass
  split
  · rw [category.update_eq, updateFlags_events, reports, List.filterMap_filterMap,
      List.filterMap_eq_nil_iff]
    intro i _
    rw [Option.bind_eq_none_iff]
    intro event hevent
    obtain ⟨entity, -, hsent⟩ := Option.bind_eq_some_iff.mp hevent
    obtain ⟨value, -, hsent⟩ := Option.bind_eq_some_iff.mp hsent
    obtain ⟨reported, -, rfl⟩ := Option.map_eq_some_iff.mp hsent
    rw [category.event_report]
    exact if_neg h.symm
  · rfl

end Pass

/-- An application is a pass for its category, or leaves all seventeen alone. -/
lemma Application.apply_cases (application : Application) (config : Config) (clock : Clock)
    (state : SatelState) :
    (∃ category, application.target = some category ∧
        application.apply config clock state = .ok (category.pass config application.emitAll
          clock.now application.frame state)) ∨
      (application.target = none ∧ ∃ updated,
        application.apply config clock state = .ok updated ∧ Quiet state updated) := by
  cases application with
  | get category frame => exact .inl ⟨category, rfl, ifParsed_applyReply ..⟩
  | refresh category frame => exact .inl ⟨category, rfl, ifParsed_applyReply ..⟩
  | auto frame =>
    cases frame with
    | nil => exact .inr ⟨rfl, _, rfl, Quiet.refl state⟩
    | cons first data =>
      cases hc : Category.ofCommand first with
      | none => exact .inr ⟨hc, handleAutoFrame_other config state hc data clock⟩
      | some category =>
        refine .inl ⟨category, hc, ?_⟩
        cases Category.ofCommand_eq_some.mp hc
        exact (handleAutoFrame_category ..).trans (ifParsed_process ..)

/-! ### The invariant of a run -/

/-- Every cell follows what was shown at its index, as its reports do. -/
structure Tracks (config : Config) (run : List (Application × Clock)) (state : SatelState)
    (log : List SatelEvent) : Prop where
  numbered : Category.Numbered state
  follows : ∀ (category : Category) (i : Nat), i < category.capacity →
    ∃ cell, category.cell state i = some cell ∧ Follows false cell (history config category i run)
      (valuesOf (Category.entityId i) (reports category log))

lemma cell_new (start : Instant) (category : Category) {i : Nat} (hi : i < category.capacity) :
    category.cell (SatelState.new start) i = some ⟨false, none⟩ := by
  rcases category with flag | flag | _
  · have inside : i < 256 := hi
    cases flag <;> simp [Category.cell, SatelState.new, Category.zoneCell, inside]
  · have inside : i < 32 := hi
    cases flag <;> simp [Category.cell, SatelState.new, Category.partitionCell, inside]
  · have inside : i < 256 := hi
    simp [Category.cell, SatelState.new, inside]

lemma tracks_nil (config : Config) (start : Instant) :
    Tracks config [] (SatelState.new start) [] :=
  ⟨Category.numbered_new start, fun category _ hi =>
    ⟨⟨false, none⟩, cell_new start category hi, follows_nil false⟩⟩

lemma reports_append (category : Category) (log log' : List SatelEvent) :
    reports category (log ++ log') = reports category log ++ reports category log' :=
  List.filterMap_append

lemma valuesOf_append (id : UInt16) (rs rs' : List (UInt16 × Bool)) :
    valuesOf id (rs ++ rs') = valuesOf id rs ++ valuesOf id rs' :=
  List.filterMap_append

lemma history_snoc (config : Config) (category : Category) (i : Nat)
    (run : List (Application × Clock)) (application : Application) (clock : Clock) :
    history config category i (run ++ [(application, clock)]) =
      history config category i run ++ (application.shows category config i).toList := by
  rw [history, List.filterMap_append]
  cases h : application.shows category config i <;> simp [history, h]

lemma reports_quiet {category : Category} {events : List SatelEvent}
    (h : ∀ event ∈ events, event.report = none) : reports category events = [] := by
  refine List.filterMap_eq_nil_iff.mpr fun event hevent => ?_
  rw [h event hevent]

lemma entityId_inj {i j : Nat} (hi : i < 256) (hj : j < 256)
    (h : Category.entityId i = Category.entityId j) : i = j := by
  have := congrArg UInt16.toNat h
  simp only [Category.entityId, UInt16.toNat_ofNat'] at this
  omega

lemma capacity_le (category : Category) : category.capacity ≤ 256 := by
  cases category <;> simp [Category.capacity]

/-- Among the reports of a pass, those of one entity are at its own index. -/
lemma valuesOf_range {n i : Nat} (hn : n ≤ 256) (hi : i < n) (r : Nat → Option Bool) :
    valuesOf (Category.entityId i) ((List.range n).filterMap fun j =>
      (r j).map (Category.entityId j, ·)) = (r i).toList := by
  have alone : ∀ m, m ≤ n → valuesOf (Category.entityId i) ((List.range m).filterMap fun j =>
      (r j).map (Category.entityId j, ·)) = if i < m then (r i).toList else [] := by
    intro m hm
    induction m with
    | zero => rfl
    | succ m ih =>
      rw [List.range_succ, List.filterMap_append, valuesOf_append, ih (by omega)]
      by_cases same : m = i
      · subst same
        cases h : r m <;> simp [valuesOf, h]
      · have distinct : Category.entityId m ≠ Category.entityId i := fun heq =>
          same (entityId_inj (by omega) (by omega) heq)
        have empty : valuesOf (Category.entityId i) ([m].filterMap fun j =>
            (r j).map (Category.entityId j, ·)) = [] := by
          cases h : r m <;> simp [valuesOf, h, distinct]
        rw [empty, List.append_nil]
        have : i < m ↔ i < m + 1 := by omega
        simp only [this]
  rw [alone n le_rfl, if_pos hi]

lemma Category.passCell_eq (category : Category) (config : Config) {application : Application}
    (target : application.target = some category) (now : LocalTime) (i : Nat) (cell : FlagCell) :
    category.passCell config application.emitAll now application.frame i cell =
      match application.shows category config i with
      | none => (cell, none)
      | some value =>
        observe (application.emitAll || category.emitUnchanged config) now cell value := by
  rw [Application.shows, if_pos target]
  rfl

lemma Application.shows_of_ne {application : Application} {category category' : Category}
    (target : application.target = some category) (h : category' ≠ category) (config : Config)
    (i : Nat) : application.shows category' config i = none := by
  rw [Application.shows, if_neg]
  rw [target]
  exact fun heq => h (Option.some.inj heq).symm

lemma owed_of_hidden {config : Config} {category : Category} {run : List (Application × Clock)}
    {application : Application} (h : ∀ i, application.shows category config i = none) :
    (List.range category.capacity).filterMap (owed config category run application) = [] := by
  refine List.filterMap_eq_nil_iff.mpr fun i _ => ?_
  rw [owed, h i]

section Step
variable {config : Config} {run : List (Application × Clock)} {state : SatelState}
  {log : List SatelEvent}

/-- What is neither touched nor reported keeps following its history. -/
lemma Tracks.follows_kept (h : Tracks config run state log) {application : Application}
    {clock : Clock} {state' : SatelState} {events : List SatelEvent} {category : Category}
    {i : Nat} (hi : i < category.capacity) (kept : category.cell state' i = category.cell state i)
    (silent : reports category events = [])
    (hidden : application.shows category config i = none) :
    ∃ cell, category.cell state' i = some cell ∧
      Follows false cell (history config category i (run ++ [(application, clock)]))
        (valuesOf (Category.entityId i) (reports category (log ++ events))) := by
  obtain ⟨cell, hcell, hfollows⟩ := h.follows category i hi
  refine ⟨cell, kept.trans hcell, ?_⟩
  rw [history_snoc, hidden, reports_append, silent]
  simpa using hfollows

/-- The cell of the category of a pass follows its history too. -/
lemma Tracks.follows_pass (h : Tracks config run state log) {application : Application}
    {category : Category} (target : application.target = some category) (clock : Clock) {i : Nat}
    (hi : i < category.capacity) :
    ∃ cell, category.cell (category.pass config application.emitAll clock.now
        application.frame state).1 i = some cell ∧
      Follows false cell (history config category i (run ++ [(application, clock)]))
        (valuesOf (Category.entityId i) (reports category (log ++
          (category.pass config application.emitAll clock.now application.frame state).2))) := by
  obtain ⟨cell, hcell, hfollows⟩ := h.follows category i hi
  have own : valuesOf (Category.entityId i) (reports category
      (category.pass config application.emitAll clock.now application.frame state).2) =
        (category.passCell config application.emitAll clock.now application.frame i cell).2.toList := by
    have hreports := reports_pass category config application.emitAll clock.now application.frame
      h.numbered
    have hbind : ∀ j, (category.cell state j).bind (fun cell => (category.passCell config
        application.emitAll clock.now application.frame j cell).2.map (Category.entityId j, ·)) =
          ((category.cell state j).bind fun cell => (category.passCell config
            application.emitAll clock.now application.frame j cell).2).map
              (Category.entityId j, ·) := by
      intro j
      cases category.cell state j <;> rfl
    simp only [hbind] at hreports
    rw [hreports, valuesOf_range (capacity_le category) hi, hcell]
    rfl
  refine ⟨(category.passCell config application.emitAll clock.now application.frame i cell).1,
    by rw [pass_cell _ _ _ _ _ _ hi, hcell]; rfl, ?_⟩
  rw [history_snoc, reports_append, valuesOf_append, own,
    category.passCell_eq config target clock.now i cell]
  cases application.shows category config i with
  | none => simpa using hfollows
  | some value => exact hfollows.observe _ _ value

/-- A pass sends what it owes. -/
lemma Tracks.reports_pass_owed (h : Tracks config run state log) {application : Application}
    {category : Category} (target : application.target = some category) (clock : Clock) :
    reports category
        (category.pass config application.emitAll clock.now application.frame state).2 =
      (List.range category.capacity).filterMap (owed config category run application) := by
  rw [reports_pass _ _ _ _ _ h.numbered]
  refine List.filterMap_congr fun i hi => ?_
  obtain ⟨cell, hcell, hfollows⟩ := h.follows category i (List.mem_range.mp hi)
  rw [hcell, Option.bind_some, category.passCell_eq config target, owed]
  cases application.shows category config i with
  | none => rfl
  | some value =>
    have hdue := hfollows.due_eq (application.emitAll || category.emitUnchanged config) value
    simp only [observe, hdue]
    split <;> rfl

/-- One application keeps the invariant, and sends the reports it owes. -/
theorem Tracks.step (h : Tracks config run state log) (application : Application)
    (clock : Clock) :
    ∃ state' events, application.apply config clock state = .ok (state', events) ∧
      Tracks config (run ++ [(application, clock)]) state' (log ++ events) ∧
      ∀ category, reports category events =
        (List.range category.capacity).filterMap (owed config category run application) := by
  rcases application.apply_cases config clock state with
    ⟨category, target, happly⟩ | ⟨target, updated, happly, quiet⟩
  · refine ⟨(category.pass config application.emitAll clock.now application.frame state).1,
      (category.pass config application.emitAll clock.now application.frame state).2, happly,
      ⟨pass_numbered _ _ _ _ _ h.numbered, ?_⟩, ?_⟩
    · intro category' i hi
      by_cases same : category' = category
      · subst same
        exact h.follows_pass target clock hi
      · exact h.follows_kept hi (pass_other _ _ _ _ _ _ same i)
          (reports_pass_other _ _ _ _ _ _ same) (Application.shows_of_ne target same config i)
    · intro category'
      by_cases same : category' = category
      · subst same
        exact h.reports_pass_owed target clock
      · rw [reports_pass_other _ _ _ _ _ _ same,
          owed_of_hidden (Application.shows_of_ne target same config)]
  · have hidden : ∀ category i, application.shows category config i = none := by
      intro category i
      rw [Application.shows, target, if_neg]
      exact Option.some_ne_none category ∘ Eq.symm
    refine ⟨_, _, happly, ⟨h.numbered.quiet quiet, ?_⟩, ?_⟩
    · intro category i hi
      exact h.follows_kept hi (Category.cell_quiet quiet category i) (reports_quiet quiet.events)
        (hidden category i)
    · intro category
      rw [reports_quiet quiet.events, owed_of_hidden (hidden category)]

end Step

lemma applyAll_snoc {config : Config} {state state₁ state₂ : SatelState}
    {run : List (Application × Clock)} {log events : List SatelEvent} {application : Application}
    {clock : Clock} (h : applyAll config state run = .ok (state₁, log))
    (step : application.apply config clock state₁ = .ok (state₂, events)) :
    applyAll config state (run ++ [(application, clock)]) = .ok (state₂, log ++ events) := by
  induction run generalizing state log with
  | nil =>
    cases h
    simp only [List.nil_append, applyAll, step, ok_bind, List.append_nil]
    rfl
  | cons first run ih =>
    obtain ⟨⟨state', events'⟩, hfirst, h⟩ := bind_eq_ok.mp h
    obtain ⟨⟨state'', log'⟩, hrest, h⟩ := bind_eq_ok.mp h
    cases h
    simp only [List.cons_append, applyAll, hfirst, ih hrest, ok_bind, List.append_assoc]
    rfl

/-- The invariant of every run from the fresh cache. -/
theorem applyAll_tracks (config : Config) (start : Instant) (run : List (Application × Clock)) :
    ∃ state log, applyAll config (SatelState.new start) run = .ok (state, log) ∧
      Tracks config run state log := by
  induction run using List.reverseRecOn with
  | nil => exact ⟨_, _, rfl, tracks_nil config start⟩
  | append_singleton run step ih =>
    obtain ⟨state, log, happly, htracks⟩ := ih
    obtain ⟨state', events, hstep, htracks', -⟩ := htracks.step step.1 step.2
    exact ⟨state', log ++ events, applyAll_snoc happly hstep, htracks'⟩

lemma foldl_update_eq (rs : List (UInt16 × Bool)) (flags : UInt16 → Bool) (id : UInt16) :
    rs.foldl (fun flags report => Function.update flags report.1 report.2) flags id =
      (valuesOf id rs).getLastD (flags id) := by
  induction rs generalizing flags with
  | nil => rfl
  | cons r rs ih =>
    rw [List.foldl_cons, ih]
    by_cases same : r.1 = id
    · subst same
      have own : valuesOf r.1 (r :: rs) = r.2 :: valuesOf r.1 rs := by simp [valuesOf]
      rw [own, List.getLastD_cons, Function.update_self]
    · have other : valuesOf id (r :: rs) = valuesOf id rs := by simp [valuesOf, same]
      rw [other, Function.update_of_ne (Ne.symm same)]

/-- In every run from the fresh cache, the cached flags are the last bits the frames showed,
replaying the events rebuilds them, and a further frame reports exactly the covered indices
that are due, keeps the other categories and, if rejected, does nothing. -/
theorem cache_and_log_follow_frames (config : Config) (start : Instant)
    (run : List (Application × Clock)) :
    ∃ state log, applyAll config (SatelState.new start) run = .ok (state, log) ∧
      (∀ (category : Category) (i : Nat), i < category.capacity →
        ∃ cell, category.cell state i = some cell ∧
          cell.value = (history config category i run).getLastD false ∧
          (cell.readAt.isSome = true ↔ history config category i run ≠ []) ∧
          replay category log (Category.entityId i) = cell.value) ∧
      ∀ (application : Application) (clock : Clock),
        ∃ state' events, application.apply config clock state = .ok (state', events) ∧
          (∀ category, reports category events =
            (List.range category.capacity).filterMap (owed config category run application)) ∧
          (∀ category, application.target ≠ some category →
            ∀ i, category.cell state' i = category.cell state i) ∧
          (∀ category, application.target = some category →
            category.accepts application.frame = false → state' = state ∧ events = []) := by
  obtain ⟨state, log, happly, htracks⟩ := applyAll_tracks config start run
  refine ⟨state, log, happly, ?_, ?_⟩
  · intro category i hi
    obtain ⟨cell, hcell, hfollows⟩ := htracks.follows category i hi
    refine ⟨cell, hcell, hfollows.value, ?_, ?_⟩
    · rw [hfollows.read]
      simp
    · rw [replay, foldl_update_eq, hfollows.replay]
  · intro application clock
    obtain ⟨state', events, hstep, -, hreports⟩ := htracks.step application clock
    refine ⟨state', events, hstep, hreports, ?_, ?_⟩
    · intro category away i
      rcases application.apply_cases config clock state with
        ⟨category', target, happly'⟩ | ⟨-, updated, happly', quiet⟩
      · have hpass := Except.ok.inj (hstep.symm.trans happly')
        have hstate : state' = _ := congrArg Prod.fst hpass
        have distinct : category ≠ category' := by
          rintro rfl
          exact away target
        rw [hstate]
        exact pass_other _ _ _ _ _ _ distinct i
      · cases hstep.symm.trans happly'
        exact Category.cell_quiet quiet category i
    · intro category target rejected
      rcases application.apply_cases config clock state with
        ⟨category', target', happly'⟩ | ⟨none, -⟩
      · cases target.symm.trans target'
        rw [Category.pass, rejected] at happly'
        cases hstep.symm.trans happly'
        exact ⟨rfl, rfl⟩
      · cases target.symm.trans none

end SatelIntegra
