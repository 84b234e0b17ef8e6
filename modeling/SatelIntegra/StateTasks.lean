import SatelIntegra.StateQueries

/-!
# The cached state among tasks

Queries of any number of tasks, the loop of the auto-requester and reloads of the
configuration take turns, one operation at a time. Replies may be stored in another
order than they came in, and under another configuration than they were parsed with.
Still the events are a complete account of the cache, and the cache has nothing that
the panel did not send.
-/

namespace SatelIntegra

open CheckedAccess AtomicCalls KeyedWrites ObservedCell

/-! ### The shared data -/

/-- What the worker answers to a request after the earlier ones, what it passes to the
auto-requester, and the clock. -/
structure StateSurroundings where
  answer : List Frame → Frame → Except SatelError Frame
  message : Nat → StateWorkerMessage
  clock : Nat → Clock

/-- What the tasks share. The last three fields count what happened; no code reads them. -/
structure StateWorld where
  config : Config
  state : SatelState
  events : List SatelEvent
  asked : List Frame
  messages : Nat
  clockReadings : Nat

namespace StateWorld

def new (config : Config) (start : Instant) : StateWorld where
  config := config
  state := .new start
  events := []
  asked := []
  messages := 0
  clockReadings := 0

def tell (w : StateWorld) (updated : Updated) : StateWorld :=
  { w with state := updated.1, events := w.events ++ updated.2 }

end StateWorld

/-- What an operation answers and changes. -/
def StateOp.exec (env : StateSurroundings) : Exec StateOp StateOp.Answer StateWorld
  | .exchange data, w => (env.answer w.asked data, { w with asked := w.asked ++ [data] })
  | .parseContext, w =>
    (⟨w.config, env.clock w.clockReadings⟩, { w with clockReadings := w.clockReadings + 1 })
  | .underLock update, w =>
    let updated := update.apply w.config w.state
    (updated.1, w.tell updated)
  | .send event, w => ((), { w with events := w.events ++ [event] })
  | .nextMessage, w => (env.message w.messages, { w with messages := w.messages + 1 })
  | .swapConfig newConfig, w => ((), { w with config := newConfig.keepConnection w.config })

/-! ### The auto-requester -/

namespace StateCall

/-- `if let Ok(d) = parsed { let _ = update(d); }` -/
def storeParsed {α : Type} (update : α → StateUpdate) :
    Except Panic (Except SatelError α) → StateCall Unit
  | .ok (.ok a) => do
    let _ ← underLock (update a)
    return ()
  | .ok (.error _) => return ()
  | .error p => throw (.panicked p)

/-- The arms of `handle_auto_frame` on the first byte. -/
def handleArm (first : UInt8) (frame : Frame) : StateCall Unit :=
  match Category.ofCommand first with
  | some category => do
    let seen ← parseContext
    storeParsed (.flags category · false)
      (category.process seen.config frame seen.clock.now).run
  | none =>
    if first = SatelCommand.rtcAndBasicStatusBits.toByte then do
      let seen ← parseContext
      storeParsed .systemStatus (processRtcAndStatus frame seen.clock).run
    else if (getRules first).isSome then
      match SatelCommand.fromByte first with
      | some cmd => do
        let data ← orReturn (Except.ok <$> sliceFrom frame 1)
        storeParsed .troubles (decodeTroubles cmd.toByte data).run
      | none => return ()
    else if first = 0xEF then
      let code := (frame[1]?).getD 0xFF
      if code != 0xFF then send (.panelMessage (SatelResult.fromByte code)) else return ()
    else return ()

/-- `handle_auto_frame`, with the parsing apart from the block that stores. -/
def handleAutoFrame (frame : Frame) : StateCall Unit := do
  if frame.isEmpty then return ()
  let first ← orReturn (Except.ok <$> index frame 0)
  handleArm first frame

/-- One turn of the loop of the auto-requester. -/
def requesterTurn : StateCall Unit := do
  match ← CallTree.perform StateOp.nextMessage with
  | .frame frame => handleAutoFrame frame
  | .statusChanged state =>
    send (.connectionChanged state)
    let seen ← parseContext
    let left ← underLock .markStatistics
    send (.connectionStatistics (left.telemetry.statistics seen.clock.now))
  | .integraVersion version =>
    let _ ← underLock (.integraVersion version)
    send (.integraVersionReceived version)
  | .ethmVersion version =>
    let _ ← underLock (.ethmVersion version)
    send (.ethmVersionReceived version)
  | .autoReadReport report =>
    let _ ← underLock (.autoReadReport report)
    send (.autoReadConfigured report)

/-- A command with a table of troubles has a name. -/
lemma named_of_rules {first : UInt8} (known : (getRules first).isSome = true) :
    ∃ cmd, SatelCommand.fromByte first = some cmd ∧ cmd.toByte = first := by
  unfold getRules at known
  split at known
  all_goals first
    | exact ⟨_, rfl, rfl⟩
    | cases known

lemma ifParsed_troubles (config : Config) (state : SatelState) (cmd : SatelCommand)
    (bytes : Frame) : ifParsed state (updateTroublesInternal config state cmd bytes) id =
      ifParsed state (decodeTroubles cmd.toByte bytes)
        (updateTroubles config.emitUnchangedTroubles state) := by
  obtain ⟨result, h⟩ := decodeTroubles_noPanic cmd.toByte bytes
  rw [updateTroublesInternal, h]
  cases result <;> rfl

/-- No arm of the dispatcher has the byte. -/
lemma handleAutoFrame_unknown {first : UInt8} (flags : Category.ofCommand first = none)
    (status : first ≠ 0x1A) (troubles : ¬ (getRules first).isSome = true)
    (message : first ≠ 0xEF) (config : Config) (state : SatelState) (bytes : Frame)
    (clock : Clock) :
    SatelIntegra.handleAutoFrame config state (first :: bytes) clock = .ok (state, []) := by
  simp only [SatelIntegra.handleAutoFrame, List.isEmpty_cons, Bool.false_eq_true, if_false,
    index_cons_zero, bind, Except.bind]
  split
  all_goals first
    | exact absurd flags (by decide)
    | exact absurd rfl troubles
    | exact absurd rfl status
    | exact absurd rfl message
    | rfl

section Alone
variable {env : StateSurroundings} {w : StateWorld}

/-- What the pure routine makes of a frame, as a run. -/
def HandlesAs (env : StateSurroundings) (w : StateWorld) (call : StateCall Unit)
    (handled : Except Panic Updated) : Prop :=
  ∃ updated readings, handled = .ok updated ∧
    call.run (StateOp.exec env) w = (.ok (), { w.tell updated with clockReadings := readings })

lemma handles_nothing : HandlesAs env w (pure ()) (.ok (w.state, [])) := by
  refine ⟨_, w.clockReadings, rfl, ?_⟩
  simp [StateWorld.tell]

/-- Storing what was parsed is `ifParsed`. -/
lemma handles_storeParsed {α : Type} {update : α → StateUpdate} {routine : α → Updated}
    (same : ∀ a, (update a).apply w.config w.state = routine a) (parsed : Parsed α)
    (total : NoPanic parsed) {readings : Nat} :
    HandlesAs env { w with clockReadings := readings } (storeParsed update parsed.run)
      (ifParsed w.state parsed routine) := by
  obtain ⟨result, h⟩ := total
  cases result with
  | ok a =>
    refine ⟨routine a, readings, ifParsed_of_ok h, ?_⟩
    rw [h, ← same]
    rfl
  | error e =>
    have nothing : storeParsed update (ExceptT.run (.ok (.error e))) = pure () := rfl
    refine ⟨(w.state, []), readings, ifParsed_of_error h, ?_⟩
    rw [h, nothing]
    simp [StateWorld.tell]

lemma handles_parseContext {rest : ParseContext → StateCall Unit} {handled : Except Panic Updated}
    (h : HandlesAs env { w with clockReadings := w.clockReadings + 1 }
      (rest ⟨w.config, env.clock w.clockReadings⟩) handled) :
    HandlesAs env w (parseContext >>= rest) handled := h

/-- Alone, the operations of `handle_auto_frame` are the pure routine on the current configuration,
state and time. -/
theorem handleAutoFrame_run (env : StateSurroundings) (w : StateWorld) (frame : Frame) :
    HandlesAs env w (handleAutoFrame frame)
      (SatelIntegra.handleAutoFrame w.config w.state frame (env.clock w.clockReadings)) := by
  rcases frame with _ | ⟨first, bytes⟩
  · exact handles_nothing
  have call : handleAutoFrame (first :: bytes) = handleArm first (first :: bytes) := rfl
  rw [call]
  unfold handleArm
  cases known : Category.ofCommand first with
  | some category =>
    cases Category.ofCommand_eq_some.mp known
    rw [handleAutoFrame_category]
    exact handles_parseContext (handles_storeParsed (fun _ => rfl) _ (process_noPanic ..))
  | none =>
    by_cases status : first = SatelCommand.rtcAndBasicStatusBits.toByte
    · subst status
      exact handles_parseContext
        (handles_storeParsed (fun _ => rfl) _ (processRtcAndStatus_noPanic ..))
    · simp only [status, if_false]
      by_cases trouble : (getRules first).isSome = true
      · obtain ⟨cmd, named, rfl⟩ := named_of_rules trouble
        rw [if_pos trouble, named, handleAutoFrame_troubles trouble, ifParsed_troubles]
        have sliced : sliceFrom (cmd.toByte :: bytes) 1 = .ok bytes := sliceFrom_cons_one ..
        rw [sliced]
        exact @handles_storeParsed env w _ StateUpdate.troubles _ (fun _ => rfl) _
          (decodeTroubles_noPanic ..) w.clockReadings
      · rw [if_neg trouble]
        by_cases message : first = 0xEF
        · subst message
          simp only [if_true]
          by_cases code : ((0xEF :: bytes : Frame)[1]?).getD 0xFF != 0xFF
          · rw [if_pos code]
            refine ⟨(w.state, [.panelMessage _]), w.clockReadings, if_pos code, rfl⟩
          · rw [if_neg code]
            refine ⟨(w.state, []), w.clockReadings, if_neg code, ?_⟩
            simp [StateWorld.tell]
        · rw [if_neg message, handleAutoFrame_unknown known status trouble message]
          exact handles_nothing

end Alone
end StateCall
/-! ### The events tell the cache -/

/-- The status an event reports. -/
def SatelEvent.status : SatelEvent → Option SystemStatus
  | .systemStatusChanged status => some status
  | _ => none

/-- An event about none of what the tasks share: a version, a message, a report, the connection. -/
structure SatelEvent.Neutral (event : SatelEvent) : Prop where
  report : event.report = none
  status : event.status = none
  trouble : troubleFlagsMap.event event = none
  level : acuJamLevelsMap.event event = none
  code : cmeErrorsMap.event event = none

/-- A reader who starts from a blank cache and follows the events holds what the cache holds. -/
structure CacheTold (events : List SatelEvent) (state : SatelState) : Prop where
  numbered : Category.Numbered state
  flags : ∀ (category : Category) (i : Nat), i < category.capacity →
    ∃ cell, category.cell state i = some cell ∧
      replay category events (Category.entityId i) = cell.value
  status : (events.filterMap SatelEvent.status).getLast? = state.systemStatus
  troubles : follow (fun _ => false) (events.filterMap troubleFlagsMap.event) =
    reading false state.troubleFlags
  levels : follow (fun _ => 0) (events.filterMap acuJamLevelsMap.event) =
    reading 0 state.acuJamLevels
  codes : follow (fun _ => 0) (events.filterMap cmeErrorsMap.event) =
    reading 0 state.cmeErrors

namespace CacheTold
variable {events more : List SatelEvent} {state state' : SatelState}

lemma new (start : Instant) : CacheTold [] (SatelState.new start) := by
  constructor
  · exact Category.numbered_new start
  · intro category i inside
    exact ⟨_, cell_new start category inside, rfl⟩
  all_goals rfl

lemma replay_append (category : Category) (id : UInt16) :
    replay category (events ++ more) id =
      (valuesOf id (reports category more)).getLastD (replay category events id) := by
  rw [replay, reports_append, List.foldl_append, foldl_update_eq]
  rfl

/-- What an event says about nothing of a kind adds nothing of that kind. -/
lemma filterMap_none {β : Type} {about : SatelEvent → Option β}
    (h : ∀ event ∈ more, about event = none) :
    (events ++ more).filterMap about = events.filterMap about := by
  rw [List.filterMap_append, List.filterMap_eq_nil_iff.mpr h, List.append_nil]

lemma replay_quiet (category : Category) (id : UInt16)
    (h : ∀ event ∈ more, event.report = none) :
    replay category (events ++ more) id = replay category events id := by
  rw [replay_append, reports_quiet h]
  rfl

/-- A step that touches no flags, and what is left to show of it. -/
lemma of_quiet (h : CacheTold events state) (quiet : Quiet state (state', more))
    (status : ((events ++ more).filterMap SatelEvent.status).getLast? = state'.systemStatus)
    (troubles : follow (fun _ => false) ((events ++ more).filterMap troubleFlagsMap.event) =
      reading false state'.troubleFlags)
    (levels : follow (fun _ => 0) ((events ++ more).filterMap acuJamLevelsMap.event) =
      reading 0 state'.acuJamLevels)
    (codes : follow (fun _ => 0) ((events ++ more).filterMap cmeErrorsMap.event) =
      reading 0 state'.cmeErrors) : CacheTold (events ++ more) state' := by
  refine ⟨h.numbered.quiet quiet, ?_, status, troubles, levels, codes⟩
  intro category i inside
  obtain ⟨cell, hcell, hvalue⟩ := h.flags category i inside
  refine ⟨cell, (Category.cell_quiet quiet category i).trans hcell, ?_⟩
  rw [replay_quiet category _ quiet.events, hvalue]

/-- A neutral event, and a state with the same flags, status and troubles. -/
lemma neutral (h : CacheTold events state) (same : Quiet state (state', more))
    (told : ∀ event ∈ more, event.Neutral) (status : state'.systemStatus = state.systemStatus)
    (troubles : state'.troubleFlags = state.troubleFlags)
    (levels : state'.acuJamLevels = state.acuJamLevels)
    (codes : state'.cmeErrors = state.cmeErrors) : CacheTold (events ++ more) state' := by
  refine h.of_quiet same ?_ ?_ ?_ ?_
  · rw [filterMap_none fun event he => (told event he).status, status, h.status]
  · rw [filterMap_none fun event he => (told event he).trouble, troubles, h.troubles]
  · rw [filterMap_none fun event he => (told event he).level, levels, h.levels]
  · rw [filterMap_none fun event he => (told event he).code, codes, h.codes]

section Flags
variable (category : Category) (config : Config) (result : StatesData) (emitAll : Bool)

lemma update_event {event : SatelEvent}
    (h : event ∈ (category.update config state result emitAll).2) :
    ∃ id value, event = category.field.event id value := by
  rw [category.update_eq, updateFlags_events] at h
  obtain ⟨i, -, at_i⟩ := List.mem_filterMap.mp h
  obtain ⟨entity, -, at_i⟩ := Option.bind_eq_some_iff.mp at_i
  obtain ⟨value, -, sent⟩ := Option.bind_eq_some_iff.mp at_i
  obtain ⟨reported, -, rfl⟩ := Option.map_eq_some_iff.mp sent
  exact ⟨_, reported, rfl⟩

/-- A report of a flag is about nothing else. -/
lemma update_event_only {event : SatelEvent}
    (h : event ∈ (category.update config state result emitAll).2) :
    event.status = none ∧ troubleFlagsMap.event event = none ∧
      acuJamLevelsMap.event event = none ∧ cmeErrorsMap.event event = none := by
  obtain ⟨id, value, rfl⟩ := update_event category config result emitAll h
  rcases category with flag | flag | _
  · cases flag <;> exact ⟨rfl, rfl, rfl, rfl⟩
  · cases flag <;> exact ⟨rfl, rfl, rfl, rfl⟩
  · exact ⟨rfl, rfl, rfl, rfl⟩

lemma reports_update_other {category' : Category} (h : category' ≠ category) :
    reports category' (category.update config state result emitAll).2 = [] := by
  refine List.filterMap_eq_nil_iff.mpr ?_
  intro event hevent
  obtain ⟨id, value, rfl⟩ := update_event category config result emitAll hevent
  rw [category.event_report]
  exact if_neg h.symm

/-- A cell after the routine of its category, and what the routine reported of it. -/
lemma update_reported {cell : FlagCell} {i : Nat} (hcell : category.cell state i = some cell) :
    ∃ cell', category.cell (category.update config state result emitAll).1 i = some cell' ∧
      (category.reported config state result emitAll i).toList.getLastD cell.value =
        cell'.value := by
  have after := category.update_cell config state result emitAll i
  rw [hcell, Option.map_some] at after
  refine ⟨_, after, ?_⟩
  rw [Category.reported, hcell]
  cases result.states[i]? with
  | none => rfl
  | some value =>
    simp only [Option.bind_eq_bind, Option.bind_some, Option.elim_some]
    cases h : due (emitAll || category.emitUnchanged config) cell value with
    | true => simp [observe_of_due h]
    | false => simp [observe_of_not_due h]

/-- A pass over the flags of a category tells what it changes. -/
lemma flags_update (h : CacheTold events state) :
    CacheTold (events ++ (category.update config state result emitAll).2)
      (category.update config state result emitAll).1 := by
  have only {event : SatelEvent} (he : event ∈ (category.update config state result emitAll).2) :=
    update_event_only category config result emitAll he
  have rest := category.update_eq config state result emitAll
  refine ⟨Category.Numbered.update category config result emitAll h.numbered, ?_, ?_, ?_, ?_, ?_⟩
  · intro category' i inside
    obtain ⟨cell, hcell, hvalue⟩ := h.flags category' i inside
    rw [replay_append, hvalue]
    by_cases same : category' = category
    · subst same
      obtain ⟨cell', hcell', last⟩ := update_reported category' config result emitAll hcell
      refine ⟨cell', hcell', ?_⟩
      rw [reports_update category' config h.numbered, valuesOf_range (capacity_le _) inside, last]
    · refine ⟨cell, (category.update_other config state result emitAll same i).trans hcell, ?_⟩
      rw [reports_update_other category config result emitAll same]
      rfl
  · rw [filterMap_none fun event he => (only he).1, h.status, rest]
    cases category <;> rfl
  · rw [filterMap_none fun event he => (only he).2.1, h.troubles, rest]
    cases category <;> rfl
  · rw [filterMap_none fun event he => (only he).2.2.1, h.levels, rest]
    cases category <;> rfl
  · rw [filterMap_none fun event he => (only he).2.2.2, h.codes, rest]
    cases category <;> rfl

end Flags

lemma systemStatus_update (h : CacheTold events state) (config : Config) (status : SystemStatus) :
    CacheTold (events ++ (updateSystemStatusInternal config state status).2)
      (updateSystemStatusInternal config state status).1 := by
  have quiet := updateSystemStatusInternal_quiet config state status
  by_cases due : (state.systemStatus != some status || config.emitUnchangedSystemStatus) = true
  · have told : updateSystemStatusInternal config state status =
        ({ state with systemStatus := some status }, [.systemStatusChanged status]) := if_pos due
    rw [told] at quiet ⊢
    refine h.of_quiet quiet ?_ ?_ ?_ ?_
    · simp [SatelEvent.status]
    · rw [filterMap_none (by simp [troubleFlagsMap]), h.troubles]
    · rw [filterMap_none (by simp [acuJamLevelsMap]), h.levels]
    · rw [filterMap_none (by simp [cmeErrorsMap]), h.codes]
  · have told : updateSystemStatusInternal config state status = (state, []) := if_neg due
    rw [told, List.append_nil]
    exact h

lemma updateTroubles_status (emitUnchanged : Bool) (items : List TroubleItem) :
    ∀ event ∈ (updateTroubles emitUnchanged state items).2, event.status = none := by
  induction items generalizing state with
  | nil =>
    intro event hevent
    cases hevent
  | cons item items ih =>
    intro event hevent
    rcases List.mem_append.mp hevent with head | tail
    · cases item with
      | flag trouble memory active =>
        simp only at head
        split at head
        · cases memory <;> (cases List.mem_singleton.mp head; rfl)
        · cases head
      | acuJamLevel module level =>
        simp only at head
        split at head
        · cases List.mem_singleton.mp head
          rfl
        · cases head
      | cmeError source sim memory code =>
        simp only at head
        split at head
        · cases List.mem_singleton.mp head
          rfl
        · cases head
    · exact ih event tail

/-- The three maps tell what their writes change. -/
lemma troubles_update (h : CacheTold events state) (emitUnchanged : Bool) (items : List TroubleItem) :
    CacheTold (events ++ (updateTroubles emitUnchanged state items).2)
      (updateTroubles emitUnchanged state items).1 := by
  have map_update {K V : Type} [DecidableEq K] [DecidableEq V] (map : TroubleMap K V)
      (before : follow (fun _ => map.blank) (events.filterMap map.event) =
        reading map.blank (map.contents state)) :
      follow (fun _ => map.blank) ((events ++ (updateTroubles emitUnchanged state items).2).filterMap
          map.event) =
        reading map.blank (map.contents (updateTroubles emitUnchanged state items).1) := by
    obtain ⟨contents, announced⟩ := map.updateTroubles_writes emitUnchanged items state
    rw [List.filterMap_append, announced, contents]
    exact follow_append before _
  refine h.of_quiet (updateTroubles_quiet ..) ?_ ?_ ?_ ?_
  · rw [filterMap_none (updateTroubles_status emitUnchanged items), h.status,
      (updateTroubles_rest emitUnchanged items state).2]
  · exact map_update troubleFlagsMap h.troubles
  · exact map_update acuJamLevelsMap h.levels
  · exact map_update cmeErrorsMap h.codes

/-- Every block leaves the events a complete account. -/
lemma update (h : CacheTold events state) (config : Config) (update : StateUpdate) :
    CacheTold (events ++ (update.apply config state).2) (update.apply config state).1 := by
  have silent (after : SatelState) (quiet : Quiet state (after, []))
      (status : after.systemStatus = state.systemStatus)
      (troubles : after.troubleFlags = state.troubleFlags)
      (levels : after.acuJamLevels = state.acuJamLevels)
      (codes : after.cmeErrors = state.cmeErrors) : CacheTold (events ++ []) after :=
    h.neutral quiet (by simp) status troubles levels codes
  cases update with
  | flags category result emitAll => exact h.flags_update category config result emitAll
  | systemStatus status => exact h.systemStatus_update config status
  | troubles items => exact h.troubles_update _ items
  | integraVersion version => exact silent _ ⟨rfl, rfl, rfl, by simp⟩ rfl rfl rfl rfl
  | ethmVersion version => exact silent _ ⟨rfl, rfl, rfl, by simp⟩ rfl rfl rfl rfl
  | autoReadReport report => exact silent _ ⟨rfl, rfl, rfl, by simp⟩ rfl rfl rfl rfl
  | markStatistics => exact silent _ ⟨rfl, rfl, rfl, by simp⟩ rfl rfl rfl rfl

lemma send (h : CacheTold events state) {event : SatelEvent} (neutral : event.Neutral) :
    CacheTold (events ++ [event]) state :=
  h.neutral ⟨rfl, rfl, rfl, by simpa using neutral.report⟩ (by simpa using neutral) rfl rfl rfl rfl

end CacheTold
/-! ### The cache has what was heard -/

section Heard
variable {ι : Type}

abbrev StateEvent (ι : Type) := AtomicCalls.Event ι StateOp StateOp.Answer

abbrev StateMoment (ι : Type) := Moment ι StateOp StateOp.Answer StateWorld

/-- The frame a task got from the worker. -/
def heardFrame : StateEvent ι → Option Frame
  | ⟨_, .exchange _, .ok frame⟩ => some frame
  | ⟨_, .nextMessage, .frame frame⟩ => some frame
  | _ => none

/-- The panel sent the frame, as a reply or on its own. -/
def FrameHeard (m : StateMoment ι) (frame : Frame) : Prop :=
  ∃ event ∈ m.trace, heardFrame event = some frame

/-- Some task read this configuration and this time. -/
def ContextRead (m : StateMoment ι) (seen : ParseContext) : Prop :=
  ∃ i : ι, ⟨i, .parseContext, seen⟩ ∈ m.trace

/-- What a block is about to store was parsed from a frame of the panel. -/
def StateUpdate.Heard (m : StateMoment ι) : StateUpdate → Prop
  | flags category result _ => ∃ frame seen, FrameHeard m frame ∧ ContextRead m seen ∧
      category.process seen.config frame seen.clock.now = (.ok (.ok result) : Except Panic _)
  | systemStatus status => ∃ frame seen, FrameHeard m frame ∧ ContextRead m seen ∧
      processRtcAndStatus frame seen.clock = (.ok (.ok status) : Except Panic _)
  | troubles items => ∃ frame cmd, FrameHeard m frame ∧
      decodeTroubles cmd frame.tail = (.ok (.ok items) : Except Panic _)
  | _ => True

/-- What a map holds comes from frames. -/
def TroubleMap.FromFrames {K V : Type} [DecidableEq K] [DecidableEq V] (map : TroubleMap K V)
    (m : StateMoment ι) : Prop :=
  ∀ key value, map.contents m.shared.state key = some value →
    ∃ frame cmd items, FrameHeard m frame ∧
      decodeTroubles cmd frame.tail = (.ok (.ok items) : Except Panic _) ∧
      (key, value) ∈ items.filterMap map.write

/-- Every flag that was read, the status and every entry of the maps is what some frame of the
panel has, under a configuration and at a time some task read. -/
structure CacheHeard (m : StateMoment ι) : Prop where
  flags : ∀ (category : Category) (i : Nat) (cell : FlagCell), i < category.capacity →
    category.cell m.shared.state i = some cell → cell.readAt.isSome = true →
      ∃ frame seen, FrameHeard m frame ∧ ContextRead m seen ∧
        category.shows seen.config i frame = some cell.value
  status : ∀ status, m.shared.state.systemStatus = some status →
    ∃ frame seen, FrameHeard m frame ∧ ContextRead m seen ∧
      processRtcAndStatus frame seen.clock = (.ok (.ok status) : Except Panic _)
  troubles : troubleFlagsMap.FromFrames m
  levels : acuJamLevelsMap.FromFrames m
  codes : cmeErrorsMap.FromFrames m

/-- What happened before one moment happened before the other. -/
def Grown (m m' : StateMoment ι) : Prop := ∀ event ∈ m.trace, event ∈ m'.trace

namespace Grown
variable {m m' : StateMoment ι}

lemma perform (exec : Exec StateOp StateOp.Answer StateWorld) (i : ι) (op : StateOp) :
    Grown m (m.perform exec i op) := fun _ before => List.mem_cons_of_mem _ before

lemma frameHeard (grown : Grown m m') {frame : Frame} (h : FrameHeard m frame) :
    FrameHeard m' frame := by
  obtain ⟨event, before, heard⟩ := h
  exact ⟨event, grown event before, heard⟩

lemma contextRead (grown : Grown m m') {seen : ParseContext} (h : ContextRead m seen) :
    ContextRead m' seen := by
  obtain ⟨i, before⟩ := h
  exact ⟨i, grown _ before⟩

lemma heard (grown : Grown m m') {update : StateUpdate} (h : update.Heard m) :
    update.Heard m' := by
  cases update with
  | flags category result emitAll =>
    obtain ⟨frame, seen, hframe, hseen, parsed⟩ := h
    exact ⟨frame, seen, grown.frameHeard hframe, grown.contextRead hseen, parsed⟩
  | systemStatus status =>
    obtain ⟨frame, seen, hframe, hseen, parsed⟩ := h
    exact ⟨frame, seen, grown.frameHeard hframe, grown.contextRead hseen, parsed⟩
  | troubles items =>
    obtain ⟨frame, cmd, hframe, decoded⟩ := h
    exact ⟨frame, cmd, grown.frameHeard hframe, decoded⟩
  | integraVersion version => exact trivial
  | ethmVersion version => exact trivial
  | autoReadReport report => exact trivial
  | markStatistics => exact trivial

end Grown

lemma TroubleMap.FromFrames.grown {K V : Type} [DecidableEq K] [DecidableEq V]
    {map : TroubleMap K V} {m m' : StateMoment ι} (h : map.FromFrames m) (grown : Grown m m')
    (same : map.contents m'.shared.state = map.contents m.shared.state) : map.FromFrames m' := by
  intro key value entry
  rw [same] at entry
  obtain ⟨frame, cmd, items, hframe, written⟩ := h key value entry
  exact ⟨frame, cmd, items, grown.frameHeard hframe, written⟩

/-- After a block that stores decoded items, an entry is one of them or was there before. -/
lemma TroubleMap.FromFrames.store {K V : Type} [DecidableEq K] [DecidableEq V]
    {map : TroubleMap K V} {m m' : StateMoment ι} (h : map.FromFrames m) (grown : Grown m m')
    {frame : Frame} {cmd : UInt8} {items : List TroubleItem} (hframe : FrameHeard m frame)
    (decoded : decodeTroubles cmd frame.tail = (.ok (.ok items) : Except Panic _))
    {emitUnchanged : Bool}
    (stored : m'.shared.state = (updateTroubles emitUnchanged m.shared.state items).1) :
    map.FromFrames m' := by
  intro key value entry
  rw [stored, (map.updateTroubles_writes emitUnchanged items m.shared.state).1] at entry
  rcases final_origin entry with ⟨w, hw, rfl, rfl⟩ | before
  · obtain ⟨written, hwritten, rfl⟩ := List.mem_map.mp hw
    exact ⟨frame, cmd, items, grown.frameHeard hframe, decoded, hwritten⟩
  · obtain ⟨frame', cmd', items', hframe', written⟩ := h key value before
    exact ⟨frame', cmd', items', grown.frameHeard hframe', written⟩

namespace CacheHeard
variable {m m' : StateMoment ι}

lemma new (config : Config) (start : Instant) :
    CacheHeard (⟨.new config start, []⟩ : StateMoment ι) := by
  constructor
  · intro category i cell inside hcell read
    cases (cell_new start category inside).symm.trans hcell
    cases read
  · intro status impossible
    cases impossible
  all_goals
    intro key value impossible
    cases impossible

/-- What is kept, apart from the flags. -/
lemma of_flags (h : CacheHeard m) (grown : Grown m m')
    (flags : ∀ (category : Category) (i : Nat) (cell : FlagCell), i < category.capacity →
      category.cell m'.shared.state i = some cell → cell.readAt.isSome = true →
        ∃ frame seen, FrameHeard m' frame ∧ ContextRead m' seen ∧
          category.shows seen.config i frame = some cell.value)
    (status : m'.shared.state.systemStatus = m.shared.state.systemStatus)
    (troubles : m'.shared.state.troubleFlags = m.shared.state.troubleFlags)
    (levels : m'.shared.state.acuJamLevels = m.shared.state.acuJamLevels)
    (codes : m'.shared.state.cmeErrors = m.shared.state.cmeErrors) : CacheHeard m' := by
  refine ⟨flags, ?_, ?_, ?_, ?_⟩
  · intro found hstatus
    obtain ⟨frame, seen, hframe, hseen, parsed⟩ := h.status found (status ▸ hstatus)
    exact ⟨frame, seen, grown.frameHeard hframe, grown.contextRead hseen, parsed⟩
  · exact h.troubles.grown grown troubles
  · exact h.levels.grown grown levels
  · exact h.codes.grown grown codes

lemma flags_grown (h : CacheHeard m) (grown : Grown m m')
    (same : ∀ (category : Category) (i : Nat),
      category.cell m'.shared.state i = category.cell m.shared.state i) :
    ∀ (category : Category) (i : Nat) (cell : FlagCell), i < category.capacity →
      category.cell m'.shared.state i = some cell → cell.readAt.isSome = true →
        ∃ frame seen, FrameHeard m' frame ∧ ContextRead m' seen ∧
          category.shows seen.config i frame = some cell.value := by
  intro category i cell inside hcell read
  obtain ⟨frame, seen, hframe, hseen, shown⟩ :=
    h.flags category i cell inside ((same category i).symm.trans hcell) read
  exact ⟨frame, seen, grown.frameHeard hframe, grown.contextRead hseen, shown⟩

/-- A step that touches nothing of the cache. -/
lemma keeps (h : CacheHeard m) (grown : Grown m m')
    (same : Quiet m.shared.state (m'.shared.state, []))
    (status : m'.shared.state.systemStatus = m.shared.state.systemStatus)
    (troubles : m'.shared.state.troubleFlags = m.shared.state.troubleFlags)
    (levels : m'.shared.state.acuJamLevels = m.shared.state.acuJamLevels)
    (codes : m'.shared.state.cmeErrors = m.shared.state.cmeErrors) : CacheHeard m' :=
  h.of_flags grown (h.flags_grown grown (Category.cell_quiet same)) status troubles levels codes

/-- The cells that a block writes have what its frame shows. -/
lemma flags_update (h : CacheHeard m) (grown : Grown m m') {category : Category}
    {result : StatesData} {emitAll : Bool} {config : Config}
    (heard : (StateUpdate.flags category result emitAll).Heard m)
    (stored : m'.shared.state =
      (category.update config m.shared.state result emitAll).1) : CacheHeard m' := by
  obtain ⟨frame, seen, hframe, hseen, parsed⟩ := heard
  have rest := category.update_eq config m.shared.state result emitAll
  refine h.of_flags grown ?_ ?_ ?_ ?_ ?_
  · intro category' i cell' inside hcell' read
    rw [stored] at hcell'
    have before {cell : FlagCell} (hcell : category'.cell m.shared.state i = some cell)
        (read : cell.readAt.isSome = true) :
        ∃ frame seen, FrameHeard m' frame ∧ ContextRead m' seen ∧
          category'.shows seen.config i frame = some cell.value := by
      obtain ⟨frame', seen', hframe', hseen', shown⟩ := h.flags category' i cell inside hcell read
      exact ⟨frame', seen', grown.frameHeard hframe', grown.contextRead hseen', shown⟩
    by_cases same : category' = category
    · subst same
      rw [category'.update_cell] at hcell'
      obtain ⟨cell, hcell, written⟩ := Option.map_eq_some_iff.mp hcell'
      cases bit : result.states[i]? with
      | none =>
        rw [bit, Option.elim_none] at written
        exact before (written ▸ hcell) read
      | some value =>
        rw [bit, Option.elim_some] at written
        have shown : category'.shows seen.config i frame = some value := by
          rw [category'.process_eq] at parsed
          cases accepted : category'.accepts frame with
          | false =>
            rw [accepted] at parsed
            cases parsed
          | true =>
            rw [accepted] at parsed
            cases parsed
            exact (category'.bits_getElem? seen.config accepted inside).symm.trans bit
        have value' : cell'.value = value := by
          rw [← written]
          exact observe_value ..
        exact ⟨frame, seen, grown.frameHeard hframe, grown.contextRead hseen, value' ▸ shown⟩
    · rw [category.update_other config m.shared.state result emitAll same] at hcell'
      exact before hcell' read
  all_goals
    rw [stored, rest]
    cases category <;> rfl

lemma systemStatus_update (h : CacheHeard m) (grown : Grown m m') {status : SystemStatus}
    {config : Config} (heard : (StateUpdate.systemStatus status).Heard m)
    (stored : m'.shared.state = (updateSystemStatusInternal config m.shared.state status).1) :
    CacheHeard m' := by
  obtain ⟨frame, seen, hframe, hseen, parsed⟩ := heard
  have quiet := updateSystemStatusInternal_quiet config m.shared.state status
  have after : m'.shared.state = m.shared.state ∨
      m'.shared.state = { m.shared.state with systemStatus := some status } := by
    rw [stored]
    dsimp only [updateSystemStatusInternal]
    split
    · exact .inr rfl
    · exact .inl rfl
  have flags := h.flags_grown grown fun category i =>
    (congrArg (category.cell · i) stored).trans (Category.cell_quiet quiet category i)
  rcases after with after | after
  · exact h.of_flags grown flags (by rw [after]) (by rw [after]) (by rw [after]) (by rw [after])
  · refine ⟨flags, ?_, ?_, ?_, ?_⟩
    · intro status' hstatus
      rw [after] at hstatus
      cases hstatus
      exact ⟨frame, seen, grown.frameHeard hframe, grown.contextRead hseen, parsed⟩
    · exact h.troubles.grown grown (by rw [after]; rfl)
    · exact h.levels.grown grown (by rw [after]; rfl)
    · exact h.codes.grown grown (by rw [after]; rfl)

lemma troubles_update (h : CacheHeard m) (grown : Grown m m') {items : List TroubleItem}
    {emitUnchanged : Bool} (heard : (StateUpdate.troubles items).Heard m)
    (stored : m'.shared.state = (updateTroubles emitUnchanged m.shared.state items).1) :
    CacheHeard m' := by
  obtain ⟨frame, cmd, hframe, decoded⟩ := heard
  have quiet := updateTroubles_quiet emitUnchanged m.shared.state items
  have flags := h.flags_grown grown fun category i =>
    (congrArg (category.cell · i) stored).trans (Category.cell_quiet quiet category i)
  refine ⟨flags, ?_, ?_, ?_, ?_⟩
  · intro status hstatus
    rw [stored, (updateTroubles_rest emitUnchanged items m.shared.state).2] at hstatus
    obtain ⟨frame', seen, hframe', hseen, parsed⟩ := h.status status hstatus
    exact ⟨frame', seen, grown.frameHeard hframe', grown.contextRead hseen, parsed⟩
  · exact h.troubles.store grown hframe decoded stored
  · exact h.levels.store grown hframe decoded stored
  · exact h.codes.store grown hframe decoded stored

/-- A block that stores what was heard leaves a cache of what was heard. -/
lemma update (h : CacheHeard m) (grown : Grown m m') {update : StateUpdate}
    (heard : update.Heard m) {config : Config}
    (stored : m'.shared.state = (update.apply config m.shared.state).1) : CacheHeard m' := by
  cases update with
  | flags category result emitAll => exact h.flags_update grown heard stored
  | systemStatus status => exact h.systemStatus_update grown heard stored
  | troubles items => exact h.troubles_update grown heard stored
  | integraVersion version =>
    apply h.keeps grown <;> rw [stored]
    exacts [⟨rfl, rfl, rfl, by simp⟩, rfl, rfl, rfl, rfl]
  | ethmVersion version =>
    apply h.keeps grown <;> rw [stored]
    exacts [⟨rfl, rfl, rfl, by simp⟩, rfl, rfl, rfl, rfl]
  | autoReadReport report =>
    apply h.keeps grown <;> rw [stored]
    exacts [⟨rfl, rfl, rfl, by simp⟩, rfl, rfl, rfl, rfl]
  | markStatistics =>
    apply h.keeps grown <;> rw [stored]
    exacts [⟨rfl, rfl, rfl, by simp⟩, rfl, rfl, rfl, rfl]

end CacheHeard
end Heard
/-! ### Tasks that keep both -/

section Tasks
variable (ι : Type) (env : StateSurroundings)

/-- A block stores what was heard, and apart from the blocks only neutral events are sent. -/
def stateContract : Contract ι StateOp StateOp.Answer StateWorld where
  exec := StateOp.exec env
  allowed _ _ _ := True
  Inv m := CacheTold m.shared.events m.shared.state ∧ CacheHeard m
  promise m _ op :=
    match op with
    | .underLock update => update.Heard m
    | .send event => event.Neutral
    | _ => True

variable {ι env}

lemma stateContract_keeps {m : StateMoment ι} {i : ι} {op : StateOp}
    (inv : (stateContract ι env).Inv m) (promised : (stateContract ι env).promise m i op) :
    (stateContract ι env).Inv (m.perform (StateOp.exec env) i op) := by
  obtain ⟨told, heard⟩ := inv
  have grown := @Grown.perform ι m (StateOp.exec env) i op
  cases op with
  | underLock update => exact ⟨told.update _ update, heard.update grown promised rfl⟩
  | send event =>
    exact ⟨told.send promised, heard.keeps grown ⟨rfl, rfl, rfl, by simp⟩ rfl rfl rfl rfl⟩
  | exchange data => exact ⟨told, heard.keeps grown ⟨rfl, rfl, rfl, by simp⟩ rfl rfl rfl rfl⟩
  | parseContext => exact ⟨told, heard.keeps grown ⟨rfl, rfl, rfl, by simp⟩ rfl rfl rfl rfl⟩
  | nextMessage => exact ⟨told, heard.keeps grown ⟨rfl, rfl, rfl, by simp⟩ rfl rfl rfl rfl⟩
  | swapConfig newConfig =>
    exact ⟨told, heard.keeps grown ⟨rfl, rfl, rfl, by simp⟩ rfl rfl rfl rfl⟩

/-- The call keeps the contract from here on. -/
abbrev Keeping (i : ι) {α : Type} (c : StateCall α) (m : StateMoment ι) : Prop :=
  (stateContract ι env).Safe i (fun _ _ => True) c m

lemma others_grown {i : ι} {m m' : StateMoment ι} (h : (stateContract ι env).Others i m m') :
    Grown m m' := by
  induction h with
  | refl => exact fun _ before => before
  | tail _ other ih =>
    obtain ⟨j, op, -, -, -, rfl⟩ := other
    exact fun event before => Grown.perform _ j op event (ih event before)

namespace Keeping
variable {i : ι} {m : StateMoment ι} {α β : Type}

/-- An operation that keeps its promise whatever happened since. -/
lemma step {op : StateOp} {rest : StateOp.Answer op → StateCall α}
    (promised : ∀ m', Grown m m' → (stateContract ι env).promise m' i op)
    (later : ∀ m', Grown m m' → @Keeping ι env i α (rest (StateOp.exec env op m'.shared).1)
      (m'.perform (StateOp.exec env) i op)) :
    @Keeping ι env i α (CallTree.perform op >>= rest) m := by
  intro m' others inv _
  have grown := others_grown others
  have keeps := promised m' grown
  exact ⟨keeps, stateContract_keeps inv keeps, later m' grown⟩

lemma store {update : StateUpdate} (heard : update.Heard m) {rest : SatelState → StateCall α}
    (later : ∀ left m', @Keeping ι env i α (rest left) m') :
    @Keeping ι env i α (StateCall.underLock update >>= rest) m :=
  step (fun _ grown => grown.heard heard) fun _ _ => later _ _

lemma send {event : SatelEvent} (neutral : event.Neutral) {rest : Unit → StateCall α}
    (later : ∀ m', @Keeping ι env i α (rest ()) m') :
    @Keeping ι env i α (StateCall.send event >>= rest) m :=
  step (fun _ _ => neutral) fun _ _ => later _

lemma send_only {event : SatelEvent} (neutral : event.Neutral) :
    @Keeping ι env i Unit (StateCall.send event) m :=
  @send ι env i m Unit event neutral pure fun _ => trivial

/-- A reply that comes was heard, and what it is parsed with was read. -/
lemma asked {data : Frame} {body : Frame → ParseContext → StateCall α}
    (later : ∀ m' reply seen, FrameHeard m' reply → ContextRead m' seen →
      @Keeping ι env i α (body reply seen) m') :
    @Keeping ι env i α (do
      let response ← StateCall.exchange data
      let seen ← StateCall.parseContext
      body response seen) m := by
  refine @step ι env i m α (.exchange data) _ (fun _ _ => trivial) fun m₁ _ => ?_
  cases answered : env.answer m₁.shared.asked data with
  | error e =>
    have none_came : (StateOp.exec env (.exchange data) m₁.shared).1 = .error e := answered
    rw [none_came]
    exact trivial
  | ok reply =>
    have came : (StateOp.exec env (.exchange data) m₁.shared).1 = .ok reply := answered
    rw [came]
    refine @step ι env i _ α .parseContext _ (fun _ _ => trivial) fun m₂ grown => ?_
    have heard : FrameHeard (m₁.perform (StateOp.exec env) i (.exchange data)) reply := by
      refine ⟨_, List.mem_cons_self, ?_⟩
      rw [came]
      rfl
    refine later _ reply _ ?_ ⟨i, List.mem_cons_self⟩
    exact (Grown.perform _ i .parseContext).frameHeard (grown.frameHeard heard)

lemma parsed {result : Except Panic (Except SatelError α)} {rest : α → StateCall β}
    (later : ∀ a, result = .ok (.ok a) → @Keeping ι env i β (rest a) m) :
    @Keeping ι env i β (StateCall.orReturn result >>= rest) m := by
  cases result with
  | error p => exact trivial
  | ok result =>
    cases result with
    | error e => exact trivial
    | ok a => exact later a rfl

lemma queryFlags (category : Category) (emitAll : Bool) :
    @Keeping ι env i Unit (StateCall.queryFlags category emitAll) m := by
  refine asked fun m' reply seen heard read => parsed fun result h => ?_
  have heard : (StateUpdate.flags category result emitAll).Heard m' :=
    ⟨reply, seen, heard, read, h⟩
  exact store heard fun _ _ => trivial

lemma getSystemStatus : @Keeping ι env i SystemStatus StateCall.getSystemStatus m := by
  refine asked fun m' reply seen heard read => parsed fun status h => ?_
  have heard : (StateUpdate.systemStatus status).Heard m' := ⟨reply, seen, heard, read, h⟩
  exact store heard fun _ _ => trivial

lemma getIntegraVersion : @Keeping ι env i IntegraVersion StateCall.getIntegraVersion m := by
  refine asked fun m' reply seen _ _ => parsed fun version _ => ?_
  have free : (StateUpdate.integraVersion version).Heard m' := trivial
  refine store free fun _ m' => ?_
  exact send ⟨rfl, rfl, rfl, rfl, rfl⟩ fun _ => trivial

lemma getEthmVersion : @Keeping ι env i EthmVersion StateCall.getEthmVersion m := by
  refine asked fun m' reply seen _ _ => parsed fun version _ => ?_
  have free : (StateUpdate.ethmVersion version).Heard m' := trivial
  refine store free fun _ m' => ?_
  exact send ⟨rfl, rfl, rfl, rfl, rfl⟩ fun _ => trivial

lemma tail_of_slice {frame data : Frame}
    (h : Except.ok <$> sliceFrom frame 1 =
      (.ok (.ok data) : Except Panic (Except SatelError Frame))) : data = frame.tail := by
  cases frame with
  | nil => cases h
  | cons first bytes =>
    rw [sliceFrom_cons_one] at h
    cases h
    rfl

lemma queryTroubles (cmd : SatelCommand) (process : LocalTime → Frame → Parsed α) :
    @Keeping ι env i α (StateCall.queryTroubles cmd process) m := by
  refine asked fun m' reply seen heard read => parsed fun value _ => ?_
  refine parsed fun data sliced => ?_
  cases tail_of_slice sliced
  refine parsed fun items decoded => ?_
  have heard : (StateUpdate.troubles items).Heard m' := ⟨reply, cmd.toByte, heard, decoded⟩
  exact store heard fun _ _ => trivial

lemma query (query : StateQuery) : @Keeping ι env i query.Value query.call m := by
  cases query with
  | flags category emitAll => exact queryFlags category emitAll
  | systemStatus => exact getSystemStatus
  | integraVersion => exact getIntegraVersion
  | ethmVersion => exact getEthmVersion
  | troubles query =>
    obtain ⟨process, call, -⟩ := StateQuery.call_troubles query
    rw [StateQuery.call, call]
    exact queryTroubles query.cmd process

lemma storeParsed {update : α → StateUpdate} {result : Except Panic (Except SatelError α)}
    (heard : ∀ a, result = .ok (.ok a) → (update a).Heard m) :
    @Keeping ι env i Unit (StateCall.storeParsed update result) m := by
  cases result with
  | error p => exact trivial
  | ok result =>
    cases result with
    | error e => exact trivial
    | ok a => exact store (heard a rfl) fun _ _ => trivial

/-- The context of a parser is read, and the frame was heard before. -/
lemma parseContext {frame : Frame} (heard : FrameHeard m frame) {body : ParseContext → StateCall α}
    (later : ∀ m' seen, FrameHeard m' frame → ContextRead m' seen →
      @Keeping ι env i α (body seen) m') :
    @Keeping ι env i α (StateCall.parseContext >>= body) m :=
  step (fun _ _ => trivial) fun _ grown =>
    later _ _ ((Grown.perform _ i .parseContext).frameHeard (grown.frameHeard heard))
      ⟨i, List.mem_cons_self⟩

lemma handleAutoFrame {frame : Frame} (heard : FrameHeard m frame) :
    @Keeping ι env i Unit (StateCall.handleAutoFrame frame) m := by
  rcases frame with _ | ⟨first, bytes⟩
  · exact trivial
  have call : StateCall.handleAutoFrame (first :: bytes) =
      StateCall.handleArm first (first :: bytes) := rfl
  rw [call]
  unfold StateCall.handleArm
  split
  · refine parseContext heard fun m' seen heard read => storeParsed fun result h => ?_
    exact ⟨_, seen, heard, read, h⟩
  split
  · refine parseContext heard fun m' seen heard read => storeParsed fun status h => ?_
    exact ⟨_, seen, heard, read, h⟩
  split
  · split
    · rename_i cmd named
      refine parsed fun data sliced => ?_
      cases tail_of_slice sliced
      exact storeParsed fun items decoded => ⟨_, cmd.toByte, heard, decoded⟩
    · exact trivial
  split
  · dsimp only
    split
    · exact send_only ⟨rfl, rfl, rfl, rfl, rfl⟩
    · exact trivial
  · exact trivial

lemma requesterTurn : @Keeping ι env i Unit StateCall.requesterTurn m := by
  refine @step ι env i m Unit .nextMessage _ (fun _ _ => trivial) fun m₁ _ => ?_
  cases next : env.message m₁.shared.messages with
  | frame frame =>
    have came : (StateOp.exec env .nextMessage m₁.shared).1 = .frame frame := next
    rw [came]
    refine handleAutoFrame ⟨_, List.mem_cons_self, ?_⟩
    rw [came]
    rfl
  | statusChanged state =>
    have came : (StateOp.exec env .nextMessage m₁.shared).1 = .statusChanged state := next
    rw [came]
    refine send ⟨rfl, rfl, rfl, rfl, rfl⟩ fun m' => ?_
    refine step (fun _ _ => trivial) fun m' _ => ?_
    refine store ?_ fun left m' => ?_
    · exact trivial
    · exact send_only ⟨rfl, rfl, rfl, rfl, rfl⟩
  | integraVersion version =>
    have came : (StateOp.exec env .nextMessage m₁.shared).1 = .integraVersion version := next
    rw [came]
    refine store ?_ fun _ _ => ?_
    · exact trivial
    · exact send_only ⟨rfl, rfl, rfl, rfl, rfl⟩
  | ethmVersion version =>
    have came : (StateOp.exec env .nextMessage m₁.shared).1 = .ethmVersion version := next
    rw [came]
    refine store ?_ fun _ _ => ?_
    · exact trivial
    · exact send_only ⟨rfl, rfl, rfl, rfl, rfl⟩
  | autoReadReport report =>
    have came : (StateOp.exec env .nextMessage m₁.shared).1 = .autoReadReport report := next
    rw [came]
    refine store ?_ fun _ _ => ?_
    · exact trivial
    · exact send_only ⟨rfl, rfl, rfl, rfl, rfl⟩

end Keeping

/-- What a task may run: a query, the three queries for the partition times, a turn of the loop of
the auto-requester, or the block of a reload. -/
inductive StateTask : StateCall Unit → Prop where
  | query (query : StateQuery) : StateTask (query.call >>= fun _ => pure ())
  | partitionsTimes (emitAll : Bool) : StateTask (StateCall.queryPartitionsTimes emitAll)
  | requester : StateTask StateCall.requesterTurn
  | reload (newConfig : Config) : StateTask (CallTree.perform (StateOp.swapConfig newConfig))

lemma stateTask_starts {c : StateCall Unit} (task : StateTask c) :
    (stateContract ι env).Starts c := by
  intro i m _
  cases task with
  | query query => exact (Keeping.query query).andThen fun _ _ => trivial
  | partitionsTimes emitAll =>
    refine (Keeping.queryFlags (.partitions .entryTime) emitAll).andThen fun _ m₁ => ?_
    refine (Keeping.queryFlags (.partitions .exitTimeGt10s) emitAll).andThen fun _ m₂ => ?_
    exact Keeping.queryFlags (.partitions .exitTimeLt10s) emitAll
  | requester => exact Keeping.requesterTurn
  | reload newConfig =>
    exact @Keeping.step ι env i m Unit (.swapConfig newConfig) pure (fun _ _ => trivial)
      fun _ _ => trivial

end Tasks

/-- In every interleaving of queries, the auto-requester and reloads, at every moment: a reader who
follows the events from a blank cache holds what the cache holds, everything in the cache is what
some frame of the panel had, and handling a frame with no other task in between is the routine
`handle_auto_frame` on the cache of that moment. -/
theorem cache_told_and_heard {ι : Type} [DecidableEq ι] (env : StateSurroundings) (config : Config)
    (start : Instant) {p : Pool ι StateOp StateOp.Answer Failure Unit StateWorld}
    (h : p.Reachable (StateOp.exec env) StateTask (fun _ _ _ => True) (.new config start)) :
    CacheTold p.moment.shared.events p.moment.shared.state ∧ CacheHeard p.moment ∧
      ∀ frame, StateCall.HandlesAs env p.moment.shared (StateCall.handleAutoFrame frame)
        (handleAutoFrame p.moment.shared.config p.moment.shared.state frame
          (env.clock p.moment.shared.clockReadings)) := by
  obtain ⟨told, heard⟩ := (stateContract ι env).invariant (fun _ task => stateTask_starts task)
    ⟨CacheTold.new start, CacheHeard.new config start⟩ h
  exact ⟨told, heard, StateCall.handleAutoFrame_run env p.moment.shared⟩

/-- A panel that answers with an alarm in the first partition, and pushes that there is none. -/
def alarmPanel : StateSurroundings where
  answer _ _ := .ok [0x13, 1, 0, 0, 0]
  message _ := .frame [0x13, 0, 0, 0, 0]
  clock _ := ⟨⟨0, Nat.zero_le _⟩, fun _ _ _ _ _ _ => none⟩

/-- The reply comes before the push and is stored after it: the cache keeps the older alarm. -/
theorem cache_told_and_heard_overtaken :
    ∃ p : Pool Bool StateOp StateOp.Answer Failure Unit StateWorld,
      (Category.partitions .alarm).cell p.moment.shared.state 0 = some ⟨true, some ⟨0, Nat.zero_le _⟩⟩ ∧
        CacheTold p.moment.shared.events p.moment.shared.state ∧ CacheHeard p.moment := by
  have idle : (Pool.idle (.new {} 0) : Pool Bool StateOp StateOp.Answer Failure Unit
      StateWorld).Reachable (StateOp.exec alarmPanel) StateTask (fun _ _ _ => True) (.new {} 0) :=
    .refl
  have asks := idle.start false _ (.query (.flags (.partitions .alarm) false)) rfl
  have hears := asks.start true _ .requester rfl
  -- the reply and its context, the whole turn of the auto-requester, the block of the query
  have run := hears.turns [false, false, true, true, true, false] (by decide)
  obtain ⟨told, heard, -⟩ := cache_told_and_heard alarmPanel {} 0 run
  exact ⟨_, rfl, told, heard⟩

end SatelIntegra
