import SatelIntegra.StatePaths
import SatelIntegra.WorkerFailures

/-!
# The states a subscriber sees

The worker reports every state it enters, and subscribers know its state from these
reports alone. In every run they form a path of one small diagram, each session is
preceded by the two states of its own attempt, and the last report is the state.
An attempt that got a reply it cannot use is left in its handshake, so that state,
too, is one in which the worker may wait.
-/

namespace SatelIntegra

open CheckedAccess ProgramLogic SatelConnectionWorker StatePaths

/-- The states that may follow each other. -/
def ConnectionState.next : ConnectionState → ConnectionState → Bool
  | .disconnected, .connecting => true
  | .connectionLost, .connecting | .connectionLost, .connectionLost
  | .connectionLost, .disconnected => true
  | .connecting, .handshake | .connecting, .connectionLost => true
  | .handshake, .connected | .handshake, .connectionLost | .handshake, .disconnected => true
  | .connected, .connectionLost | .connected, .disconnected => true
  | _, _ => false

/-- The reports of `log` lead from one state to the other. -/
abbrev Reaches (a : ConnectionState) (states : List ConnectionState) (b : ConnectionState) : Prop :=
  Path (fun s s' => s.next s' = true) a states b

/-- What the worker reported between `w` and `w'` leads from the one state to the other. -/
def FollowsDiagram (w w' : World) : Prop :=
  ∃ states, Reports w states w' ∧ Reaches w.connectionState states w'.connectionState

namespace FollowsDiagram
variable {w w' w'' : World}

lemma trans (h : FollowsDiagram w w') (h' : FollowsDiagram w' w'') : FollowsDiagram w w'' := by
  obtain ⟨states, reports, path⟩ := h
  obtain ⟨states', reports', path'⟩ := h'
  exact ⟨_, reports.trans reports', path.append path'⟩

/-- Nothing was reported. -/
lemma quiet (h : Reports w [] w') : FollowsDiagram w w' := by
  have same : w'.connectionState = w.connectionState := h.state_eq
  rw [FollowsDiagram, same]
  exact ⟨[], h, .nil _⟩

/-- One state was entered. -/
lemma enter {state : ConnectionState} (h : Reports w [state] w')
    (next : w.connectionState.next state = true) : FollowsDiagram w w' := by
  have entered : w'.connectionState = state := h.state_eq
  rw [FollowsDiagram, entered]
  exact ⟨[state], h, .single next⟩

end FollowsDiagram

section Losing

/-- At most losses were reported, however often. -/
def Loses (w w' : World) : Prop :=
  ∃ n, Reports w (List.replicate n .connectionLost) w'

variable {w w' : World}

lemma reaches_lost (state : ConnectionState) (n : Nat) (next : state.next .connectionLost = true) :
    Reaches state (List.replicate (n + 1) .connectionLost) .connectionLost := by
  induction n generalizing state with
  | zero => exact .single next
  | succ n ih => exact .cons next (ih .connectionLost rfl)

lemma Loses.follows (h : Loses w w') (next : w.connectionState.next .connectionLost = true) :
    FollowsDiagram w w' := by
  obtain ⟨n, reports⟩ := h
  cases n with
  | zero => exact .quiet reports
  | succ n =>
    have lost : w'.connectionState = .connectionLost := by
      rw [reports.state_eq, List.replicate_succ', List.foldl_append]
      rfl
    rw [FollowsDiagram, lost]
    exact ⟨_, reports, reaches_lost _ n next⟩

lemma Loses.state (h : Loses w w') :
    w'.connectionState = w.connectionState ∨ w'.connectionState = .connectionLost := by
  obtain ⟨n, reports⟩ := h
  cases n with
  | zero => exact .inl reports.state_eq
  | succ n =>
    right
    rw [reports.state_eq, List.replicate_succ', List.foldl_append]
    rfl

lemma Loses.none (h : Reports w [] w') : Loses w w' := ⟨0, h⟩

lemma Loses.one (h : Reports w [.connectionLost] w') : Loses w w' := ⟨1, h⟩

lemma Loses.trans {w w' w'' : World} (h : Loses w w') (h' : Loses w' w'') : Loses w w'' := by
  obtain ⟨n, reports⟩ := h
  obtain ⟨m, reports'⟩ := h'
  refine ⟨n + m, ?_⟩
  rw [← List.replicate_append_replicate]
  exact reports.trans reports'

lemma exchange_loses (data : Frame) (expectedCmd : UInt8) (writeTimeout readTimeout : Duration)
    (isPing : Bool) (w : World) :
    IfEnds (exchange data expectedCmd writeTimeout readTimeout isPing)
      (fun r w' => Loses w w' ∧ ((∃ frame, r = .ok frame) → Reports w [] w')) w := by
  refine wp_imp (exchange_reports data expectedCmd writeTimeout readTimeout isPing w) ?_
  intro r w' h
  split at h
  · obtain ⟨reports, -, -, e, rfl, -⟩ := h
    refine ⟨.one reports, ?_⟩
    rintro ⟨frame, ok⟩
    cases ok
  · exact ⟨.none h.1, fun _ => h.1⟩

/-- A step of an attempt that succeeds reports nothing, and one that fails reports losses. -/
def StepReports (r : Except SatelError Unit) (w w' : World) : Prop :=
  Loses w w' ∧ (r = .ok () → Reports w [] w')

lemma StepReports.failed {e : SatelError} (h : Loses w w') : StepReports (.error e) w w' := by
  constructor
  · exact h
  · intro ok
    cases ok

lemma queryVersion_steps {ν : Type} (command : SatelCommand) (expectedCmd : UInt8)
    (process : Frame → LocalTime → Parsed ν) (message : ν → StateWorkerMessage)
    (hmessage : ∀ version, (message version).status? = none) (connTimeout : Duration)
    (w : World) :
    IfEnds (queryVersion command expectedCmd process message connTimeout)
      (fun r w' => StepReports r w w') w := by
  rw [queryVersion, IfEnds, wp_bind]
  refine wp_imp (exchange_loses _ _ _ _ _ w) ?_
  rintro r w₁ ⟨losses, quiet⟩
  cases r with
  | error e =>
    simp only [wp_bind, wp_connectionLost, wp_pure]
    exact .failed (losses.trans (.one (.lose w₁)))
  | ok response =>
    have quiet := (quiet ⟨_, rfl⟩).trans (.interleave w₁)
    simp only [wp_bind, wp_localNow]
    cases (process response w₁.interleave.wall).run with
    | error panic => exact trivial
    | ok parsed =>
      cases parsed with
      | error e => exact ⟨.none quiet, fun _ => quiet⟩
      | ok version =>
        simp only [wp_lift_ok, wp_bind, wp_pure]
        refine wp_imp (notify_reports (hmessage version) _) ?_
        rintro _ w₂ ⟨sent, -⟩
        have quiet := quiet.trans sent
        exact ⟨.none quiet, fun _ => quiet⟩

lemma connectHandshake_steps (connTimeout : Duration) (w : World) :
    IfEnds (connectHandshake connTimeout) (fun r w' => StepReports r w w') w := by
  rw [connectHandshake, IfEnds, wp_bind]
  refine wp_imp (queryVersion_steps _ _ _ _ (fun _ => rfl) connTimeout w) ?_
  rintro r w₁ ⟨losses, quiet⟩
  cases r with
  | error e => exact .failed losses
  | ok _ =>
    rw [wp_bind]
    refine wp_imp (queryVersion_steps _ _ _ _ (fun _ => rfl) connTimeout w₁) ?_
    rintro r w₂ ⟨losses₂, quiet₂⟩
    cases r with
    | error e => exact .failed (losses.trans losses₂)
    | ok _ =>
      have all := (quiet rfl).trans (quiet₂ rfl)
      exact ⟨.none (all.trans_same rfl), fun _ => all.trans_same rfl⟩

lemma connectAutoReadIfEnabled_steps (connTimeout : Duration) (w : World) :
    IfEnds (connectAutoReadIfEnabled connTimeout) (fun r w' => StepReports r w w') w := by
  simp only [connectAutoReadIfEnabled, connectAutoRead, IfEnds, wp_bind, wp_readConfig, wp_ite,
    wp_pure]
  have looked : Reports w [] w.interleave := .interleave w
  constructor
  · intro _
    refine wp_imp (sendPushMask_reports connTimeout _) ?_
    intro r w₁ h
    cases r with
    | ok _ =>
      split at h
      · obtain ⟨-, -, -, e, ok⟩ := h
        cases ok
      · have quiet := looked.trans h.1
        exact ⟨.none quiet, fun _ => quiet⟩
    | error e =>
      have losses : Loses w w₁ := by
        split at h
        · exact .trans (.none looked) (.one h.1)
        · exact .trans (.none looked) (.none h.1)
      simp only [wp_bind, wp_connectionLost, wp_pure]
      exact .failed (losses.trans (.one (.lose w₁)))
  · intro _
    exact ⟨.none looked, fun _ => looked⟩

end Losing

section Turns
variable {w : World}

lemma connectOpened_follows (connTimeout : Duration) (handshake : w.connectionState = .handshake) :
    IfEnds (connectOpened connTimeout)
      (fun _ w' => FollowsDiagram w w' ∧ w'.connectionState ≠ .connecting) w := by
  have next : w.connectionState.next .connectionLost = true := by rw [handshake]; rfl
  have failed {w' : World} (h : Loses w w') :
      FollowsDiagram w w' ∧ w'.connectionState ≠ .connecting := by
    refine ⟨h.follows next, ?_⟩
    rcases h.state with same | lost
    · rw [same, handshake]
      decide
    · rw [lost]
      decide
  rw [connectOpened, IfEnds, wp_bind]
  refine wp_imp (connectHandshake_steps connTimeout w) ?_
  rintro r w₁ ⟨losses, quiet⟩
  cases r with
  | error e => exact failed losses
  | ok _ =>
    rw [wp_bind]
    refine wp_imp (connectAutoReadIfEnabled_steps connTimeout w₁) ?_
    rintro r w₂ ⟨losses₂, quiet₂⟩
    cases r with
    | error e => exact failed (losses.trans losses₂)
    | ok _ =>
      have quiet := (quiet rfl).trans (quiet₂ rfl)
      have still : w₂.connectionState = .handshake := quiet.state_eq.trans handshake
      rw [wp_bind]
      refine wp_imp (setStateConnected_ledger w₂) fun _ w₃ entered => ?_
      have connected : Reports w₂ [.connected] w₃ := ⟨_, _, entered.toReported, rfl⟩
      refine ⟨(FollowsDiagram.quiet quiet).trans (.enter connected (by rw [still]; rfl)), ?_⟩
      rw [show w₃.connectionState = .connected from connected.state_eq]
      decide

/-- An attempt made without a session. -/
lemma connect_follows
    (down : w.connectionState = .disconnected ∨ w.connectionState = .connectionLost) :
    IfEnds connect (fun _ w' => FollowsDiagram w w' ∧ w'.connectionState ≠ .connecting) w := by
  have next : w.connectionState.next .connecting = true := by
    rcases down with state | state <;> rw [state] <;> rfl
  rw [connect_eq, IfEnds, wp_bind]
  refine wp_imp (openTransport_reports w) ?_
  rintro opened w₁ (⟨e, rfl, states⟩ | ⟨connTimeout, rfl, states, -⟩)
  · have connecting : w₁.connectionState = .connecting := states.state_eq
    simp only [wp_bind, wp_connectionLost, wp_pure]
    have lost : Reports w₁ [.connectionLost] w₁.lose := .lose w₁
    refine ⟨(FollowsDiagram.enter states next).trans (.enter lost (by rw [connecting]; rfl)), ?_⟩
    rw [show w₁.lose.connectionState = .connectionLost from lost.state_eq]
    decide
  · have handshake : w₁.connectionState = .handshake := states.state_eq
    have opened : FollowsDiagram w w₁ := by
      rw [FollowsDiagram, handshake]
      exact ⟨_, states, .cons next (.single rfl)⟩
    refine wp_imp (connectOpened_follows connTimeout handshake) ?_
    rintro _ w₂ ⟨follows, idle⟩
    exact ⟨opened.trans follows, idle⟩

/-- In its handshake the worker waits for the watchdog. -/
lemma tick_of_handshake (shouldReconnect : Bool) (handshake : w.connectionState = .handshake) :
    IfEnds (tickBeforeAttempt shouldReconnect)
      (fun started w' => Loses w w' ∧ started = false) w := by
  have looked : w.interleave.telemetry.status.state = .handshake := by
    rw [interleave_status]
    exact handshake
  have before : Loses w w.interleave := .none (.interleave w)
  rw [tickBeforeAttempt, IfEnds, wp_bind, wp_readTelemetry]
  generalize w.interleave.telemetry.status = status at looked
  have watched : IfEnds (tickWatchdog status) (fun _ w' => Loses w w') w.interleave := by
    simp only [tickWatchdog, looked, or_true, if_true, IfEnds, wp_bind, wp_elapsedSince, wp_ite,
      wp_connectionLost, wp_pure]
    constructor
    · intro _
      exact before.trans (.one (.lose _))
    · intro _
      exact before
  rw [wp_bind]
  refine wp_imp watched fun _ w₁ losses => ?_
  simp only [tickPushMask, tickPing, reconnectDue, looked, reduceCtorEq, and_false, if_false,
    wp_bind, wp_readTelemetry, wp_pure]
  exact ⟨losses.trans (.none (.interleave w₁)), trivial⟩

/-- A stream there is can be lost. -/
lemma next_of_attached {state : ConnectionState} (attached : Attached state true) :
    state.next .connectionLost = true := by
  cases state with
  | disconnected => exact absurd (attached.2 (.inl rfl)) (by decide)
  | connectionLost => rfl
  | connecting => rfl
  | handshake => rfl
  | connected => rfl

/-- An attempt starts without a session, whoever asked for it. -/
lemma started_down (shouldReconnect enabled : Bool) (branch : Branch) (w : World) :
    IfEnds (branchBeforeAttempt shouldReconnect enabled branch)
      (fun started w' => started = true →
        w'.connectionState = .disconnected ∨ w'.connectionState = .connectionLost) w := by
  by_cases asked : branch = .message .connect
  · subst asked
    have free (s : ConnectionState) :
        (!(s == .connected || s == .connecting || s == .handshake)) = true →
          s = .disconnected ∨ s = .connectionLost := by
      cases s <;> decide
    simp only [branchBeforeAttempt, getCurrentState, IfEnds, wp_bind, wp_readTelemetry, wp_pure]
    exact free _
  · refine wp_imp (branch_mayReconnect shouldReconnect enabled asked) ?_
    intro started w' h on
    exact .inr (h on).lost

end Turns

/-- The log leads to the state, and no attempt is waiting for its transport. -/
structure Charted (w : World) : Prop where
  log : ∃ log, w.stateWorkerTx = some log ∧
    Reaches .disconnected (statuses log) w.connectionState
  idle : w.connectionState ≠ .connecting

namespace Charted
variable {w w' : World}

lemma follows (h : Charted w) (step : FollowsDiagram w w')
    (idle : w'.connectionState ≠ .connecting) : Charted w' := by
  obtain ⟨log, hlog, path⟩ := h.log
  obtain ⟨states, ⟨taken, sent, reported, rfl⟩, path'⟩ := step
  refine ⟨⟨log ++ sent, ?_, ?_⟩, idle⟩
  · rw [reported.log, hlog]
    rfl
  · rw [statuses_append]
    exact path.append path'

lemma receive (h : Charted w) (turn : Turn) : Charted (w.receive turn) := ⟨h.log, h.idle⟩

/-- What comes before the attempt of an iteration. -/
lemma branch (h : Charted w) (attached : Attached w.connectionState w.stream.isSome)
    (shouldReconnect enabled : Bool) (branch : Branch) :
    IfEnds (branchBeforeAttempt shouldReconnect enabled branch) (fun _ w' => Charted w') w := by
  by_cases waits : branch = .tick ∧ w.connectionState = .handshake
  · obtain ⟨rfl, handshake⟩ := waits
    refine wp_imp (tick_of_handshake shouldReconnect handshake) ?_
    rintro started w' ⟨losses, -⟩
    refine h.follows (losses.follows (by rw [handshake]; rfl)) ?_
    rcases losses.state with same | lost
    · rw [same]
      exact h.idle
    · rw [lost]
      decide
  · have settled : branch = .tick → w.connectionState.settled := by
      intro tick
      cases state : w.connectionState with
      | handshake => exact absurd ⟨tick, state⟩ waits
      | connecting => exact absurd state h.idle
      | _ => rfl
    refine wp_imp (branch_reports shouldReconnect enabled branch settled) ?_
    rintro started w' ((⟨states, -⟩ | ⟨states, stream, -⟩) | ⟨connected, states⟩)
    · refine h.follows (.quiet states) ?_
      rw [show w'.connectionState = w.connectionState from states.state_eq]
      exact h.idle
    · rw [stream] at attached
      refine h.follows (.enter states (next_of_attached attached)) ?_
      rw [show w'.connectionState = .connectionLost from states.state_eq]
      decide
    · have next : w.connectionState.next .disconnected = true := by
        cases state : w.connectionState with
        | disconnected => exact absurd state connected
        | connecting => exact absurd state h.idle
        | _ => rfl
      refine h.follows (.enter states next) ?_
      rw [show w'.connectionState = .disconnected from states.state_eq]
      decide

lemma turn (h : Charted w) (attached : Attached w.connectionState w.stream.isSome) (turn : Turn) :
    IfEnds (runLoopTurn turn) (fun _ w' => Charted w') w := by
  rw [runLoopTurn_eq, beforeAttempt, bind_assoc, IfEnds, wp_bind]
  refine wp_imp (beforeBranch_reports turn w) ?_
  rintro ⟨shouldReconnect, enabled⟩ w₁ ⟨states, stream⟩
  have state : w₁.connectionState = w.connectionState := states.state_eq
  have looked : Charted w₁ := (h.receive turn).follows (.quiet states) (state ▸ h.idle)
  have attached₁ : Attached w₁.connectionState w₁.stream.isSome := by
    rw [state, stream]
    exact attached
  rw [wp_bind]
  refine wp_imp (ifEnds_and (looked.branch attached₁ shouldReconnect enabled turn.branch)
    (started_down shouldReconnect enabled turn.branch w₁)) ?_
  rintro started w₂ ⟨before, down⟩
  cases started with
  | false => exact before
  | true =>
    simp only [runIf, attempt, if_true, wp_bind]
    refine wp_imp (connect_follows (down rfl)) ?_
    rintro _ w₃ ⟨follows, idle⟩
    exact before.follows follows idle

end Charted

/-- In every run, whenever the worker waits, what it reported is a path of the diagram from
`Disconnected` to its state, and every session came from a handshake of its own attempt. -/
theorem statuses_follow_diagram (first : Turn) (turns : List Turn) (config : Config)
    (clock : Instant) (wall : LocalTime) :
    IfEnds (run first turns)
      (fun _ w => ∃ log, w.stateWorkerTx = some log ∧
        Reaches .disconnected (statuses log) w.connectionState ∧ w.connectionState ≠ .connecting ∧
        (statuses log).count .connected ≤ (statuses log).count .handshake ∧
        (statuses log).count .handshake ≤ (statuses log).count .connecting)
      (.new config clock wall) := by
  suffices charted : IfEnds (run first turns) (fun _ w => Charted w) (.new config clock wall) by
    refine wp_imp charted fun _ w h => ?_
    obtain ⟨log, hlog, path⟩ := h.log
    have fromHandshake : ∀ s : ConnectionState, s.next .connected = true → s = .handshake := by
      intro s
      cases s <;> decide
    have fromConnecting : ∀ s : ConnectionState, s.next .handshake = true → s = .connecting := by
      intro s
      cases s <;> decide
    refine ⟨log, hlog, path, h.idle, ?_, ?_⟩
    · exact path.count_le fromHandshake
    · exact path.count_le fromConnecting
  let start : World := .new config clock wall
  have rest : AtRest 0 start.core := atRest_new config clock wall
  have fresh : Charted start := ⟨⟨[], rfl, .nil _⟩, by intro h; cases h⟩
  have first' : IfEnds (runConnect first) (fun _ w => Charted w ∧ ∃ ended, AtRest ended w.core)
      start := by
    have idle : Idle 0 (start.receive first).core := rest.idle (by intro h; cases h)
    rw [runConnect, IfEnds, wp_bind, wp_modify, wp_bind]
    refine wp_imp (ifEnds_and (connect_follows (.inl rfl)) (atRest_connect idle)) ?_
    rintro _ w ⟨⟨follows, idle⟩, rest⟩
    exact ⟨(fresh.receive first).follows follows idle, _, rest⟩
  have loop (turns : List Turn) (w : World) (h : Charted w ∧ ∃ ended, AtRest ended w.core) :
      IfEnds (runLoop turns) (fun _ w => Charted w ∧ ∃ ended, AtRest ended w.core) w := by
    induction turns generalizing w with
    | nil => exact h
    | cons turn turns ih =>
      obtain ⟨charted, ended, rest⟩ := h
      rw [runLoop, IfEnds, wp_bind]
      refine wp_imp (ifEnds_and (charted.turn rest.2 turn) (atRest_turn turn rest)) ?_
      rintro _ w' ⟨charted', rest'⟩
      exact ih w' ⟨charted', _, rest'⟩
  rw [run, IfEnds, wp_bind]
  refine wp_imp first' fun _ w h => ?_
  exact wp_imp (loop turns w h) fun _ _ h => h.1

end SatelIntegra
