import SatelIntegra.MaskConvergence
import SatelIntegra.WorkerAttempts

/-!
# The commands a stream carries

A client's command may arm a partition or switch an output, so it matters how often
it reaches the panel. The worker hands it to its stream once, when its turn comes,
and never again: not after a timeout, and not on the stream of a later connection. A
command answered with `NotConnected` or `MessageExpired` was not handed over at all.
-/

namespace SatelIntegra

open CheckedAccess ProgramLogic SatelConnectionWorker

/-- What the worker hands to its stream. -/
inductive Issue where
  | moduleVersion
  | integraVersion
  | mask (config : Config) (support14ByteMask : Bool)
  | ping
  | command (data : Frame)

namespace Issue

def frame : Issue → Frame
  | moduleVersion => [SatelCommand.moduleVersion.toByte]
  | integraVersion => [SatelCommand.integraVersion.toByte]
  | mask config support14ByteMask =>
    SatelCommand.listOfNewData.toByte :: connectBuildPushMask config support14ByteMask
  | ping => [SatelCommand.integraVersion.toByte]
  | command data => data

def command? : Issue → Option Frame
  | command data => some data
  | _ => none

/-- The queries of the handshake, which open a stream. -/
def opens : Issue → Bool
  | moduleVersion => true
  | integraVersion => true
  | _ => false

end Issue

/-- What the worker did: it ran an attempt, or it answered a message. -/
inductive Service where
  | attempted
  | answered (msg : InternalMessage) (response : Response)

/-- The command a message put on the wire, for the answer it got. -/
def InternalMessage.carried (msg : InternalMessage) : Response → Option Frame
  | .exchanged (.error .notConnected) => none
  | .exchanged (.error .messageExpired) => none
  | .exchanged _ => msg.command?
  | .done _ => none

/-- The commands put on the wire since the last attempt. -/
def Service.next (commands : List Frame) : Service → List Frame
  | attempted => []
  | answered msg response => commands ++ (msg.carried response).toList

def carriedSince (services : List Service) : List Frame := services.foldl Service.next []

/-- A branch with what it did. -/
def branchServices (shouldReconnect enabled : Bool) : Branch → Task (List Service)
  | .message .connect => do
    let state ← getCurrentState
    if state = .connected ∨ state = .connecting ∨ state = .handshake then
      return [.answered .connect (.done (.error .alreadyConnected))]
    else
      let result ← connect
      return [.attempted, .answered .connect (.done result)]
  | .message msg => do
    let response ← handleMessageInternal msg
    return [.answered msg response]
  | .push => do
    runBranch shouldReconnect enabled .push
    return []
  | .tick => do
    let started ← tickBeforeAttempt shouldReconnect
    runIf started attempt
    return if started then [.attempted] else []

def turnServices (turn : Turn) : Task (List Service) := do
  let (shouldReconnect, enabled) ← beforeBranch turn
  branchServices shouldReconnect enabled turn.branch

def loopServices : List Turn → Task (List Service)
  | [] => return []
  | turn :: turns => do
    let services ← turnServices turn
    let later ← loopServices turns
    return services ++ later

def runServices (first : Turn) (turns : List Turn) : Task (List Service) := do
  runConnect first
  let later ← loopServices turns
  return .attempted :: later

lemma runBranch_eq_services (shouldReconnect enabled : Bool) (branch : Branch) :
    runBranch shouldReconnect enabled branch =
      branchServices shouldReconnect enabled branch >>= fun _ => pure () := by
  cases branch with
  | push => simp only [branchServices, bind_assoc, pure_bind, bind_pure_unit]
  | tick =>
    simp only [branchServices, bind_assoc, pure_bind, bind_pure_unit]
    exact pingIntervalTick_eq shouldReconnect
  | message msg =>
    cases msg with
    | connect =>
      simp only [runBranch, handleMessageInternal, branchServices, bind_assoc, ite_bind, pure_bind]
    | _ => simp only [runBranch, branchServices, bind_assoc, pure_bind]

lemma runLoop_eq_services (turns : List Turn) :
    runLoop turns = loopServices turns >>= fun _ => pure () := by
  induction turns with
  | nil => rfl
  | cons turn turns ih =>
    simp only [runLoop, loopServices, turnServices, runLoopTurn_eq_branch, runBranch_eq_services,
      ih, bind_assoc, pure_bind]

/-- A run is the one with the services, which it forgets. -/
lemma run_eq_services (first : Turn) (turns : List Turn) :
    run first turns = runServices first turns >>= fun _ => pure () := by
  simp only [run, runServices, runLoop_eq_services, bind_assoc, pure_bind]

/-! ### Pieces that hand nothing over -/

/-- The stream is as it was or gone, and no session began. -/
structure Keeps (w w' : World) : Prop where
  stream : ∀ stream, w'.stream = some stream → w.stream = some stream
  session : w'.connectionState = .connected → w.connectionState = .connected

namespace Keeps
variable {w w' w'' : World}

lemma same (stream : w'.stream = w.stream) (state : w'.connectionState = w.connectionState) :
    Keeps w w' := by
  constructor
  · intro s hs
    rw [← stream, hs]
  · intro connected
    rw [← state, connected]

lemma refl (w : World) : Keeps w w := same rfl rfl

lemma trans (w w' w'' : World) (h : Keeps w w') (h' : Keeps w' w'') : Keeps w w'' := by
  constructor
  · intro s hs
    exact h.stream s (h'.stream s hs)
  · intro connected
    exact h.session (h'.session connected)

lemma interleave (w : World) : Keeps w w.interleave :=
  same (interleave_stream w) (interleave_connectionState w)

lemma lose (w : World) : Keeps w w.lose := by
  constructor
  · intro s hs
    rw [lose_stream] at hs
    cases hs
  · intro connected
    cases connected

lemma bind {α β : Type} {x : Task β} {f : β → Task α} (hx : Moves Keeps x)
    (hf : ∀ b, Moves Keeps (f b)) : Moves Keeps (x >>= f) := Moves.bind trans hx hf

lemma pure {α : Type} (a : α) : Moves Keeps (Pure.pure a : Task α) := refl

lemma get : Moves Keeps (MonadState.get : Task World) := refl

lemma lift {α : Type} (x : Except Panic α) : Moves Keeps (StateT.lift x : Task α) := by
  intro w
  cases x with
  | error panic => exact trivial
  | ok a => exact refl w

lemma readConfig : Moves Keeps readConfig := interleave

lemma readState : Moves Keeps readState := interleave

lemma readTelemetry : Moves Keeps readTelemetry := interleave

lemma localNow : Moves Keeps localNow := interleave

lemma getCurrentState : Moves Keeps getCurrentState := interleave

lemma swapAutoReadDirty (dirty : Bool) : Moves Keeps (swapAutoReadDirty dirty) := by
  intro w
  have looked := interleave w
  exact ⟨looked.stream, looked.session⟩

lemma elapsedSince (start : Instant) : Moves Keeps (elapsedSince start) := refl

lemma sleep (duration : Duration) : Moves Keeps (sleep duration) := fun _ => same rfl rfl

lemma notify (msg : StateWorkerMessage) : Moves Keeps (notifyStateWorker msg) :=
  fun _ => same rfl rfl

lemma resetMissedPings : Moves Keeps resetMissedPings := fun _ => same rfl rfl

lemma connectionLost : Moves Keeps connectionLost := lose

lemma count {f : World → ConnectionTelemetry → ConnectionTelemetry}
    (hf : ∀ u t, (f u t).status = t.status) : Moves Keeps (updateTelemetry f) := by
  intro w
  have looked := interleave w
  refine ⟨looked.stream, fun connected => looked.session ?_⟩
  exact (congrArg ConnectionStatus.state (hf w.interleave _)).symm.trans connected

lemma countTimeout : Moves Keeps countTimeout := count fun _ _ => rfl

lemma countIoError : Moves Keeps countIoError := count fun _ _ => rfl

lemma countRejected : Moves Keeps countRejected := count fun _ _ => rfl

lemma countNonPingFrame : Moves Keeps countNonPingFrame := count fun _ _ => rfl

lemma runIf {x : Task Unit} (hx : Moves Keeps x) (c : Bool) : Moves Keeps (runIf c x) := by
  cases c with
  | false => exact pure ()
  | true => exact hx

lemma routeFrame (expectedCmd : UInt8) (isPing : Bool) (frame : Frame) :
    Moves Keeps (routeFrame expectedCmd isPing frame) := by
  refine bind resetMissedPings fun _ => bind (lift _) fun first => ?_
  refine bind (runIf countRejected _) fun _ => ?_
  refine bind (runIf countNonPingFrame _) fun _ => ?_
  exact bind (runIf (notify _) _) fun _ => pure _

/-- A wait for the transport leaves the stream alone. -/
lemma waited {clock : Instant} {opens : List (Answer OpenOutcome)}
    {sends : List (Answer SendOutcome)} {reads : List (Answer ReadOutcome)} :
    Keeps w { w with clock := clock, opens := opens, sends := sends, reads := reads } :=
  same rfl rfl

lemma receiveReply (expectedCmd : UInt8) (readTimeout : Duration) (isPing : Bool) (start : Instant)
    (answers : List (Answer ReadOutcome)) :
    Moves Keeps (receiveReply expectedCmd readTimeout isPing start answers) := by
  induction answers with
  | nil => exact bind (fun _ => waited) fun _ => bind countTimeout fun _ => pure _
  | cons answer later ih =>
    refine bind (elapsedSince start) fun elapsed => Moves.ite ?_ ?_
    · refine bind ?_ fun _ => bind (fun _ => waited) fun _ => ?_
      · intro w
        simp only [unwrapStream, IfEnds, wp_bind, wp_get]
        cases w.stream with
        | none => exact trivial
        | some stream => exact refl w
      cases answer.outcome with
      | frame frame =>
        refine Moves.ite ih (bind (routeFrame expectedCmd isPing frame) fun isReply => ?_)
        exact Moves.ite (pure _) ih
      | failed => exact bind countIoError fun _ => bind connectionLost fun _ => pure _
      | closed => exact bind connectionLost fun _ => pure _
      | timedOut => exact bind countTimeout fun _ => pure _
    · exact bind countTimeout fun _ => pure _

lemma awaitSend (timeout : Duration) : Moves Keeps (awaitSend timeout) := by
  intro w
  simp only [SatelIntegra.awaitSend, IfEnds, wp_bind, wp_get]
  cases w.sends with
  | nil => exact sleep timeout w
  | cons answer later => exact waited

lemma awaitReply (expectedCmd : UInt8) (writeTimeout readTimeout : Duration) (isPing : Bool) :
    Moves Keeps (awaitReply expectedCmd writeTimeout readTimeout isPing) := by
  refine bind (awaitSend writeTimeout) fun outcome => ?_
  cases outcome with
  | sent =>
    refine bind (count fun _ _ => rfl) fun _ => bind get fun w => ?_
    exact receiveReply expectedCmd readTimeout isPing w.clock w.reads
  | failed => exact bind countIoError fun _ => bind connectionLost fun _ => pure _
  | timedOut => exact bind countTimeout fun _ => pure _

lemma tickWatchdog (status : ConnectionStatus) : Moves Keeps (tickWatchdog status) :=
  Moves.ite (bind (elapsedSince _) fun _ => Moves.ite connectionLost (pure _)) (pure _)

lemma handlePingTimeout : Moves Keeps handlePingTimeout := by
  refine bind (fun w => same rfl rfl) fun _ => bind readConfig fun _ => ?_
  exact bind get fun _ => pure _

lemma reconnectDue (shouldReconnect : Bool) (status : ConnectionStatus) :
    Moves Keeps (reconnectDue shouldReconnect status) := by
  refine Moves.ite (bind (elapsedSince _) fun _ => ?_) (pure _)
  refine bind (bind readTelemetry fun _ => pure _) fun _ => Moves.ite ?_ (pure _)
  exact bind (count fun _ _ => rfl) fun _ => pure _

lemma takePush : Moves Keeps takePush := by
  refine bind get fun w₀ => ?_
  cases w₀.stream with
  | none => exact pure _
  | some stream =>
    refine bind (fun w => ?_) fun outcome => ?_
    · simp only [awaitRead, IfEnds, wp_bind, wp_get]
      cases w.reads with
      | nil => exact sleep (millis 100) w
      | cons answer later => exact waited
    cases outcome with
    | frame frame => exact bind countNonPingFrame fun _ => bind (lift _) fun _ => pure _
    | failed => exact bind countIoError fun _ => pure _
    | closed => exact pure _
    | timedOut => exact pure _

lemma pushBranch : Moves Keeps pushBranch := by
  refine bind (bind takePush fun r => ?_) fun r => ?_
  · rcases r with e | ⟨received, _ | frame⟩
    · exact pure _
    · exact pure _
    · exact bind (notify _) fun _ => pure _
  · rcases r with e | received
    · exact connectionLost
    · cases received with
      | false => exact pure _
      | true => exact resetMissedPings

lemma beforeBranch (turn : Turn) : Moves Keeps (beforeBranch turn) := by
  refine bind (fun w => ?_) fun _ => bind readConfig fun _ => bind ?_ fun enabled => ?_
  · have received : Keeps w (w.receive turn) := same rfl rfl
    exact received
  · refine bind get fun _ => Moves.ite ?_ (pure _)
    exact bind getCurrentState fun _ => pure _
  · refine bind (runIf ?_ _) fun _ => pure _
    refine bind get fun _ => Moves.ite (bind takePush fun _ => pure _) (pure _)

end Keeps

/-! ### Pieces that hand something over -/

/-- An answer that a command may have after it was handed over. -/
def Tried : Except SatelError Frame → Prop
  | .error .notConnected => False
  | .error .messageExpired => False
  | _ => True

section Issues

lemma receiveReply_tried (expectedCmd : UInt8) (readTimeout : Duration) (isPing : Bool)
    (start : Instant) (answers : List (Answer ReadOutcome)) :
    Returns Tried (receiveReply expectedCmd readTimeout isPing start answers) := by
  induction answers with
  | nil => exact .last fun _ => .last fun _ => returns_pure trivial
  | cons answer later ih =>
    refine .last fun elapsed => Returns.ite ?_ ?_
    · refine .last fun _ => .last fun _ => ?_
      cases answer.outcome with
      | frame frame =>
        exact Returns.ite ih (.last fun isReply => Returns.ite (returns_pure trivial) ih)
      | failed => exact .last fun _ => .last fun _ => returns_pure trivial
      | closed => exact .last fun _ => returns_pure trivial
      | timedOut => exact .last fun _ => returns_pure trivial
    · exact .last fun _ => returns_pure trivial

lemma awaitReply_tried (expectedCmd : UInt8) (writeTimeout readTimeout : Duration) (isPing : Bool) :
    Returns Tried (awaitReply expectedCmd writeTimeout readTimeout isPing) := by
  refine .last fun outcome => ?_
  cases outcome with
  | sent => exact .last fun _ => .last fun w => receiveReply_tried _ _ _ _ _
  | failed => exact .last fun _ => .last fun _ => returns_pure trivial
  | timedOut => exact .last fun _ => returns_pure trivial

/-- A command was handed to the stream, which may be gone since. -/
def Hands (data : Frame) (w w' : World) : Prop :=
  ∃ stream, w.stream = some stream ∧ Keeps { w with stream := some (stream.issue data) } w'

/-- An exchange hands its command over once, or finds no stream. -/
lemma exchange_hands (data : Frame) (expectedCmd : UInt8) (writeTimeout readTimeout : Duration)
    (isPing : Bool) (w : World) :
    IfEnds (exchange data expectedCmd writeTimeout readTimeout isPing)
      (fun r w' => (r = .error .notConnected ∧ Keeps w w' ∧ w'.stream = none) ∨
        (Tried r ∧ Hands data w w')) w := by
  rw [exchange_eq, IfEnds, wp_bind, wp_get]
  cases hstream : w.stream with
  | none => exact .inl ⟨rfl, .refl w, hstream⟩
  | some stream =>
    simp only [wp_bind, wp_modify]
    have kept := Keeps.awaitReply expectedCmd writeTimeout readTimeout isPing
      { w with stream := some (stream.issue data) }
    have tried := awaitReply_tried expectedCmd writeTimeout readTimeout isPing
      { w with stream := some (stream.issue data) }
    refine wp_imp (ifEnds_and kept tried) fun r w' both => ?_
    exact .inr ⟨both.2, stream, hstream, both.1⟩

/-- What the stream carries: first queries of the handshake, all of them once there is a session,
then the commands, with masks and pings among them. -/
structure Carries (opening later : List Issue) (commands : List Frame) (w : World)
    (stream : FramedStream) : Prop where
  issued : stream.issued = (opening ++ later).map Issue.frame
  opened : opening <+: [.moduleVersion, .integraVersion]
  whole : w.connectionState = .connected → opening = [.moduleVersion, .integraVersion]
  others : ∀ issue ∈ later, issue.opens = false
  asked : later.filterMap Issue.command? = commands

/-- The commands, and no others, were handed to the current stream, in this order. -/
def HandedOver (opening : List Issue) (commands : List Frame) (w : World) : Prop :=
  ∀ stream, w.stream = some stream → ∃ later, Carries opening later commands w stream

namespace HandedOver
variable {opening : List Issue} {commands : List Frame} {w w' : World}

lemma detached (h : w.stream = none) : HandedOver opening commands w := by
  intro stream hs
  rw [h] at hs
  cases hs

lemma keeps (h : HandedOver opening commands w) (kept : Keeps w w') : HandedOver opening commands w' := by
  intro stream hs
  obtain ⟨later, carries⟩ := h stream (kept.stream stream hs)
  refine ⟨later, carries.issued, carries.opened, ?_, carries.others, carries.asked⟩
  intro connected
  exact carries.whole (kept.session connected)

/-- Something other than a query of the handshake was handed over. -/
lemma hands (h : HandedOver opening commands w) (issue : Issue) (other : issue.opens = false)
    (handed : Hands issue.frame w w') :
    HandedOver opening (commands ++ issue.command?.toList) w' := by
  obtain ⟨stream, attached, kept⟩ := handed
  refine keeps ?_ kept
  rintro _ ⟨⟩
  obtain ⟨later, carries⟩ := h stream attached
  refine ⟨later ++ [issue], ?_, carries.opened, carries.whole, ?_, ?_⟩
  · rw [FramedStream.issue, carries.issued]
    simp
  · intro i hi
    rcases List.mem_append.mp hi with old | new
    · exact carries.others i old
    · rw [List.mem_singleton.mp new]
      exact other
  · rw [List.filterMap_append, carries.asked]
    cases issue <;> rfl

variable {α : Type}

/-- Pieces that keep the stream keep what it carries. -/
lemma of_keeps {x : Task α} (hx : Moves Keeps x) : Preserves (HandedOver opening commands) x :=
  fun w h => wp_imp (hx w) fun _ _ kept => h.keeps kept

/-- An exchange of the worker's own leaves the commands as they are. -/
lemma exchange (issue : Issue) (other : issue.opens = false) (own : issue.command? = none)
    (expectedCmd : UInt8) (writeTimeout readTimeout : Duration) (isPing : Bool) :
    Preserves (HandedOver opening commands)
      (exchange issue.frame expectedCmd writeTimeout readTimeout isPing) := by
  intro w h
  refine wp_imp (exchange_hands _ _ _ _ _ w) fun r w' found => ?_
  rcases found with ⟨-, kept, -⟩ | ⟨-, handed⟩
  · exact h.keeps kept
  · have handed := h.hands issue other handed
    rw [own] at handed
    simpa using handed

lemma sendPushMask (connTimeout : Duration) :
    Preserves (HandedOver opening commands) (sendPushMask connTimeout) := by
  refine (of_keeps Keeps.readState).bind fun state => ?_
  refine (of_keeps Keeps.readConfig).bind fun config => ?_
  refine Preserves.bind (exchange (.mask config _) rfl rfl _ _ _ _) fun r => ?_
  cases r with
  | error e => exact preserves_pure _
  | ok response =>
    refine (of_keeps Keeps.readConfig).bind fun config => ?_
    refine (of_keeps (Keeps.lift _)).bind fun report => ?_
    exact (of_keeps (Keeps.notify _)).bind fun _ => preserves_pure _

lemma connectAutoReadIfEnabled (connTimeout : Duration) :
    Preserves (HandedOver opening commands) (connectAutoReadIfEnabled connTimeout) := by
  refine (of_keeps Keeps.readConfig).bind fun config => Preserves.ite ?_ (preserves_pure _)
  refine (sendPushMask connTimeout).bind fun r => ?_
  cases r with
  | error e => exact (of_keeps Keeps.connectionLost).bind fun _ => preserves_pure _
  | ok _ => exact preserves_pure _

lemma tickPushMask (status : ConnectionStatus) :
    Preserves (HandedOver opening commands) (tickPushMask status) := by
  refine Preserves.ite ((of_keeps (Keeps.swapAutoReadDirty _)).bind fun dirty => ?_)
    (preserves_pure _)
  refine Preserves.ite ((of_keeps Keeps.readConfig).bind fun config => ?_) (preserves_pure _)
  refine (sendPushMask _).bind fun r => ?_
  cases r with
  | error e => exact (of_keeps (Keeps.swapAutoReadDirty _)).bind fun _ => preserves_pure _
  | ok _ => exact preserves_pure _

lemma tickPing (status : ConnectionStatus) :
    Preserves (HandedOver opening commands) (tickPing status) := by
  refine (of_keeps Keeps.readTelemetry).bind fun _ => Preserves.ite ?_ (preserves_pure _)
  refine (of_keeps (Keeps.elapsedSince _)).bind fun _ => Preserves.ite ?_ (preserves_pure _)
  refine (exchange .ping rfl rfl _ _ _ _).bind fun r => ?_
  rcases r with e | frame
  · cases e with
    | timeout =>
      refine (of_keeps Keeps.handlePingTimeout).bind fun _ => ?_
      exact Preserves.ite (of_keeps Keeps.connectionLost) (preserves_pure _)
    | _ => exact preserves_pure _
  · exact preserves_pure _

lemma tickBeforeAttempt (shouldReconnect : Bool) :
    Preserves (HandedOver opening commands) (tickBeforeAttempt shouldReconnect) := by
  refine (of_keeps Keeps.readTelemetry).bind fun t => ?_
  refine (of_keeps (Keeps.tickWatchdog t.status)).bind fun _ => ?_
  refine (tickPushMask t.status).bind fun _ => (tickPing t.status).bind fun _ => ?_
  exact of_keeps (Keeps.reconnectDue _ _)

/-- With the whole handshake done a session may begin. -/
lemma setStateConnected :
    Preserves (HandedOver [.moduleVersion, .integraVersion] commands) setStateConnected := by
  intro w h stream hs
  have looked := Keeps.interleave { w with consecutiveMissedPings := 0 }
  obtain ⟨later, carries⟩ := h stream (looked.stream stream hs)
  exact ⟨later, carries.issued, carries.opened, fun _ => rfl, carries.others, carries.asked⟩

end HandedOver

/-! ### A connection attempt -/

/-- During the handshake the stream carries its queries only. -/
structure Opened (opening : List Issue) (w : World) : Prop where
  stream : ∀ stream, w.stream = some stream → stream.issued = opening.map Issue.frame
  idle : w.connectionState ≠ .connected

namespace Opened
variable {opening : List Issue} {w w' : World}

lemma keeps (h : Opened opening w) (kept : Keeps w w') : Opened opening w' :=
  ⟨fun stream hs => h.stream stream (kept.stream stream hs), mt kept.session h.idle⟩

lemma carried (h : Opened opening w) (queries : opening <+: [.moduleVersion, .integraVersion]) :
    HandedOver opening [] w := by
  intro stream hs
  refine ⟨[], ?_, queries, fun connected => absurd connected h.idle, by simp, rfl⟩
  rw [h.stream stream hs, List.append_nil]

/-- A query that fails in its exchange loses the stream; one whose reply cannot be used leaves the
stream as it is. -/
lemma queryVersion {ν : Type} (issue : Issue) {command : SatelCommand}
    (query : issue.frame = [command.toByte]) (expectedCmd : UInt8)
    (process : Frame → LocalTime → Parsed ν) (message : ν → StateWorkerMessage)
    (connTimeout : Duration) (h : Opened opening w) :
    IfEnds (queryVersion command expectedCmd process message connTimeout)
      (fun _ w' => Opened (opening ++ [issue]) w') w := by
  rw [SatelConnectionWorker.queryVersion, ← query, IfEnds, wp_bind]
  refine wp_imp (exchange_hands _ _ _ _ _ w) fun r w₁ found => ?_
  have asked : Opened (opening ++ [issue]) w₁ := by
    rcases found with ⟨-, kept, gone⟩ | ⟨-, stream, attached, kept⟩
    · refine ⟨fun s hs => ?_, mt kept.session h.idle⟩
      rw [gone] at hs
      cases hs
    · have issued : Opened (opening ++ [issue])
          { w with stream := some (stream.issue issue.frame) } := by
        refine ⟨?_, h.idle⟩
        rintro _ ⟨⟩
        rw [FramedStream.issue, h.stream stream attached, List.map_append]
        rfl
      exact issued.keeps kept
  have kept {x : Task (Except SatelError Unit)} (hx : Moves Keeps x) :
      IfEnds x (fun _ w' => Opened (opening ++ [issue]) w') w₁ :=
    wp_imp (hx w₁) fun _ _ kept => asked.keeps kept
  cases r with
  | error e => exact kept (Keeps.bind Keeps.connectionLost fun _ => Keeps.pure _)
  | ok response =>
    refine kept (Keeps.bind Keeps.localNow fun _ => Keeps.bind (Keeps.lift _) fun parsed => ?_)
    cases parsed with
    | error e => exact Keeps.pure _
    | ok version => exact Keeps.bind (Keeps.notify _) fun _ => Keeps.pure _

end Opened

/-- A stream without commands. -/
def Unused (w : World) : Prop := ∃ opening, HandedOver opening [] w

lemma connectOpened_unused (connTimeout : Duration) {w : World} (fresh : Opened [] w) :
    IfEnds (connectOpened connTimeout) (fun _ w' => Unused w') w := by
  rw [connectOpened, connectHandshake, IfEnds, wp_bind, wp_bind]
  refine wp_imp (fresh.queryVersion .moduleVersion rfl _ _ _ _) fun r w₁ first => ?_
  cases r with
  | error e => exact ⟨_, first.carried ⟨[.integraVersion], rfl⟩⟩
  | ok _ =>
    rw [wp_bind]
    refine wp_imp (first.queryVersion .integraVersion rfl _ _ _ _) fun r w₂ both => ?_
    have carried := both.carried List.prefix_rfl
    cases r with
    | error e => exact ⟨_, carried⟩
    | ok _ =>
      simp only [wp_bind, wp_sleep, wp_pure]
      have slept : HandedOver _ [] { w₂ with clock := w₂.clock + millis 100 } :=
        carried.keeps (.same rfl rfl)
      refine wp_imp (HandedOver.connectAutoReadIfEnabled connTimeout _ slept) fun r w₃ masked => ?_
      cases r with
      | error e => exact ⟨_, masked⟩
      | ok _ =>
        rw [wp_bind]
        exact wp_imp (HandedOver.setStateConnected w₃ masked) fun _ w₄ begun => ⟨_, begun⟩

lemma connect_unused (w : World) : IfEnds connect (fun _ w' => Unused w') w := by
  rw [connect, IfEnds, wp_bind]
  refine wp_imp (wp_trivial _) fun _ w₁ _ => ?_
  rw [wp_bind, wp_readConfig, wp_bind, wp_swapAutoReadDirty, wp_bind]
  refine wp_imp (connectPhysical_issued _ _) fun r w₂ fresh => ?_
  cases r with
  | error e => exact ⟨[], .detached (lose_stream w₂)⟩
  | ok stream =>
    simp only [setStateHandshake, wp_bind, wp_modify, wp_updateTelemetry, wp_notifyStateWorker,
      wp_sleep]
    refine connectOpened_unused _ ⟨?_, ConnectionState.noConfusion⟩
    intro s hs
    have attached := interleave_stream { w₂ with stream := some stream }
    obtain rfl : stream = s := Option.some.inj (attached.symm.trans hs)
    exact fresh stream rfl

lemma disconnect_detaches (w : World) : IfEnds disconnect (fun _ w' => w'.stream = none) w :=
  interleave_stream { w with stream := none, consecutiveMissedPings := 0 }

/-! ### Runs -/

/-- What the worker did since its start is what its stream carries. -/
def Agreed (services : List Service) (w : World) : Prop :=
  ∃ opening, HandedOver opening (carriedSince services) w

namespace Agreed
variable {services : List Service} {w w' : World}

lemma attempted (h : Unused w) : Agreed (services ++ [.attempted]) w := by
  rw [Agreed, carriedSince, List.foldl_append]
  exact h

lemma refused (h : Agreed services w) {msg : InternalMessage} {response : Response}
    (nothing : msg.carried response = none) : Agreed (services ++ [.answered msg response]) w := by
  rw [Agreed, carriedSince, List.foldl_append, List.foldl_cons, List.foldl_nil, Service.next,
    nothing, Option.toList_none, List.append_nil]
  exact h

lemma keeps (h : Agreed services w) (kept : Keeps w w') : Agreed services w' := by
  obtain ⟨opening, carried⟩ := h
  exact ⟨opening, carried.keeps kept⟩

/-- A message whose exchange was tried. -/
lemma exchanged {msg : InternalMessage} {data : Frame} (command : msg.command? = some data)
    {writeTimeout readTimeout : Duration} (h : Agreed services w) :
    IfEnds (exchange data (data.head?.getD 0) writeTimeout readTimeout false)
      (fun r w' => Agreed (services ++ [.answered msg (.exchanged r)]) w') w := by
  refine wp_imp (exchange_hands _ _ _ _ _ w) fun r w' found => ?_
  rcases found with ⟨rfl, kept, -⟩ | ⟨tried, handed⟩
  · exact refused (h.keeps kept) rfl
  · obtain ⟨opening, carried⟩ := h
    have carries : msg.carried (.exchanged r) = some data := by
      rcases r with e | frame
      · cases e <;> first | exact command | exact tried.elim
      · exact command
    refine ⟨opening, ?_⟩
    rw [carriedSince, List.foldl_append, List.foldl_cons, List.foldl_nil, Service.next, carries]
    exact carried.hands (.command data) rfl handed

/-- Each branch keeps the agreement, with what it did. -/
lemma branch (shouldReconnect enabled : Bool) (branch : Branch) (h : Agreed services w) :
    IfEnds (branchServices shouldReconnect enabled branch)
      (fun did w' => Agreed (services ++ did) w') w := by
  have looked : Agreed services w.interleave := h.keeps (.interleave w)
  cases branch with
  | push =>
    simp only [branchServices, runBranch, IfEnds, wp_bind, wp_pure, List.append_nil]
    exact wp_imp (Moves.ite Keeps.pushBranch (Keeps.pure _) w) fun _ _ kept => h.keeps kept
  | tick =>
    obtain ⟨opening, carried⟩ := h
    simp only [branchServices, IfEnds, wp_bind, wp_pure]
    refine wp_imp (HandedOver.tickBeforeAttempt shouldReconnect w carried) fun started w₁ ticked => ?_
    cases started with
    | false =>
      simp only [Bool.false_eq_true, if_false, List.append_nil]
      exact ⟨opening, ticked⟩
    | true =>
      simp only [runIf, attempt, if_true, wp_bind, wp_pure]
      exact wp_imp (connect_unused w₁) fun _ _ unused => attempted unused
  | message msg =>
    cases msg with
    | connect =>
      simp only [branchServices, getCurrentState, IfEnds, wp_bind, wp_readTelemetry, wp_pure,
        wp_ite]
      constructor
      · intro _
        exact looked.refused rfl
      · intro _
        refine wp_imp (connect_unused _) fun r w₁ unused => ?_
        have after : Agreed ((services ++ [.attempted]) ++ [.answered .connect (.done r)]) w₁ :=
          (attempted unused).refused rfl
        simpa using after
    | disconnect =>
      simp only [branchServices, handleMessageInternal, getCurrentState, IfEnds, wp_bind,
        wp_readTelemetry, wp_pure, wp_ite]
      constructor
      · intro _
        exact looked.refused rfl
      · intro _
        refine wp_imp (disconnect_detaches _) fun _ w₁ gone => ?_
        exact refused ⟨[], .detached gone⟩ rfl
    | exchangeStandard data writeTimeout readTimeout createdAt maxQueueTime =>
      simp only [branchServices, handleMessageInternal, getCurrentState, IfEnds, wp_bind,
        wp_readTelemetry, wp_elapsedSince, wp_pure, wp_ite]
      refine ⟨fun _ => looked.refused rfl, fun _ => ⟨fun _ => looked.refused rfl, fun _ => ?_⟩⟩
      exact looked.exchanged rfl
    | exchangePriority data writeTimeout readTimeout =>
      simp only [branchServices, handleMessageInternal, getCurrentState, IfEnds, wp_bind,
        wp_readTelemetry, wp_pure, wp_ite]
      constructor
      · intro _
        exact looked.refused rfl
      · intro _
        exact looked.exchanged rfl

lemma turn (turn : Turn) (h : Agreed services w) :
    IfEnds (turnServices turn) (fun did w' => Agreed (services ++ did) w') w := by
  rw [turnServices, IfEnds, wp_bind]
  refine wp_imp (Keeps.beforeBranch turn w) fun found w₁ kept => ?_
  exact (h.keeps kept).branch found.1 found.2 turn.branch

lemma loop (turns : List Turn) (h : Agreed services w) :
    IfEnds (loopServices turns) (fun did w' => Agreed (services ++ did) w') w := by
  induction turns generalizing services w with
  | nil =>
    rw [loopServices, IfEnds, wp_pure, List.append_nil]
    exact h
  | cons turn turns ih =>
    simp only [loopServices, IfEnds, wp_bind, wp_pure]
    refine wp_imp (h.turn turn) fun did w₁ agreed => ?_
    refine wp_imp (ih agreed) fun later w₂ final => ?_
    rw [← List.append_assoc]
    exact final

end Agreed

/-- In every run, whatever the panel, the transport and the clients do: between iterations the
stream, if there is one, carries the commands answered since the last attempt with anything but
`NotConnected` and `MessageExpired`, each once and in the order of the answers. Before them come
the queries of the handshake, all of them if there is a session; and only masks and pings are
among them. -/
theorem commands_handed_over_once (first : Turn) (turns : List Turn) (config : Config)
    (clock : Instant) (wall : LocalTime) :
    run first turns = runServices first turns >>= (fun _ => pure ()) ∧
      IfEnds (runServices first turns)
        (fun services w => ∃ opening, HandedOver opening (carriedSince services) w)
        (.new config clock wall) := by
  constructor
  · exact run_eq_services first turns
  · simp only [runServices, runConnect, IfEnds, wp_bind, wp_modify, wp_pure]
    refine wp_imp (connect_unused _) fun _ w₁ unused => ?_
    have begun : Agreed ([] ++ [.attempted]) w₁ := .attempted unused
    exact wp_imp (begun.loop turns) fun _ _ agreed => agreed

end Issues

end SatelIntegra
