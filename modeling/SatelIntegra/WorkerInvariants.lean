import SatelIntegra.WorkerSteps

/-!
# Properties that survive the waits of the worker

Between the writes that matter to a property, the worker waits, counts, reports,
issues commands of other kinds and may lose the connection, and other tasks run.
A property is `Enduring` if each of these alone keeps it; then every piece of the
worker made of them keeps it.
-/

namespace SatelIntegra

open CheckedAccess ProgramLogic SatelConnectionWorker

def StateWorkerMessage.isVersion : StateWorkerMessage → Bool
  | .integraVersion _ => true
  | .ethmVersion _ => true
  | _ => false

/-- The command sets the push mask. -/
def isMaskCommand (data : Frame) : Bool := data.head? == some 0x7F

def FramedStream.issue (stream : FramedStream) (data : Frame) : FramedStream :=
  { stream with issued := stream.issued ++ [data] }

structure Enduring (P : World → Prop) : Prop where
  interleave : ∀ w, P w → P w.interleave
  telemetry : ∀ w (f : ConnectionTelemetry → ConnectionTelemetry),
    (∀ t, (f t).status = t.status) → P w → P (w.mapTelemetry f)
  waited : ∀ w clock opens sends reads,
    P w → P { w with clock := clock, opens := opens, sends := sends, reads := reads }
  pings : ∀ w missed, P w → P { w with consecutiveMissedPings := missed }
  report : ∀ w (msg : StateWorkerMessage), msg.isVersion = false → P w →
    P { w with stateWorkerTx := w.stateWorkerTx.map (· ++ [msg]) }
  issue : ∀ w stream data, isMaskCommand data = false → w.stream = some stream → P w →
    P { w with stream := some (stream.issue data) }
  lose : ∀ w, P w → P w.lose

/-- What follows handing a command to the stream. -/
def SatelConnectionWorker.awaitReply (expectedCmd : UInt8) (writeTimeout readTimeout : Duration)
    (isPing : Bool) : Task (Except SatelError Frame) := do
  match ← awaitSend writeTimeout with
  | .sent =>
    updateTelemetry fun w t =>
      { t with
        nonPingFrames := if isPing then t.nonPingFrames else t.nonPingFrames + 1
        lastSendAt := w.clock }
    let w ← get
    receiveReply expectedCmd readTimeout isPing w.clock w.reads
  | .failed =>
    countIoError
    connectionLost
    return .error .io
  | .timedOut =>
    countTimeout
    return .error .timeout

/-- An exchange hands over the command and waits; without a stream it does nothing. -/
lemma exchange_eq (data : Frame) (expectedCmd : UInt8) (writeTimeout readTimeout : Duration)
    (isPing : Bool) :
    exchange data expectedCmd writeTimeout readTimeout isPing = (do
      match (← get).stream with
      | none => return .error .notConnected
      | some stream =>
        modify fun w => { w with stream := some (stream.issue data) }
        awaitReply expectedCmd writeTimeout readTimeout isPing) := by
  unfold exchange sendCommand awaitReply
  simp only [bind_assoc]
  refine bind_congr fun w => ?_
  cases w.stream with
  | none => rfl
  | some stream =>
    simp only [bind_assoc]
    refine bind_congr fun _ => bind_congr fun outcome => ?_
    cases outcome with
    | sent => simp only [bind_assoc, pure_bind]
    | failed => simp only [bind_assoc, pure_bind]
    | timedOut => simp only [bind_assoc, pure_bind]

namespace Enduring

section Combined
variable {P R : World → Prop}

lemma and (hP : Enduring P) (hR : Enduring R) : Enduring fun w => P w ∧ R w where
  interleave w h := ⟨hP.interleave w h.1, hR.interleave w h.2⟩
  telemetry w f hf h := ⟨hP.telemetry w f hf h.1, hR.telemetry w f hf h.2⟩
  waited w clock opens sends reads h :=
    ⟨hP.waited w clock opens sends reads h.1, hR.waited w clock opens sends reads h.2⟩
  pings w missed h := ⟨hP.pings w missed h.1, hR.pings w missed h.2⟩
  report w msg other h := ⟨hP.report w msg other h.1, hR.report w msg other h.2⟩
  issue w stream data other hstream h :=
    ⟨hP.issue w stream data other hstream h.1, hR.issue w stream data other hstream h.2⟩
  lose w h := ⟨hP.lose w h.1, hR.lose w h.2⟩

lemma or (hP : Enduring P) (hR : Enduring R) : Enduring fun w => P w ∨ R w where
  interleave w h := h.imp (hP.interleave w) (hR.interleave w)
  telemetry w f hf h := h.imp (hP.telemetry w f hf) (hR.telemetry w f hf)
  waited w clock opens sends reads h :=
    h.imp (hP.waited w clock opens sends reads) (hR.waited w clock opens sends reads)
  pings w missed h := h.imp (hP.pings w missed) (hR.pings w missed)
  report w msg other h := h.imp (hP.report w msg other) (hR.report w msg other)
  issue w stream data other hstream h :=
    h.imp (hP.issue w stream data other hstream) (hR.issue w stream data other hstream)
  lose w h := h.imp (hP.lose w) (hR.lose w)

end Combined

variable {P : World → Prop} (hP : Enduring P)
include hP

lemma readConfig : Preserves P readConfig := fun w h => hP.interleave w h

lemma readState : Preserves P readState := fun w h => hP.interleave w h

lemma readTelemetry : Preserves P readTelemetry := fun w h => hP.interleave w h

lemma localNow : Preserves P localNow := fun w h => hP.interleave w h

lemma getCurrentState : Preserves P getCurrentState :=
  hP.readTelemetry.bind fun _ => preserves_pure _

lemma updateTelemetry {f : World → ConnectionTelemetry → ConnectionTelemetry}
    (hf : ∀ w t, (f w t).status = t.status) : Preserves P (updateTelemetry f) :=
  fun w h => hP.telemetry _ _ (hf w.interleave) (hP.interleave w h)

lemma countTimeout : Preserves P countTimeout := hP.updateTelemetry fun _ _ => rfl

lemma countIoError : Preserves P countIoError := hP.updateTelemetry fun _ _ => rfl

lemma countRejected : Preserves P countRejected := hP.updateTelemetry fun _ _ => rfl

lemma countNonPingFrame : Preserves P countNonPingFrame := hP.updateTelemetry fun _ _ => rfl

omit hP in
lemma elapsedSince (start : Instant) : Preserves P (elapsedSince start) := fun _ h => h

lemma sleep (duration : Duration) : Preserves P (sleep duration) :=
  fun w h => hP.waited w (w.clock + duration) w.opens w.sends w.reads h

lemma resetMissedPings : Preserves P resetMissedPings := fun w h => hP.pings w 0 h

lemma notify {msg : StateWorkerMessage} (other : msg.isVersion = false) :
    Preserves P (notifyStateWorker msg) := fun w h => hP.report w msg other h

lemma connectionLost : Preserves P connectionLost := fun w h => hP.lose w h

omit hP in
lemma runIf {x : Task Unit} (hx : Preserves P x) (c : Bool) : Preserves P (runIf c x) := by
  cases c with
  | false => exact preserves_pure ()
  | true => exact hx

lemma routeFrame (expectedCmd : UInt8) (isPing : Bool) (frame : Frame) :
    Preserves P (routeFrame expectedCmd isPing frame) := by
  refine hP.resetMissedPings.bind fun _ => (preserves_lift _).bind fun first => ?_
  refine Preserves.bind (runIf hP.countRejected _) fun _ => ?_
  refine Preserves.bind (runIf hP.countNonPingFrame _) fun _ => ?_
  exact Preserves.bind (runIf (hP.notify rfl) _) fun _ => preserves_pure _

lemma receiveReply (expectedCmd : UInt8) (readTimeout : Duration) (isPing : Bool) (start : Instant)
    (answers : List (Answer ReadOutcome)) :
    Preserves P (receiveReply expectedCmd readTimeout isPing start answers) := by
  induction answers with
  | nil =>
    refine Preserves.bind ?_ fun _ => hP.countTimeout.bind fun _ => preserves_pure _
    exact fun w h => hP.waited w (max w.clock (start + readTimeout)) w.opens w.sends w.reads h
  | cons answer later ih =>
    refine Preserves.bind (elapsedSince start) fun elapsed => Preserves.ite ?_ ?_
    · refine Preserves.bind ?_ fun _ => Preserves.bind ?_ fun _ => ?_
      · intro w h
        unfold unwrapStream
        rw [IfEnds, wp_bind, wp_get]
        cases w.stream with
        | none => exact trivial
        | some stream => exact h
      · exact fun w h => hP.waited w (w.clock + answer.elapsed) w.opens w.sends later h
      cases answer.outcome with
      | frame frame =>
        refine Preserves.ite ih ((hP.routeFrame expectedCmd isPing frame).bind fun isReply => ?_)
        exact Preserves.ite (preserves_pure _) ih
      | failed =>
        exact hP.countIoError.bind fun _ => hP.connectionLost.bind fun _ => preserves_pure _
      | closed => exact hP.connectionLost.bind fun _ => preserves_pure _
      | timedOut => exact hP.countTimeout.bind fun _ => preserves_pure _
    · exact hP.countTimeout.bind fun _ => preserves_pure _

lemma awaitSend (timeout : Duration) : Preserves P (awaitSend timeout) := by
  intro w h
  unfold SatelIntegra.awaitSend
  rw [IfEnds, wp_bind, wp_get]
  cases w.sends with
  | nil => exact hP.waited w (w.clock + timeout) w.opens w.sends w.reads h
  | cons answer later => exact hP.waited w (w.clock + answer.elapsed) w.opens later w.reads h

lemma awaitReply (expectedCmd : UInt8) (writeTimeout readTimeout : Duration) (isPing : Bool) :
    Preserves P (awaitReply expectedCmd writeTimeout readTimeout isPing) := by
  refine (hP.awaitSend writeTimeout).bind fun outcome => ?_
  cases outcome with
  | sent =>
    refine Preserves.bind (hP.updateTelemetry fun _ _ => rfl) fun _ => ?_
    refine preserves_get.bind fun w => ?_
    exact hP.receiveReply expectedCmd readTimeout isPing w.clock w.reads
  | failed =>
    exact hP.countIoError.bind fun _ => hP.connectionLost.bind fun _ => preserves_pure _
  | timedOut => exact hP.countTimeout.bind fun _ => preserves_pure _

lemma exchange {data : Frame} (other : isMaskCommand data = false) (expectedCmd : UInt8)
    (writeTimeout readTimeout : Duration) (isPing : Bool) :
    Preserves P (exchange data expectedCmd writeTimeout readTimeout isPing) := by
  rw [exchange_eq]
  intro w h
  rw [IfEnds, wp_bind, wp_get]
  cases hstream : w.stream with
  | none => exact h
  | some stream =>
    rw [wp_bind, wp_modify]
    exact hP.awaitReply _ _ _ _ _ (hP.issue w stream data other hstream h)

lemma awaitOpen (timeout : Duration) : Preserves P (awaitOpen timeout) := by
  intro w h
  unfold SatelIntegra.awaitOpen
  rw [IfEnds, wp_bind, wp_get]
  cases w.opens with
  | nil => exact hP.sleep timeout w h
  | cons answer later => exact hP.waited w (w.clock + answer.elapsed) later w.sends w.reads h

lemma connectPhysical (connTimeout : Duration) : Preserves P (connectPhysical connTimeout) := by
  refine hP.readConfig.bind fun _ => hP.readConfig.bind fun _ => hP.readConfig.bind fun _ => ?_
  exact (hP.awaitOpen connTimeout).bind fun _ => preserves_pure _

lemma queryVersion {ν : Type} {command : SatelCommand}
    (other : isMaskCommand [command.toByte] = false) (expectedCmd : UInt8)
    (process : Frame → LocalTime → Parsed ν) {message : ν → StateWorkerMessage}
    (told : ∀ version, Preserves P (notifyStateWorker (message version))) (connTimeout : Duration) :
    Preserves P (queryVersion command expectedCmd process message connTimeout) := by
  refine (hP.exchange other _ _ _ _).bind fun r => ?_
  cases r with
  | error e => exact hP.connectionLost.bind fun _ => preserves_pure _
  | ok response =>
    refine hP.localNow.bind fun now => (preserves_lift _).bind fun parsed => ?_
    cases parsed with
    | error e => exact preserves_pure _
    | ok version => exact (told version).bind fun _ => preserves_pure _

/-- The handshake keeps what any report keeps. -/
lemma connectHandshake (told : ∀ msg, Preserves P (notifyStateWorker msg))
    (connTimeout : Duration) : Preserves P (connectHandshake connTimeout) := by
  refine Preserves.bind (hP.queryVersion rfl _ _ (fun _ => told _) _) fun r => ?_
  cases r with
  | error e => exact preserves_pure _
  | ok _ =>
    refine Preserves.bind (hP.queryVersion rfl _ _ (fun _ => told _) _) fun r => ?_
    cases r with
    | error e => exact preserves_pure _
    | ok _ => exact (hP.sleep _).bind fun _ => preserves_pure _

lemma tickWatchdog (status : ConnectionStatus) : Preserves P (tickWatchdog status) :=
  Preserves.ite
    ((elapsedSince _).bind fun _ => Preserves.ite hP.connectionLost (preserves_pure _))
    (preserves_pure _)

lemma handlePingTimeout : Preserves P handlePingTimeout := by
  refine Preserves.bind (fun w h => ?_) fun _ => hP.readConfig.bind fun _ => ?_
  · exact hP.pings w (saturatingSucc w.consecutiveMissedPings) h
  · exact preserves_get.bind fun _ => preserves_pure _

lemma tickPing (status : ConnectionStatus) : Preserves P (tickPing status) := by
  refine hP.readTelemetry.bind fun _ => Preserves.ite ?_ (preserves_pure _)
  refine (elapsedSince _).bind fun _ => Preserves.ite ?_ (preserves_pure _)
  refine (hP.exchange rfl _ _ _ _).bind fun r => ?_
  rcases r with e | frame
  · cases e with
    | timeout =>
      exact hP.handlePingTimeout.bind fun _ => Preserves.ite hP.connectionLost (preserves_pure _)
    | _ => exact preserves_pure _
  · exact preserves_pure _

lemma takePush : Preserves P takePush := by
  refine preserves_get.bind fun w₀ => ?_
  cases w₀.stream with
  | none => exact preserves_pure _
  | some stream =>
    refine Preserves.bind (fun w h => ?_) fun outcome => ?_
    · unfold awaitRead
      rw [IfEnds, wp_bind, wp_get]
      cases w.reads with
      | nil => exact hP.sleep (millis 100) w h
      | cons answer later => exact hP.waited w (w.clock + answer.elapsed) w.opens w.sends later h
    cases outcome with
    | frame frame =>
      exact hP.countNonPingFrame.bind fun _ => (preserves_lift _).bind fun _ => preserves_pure _
    | failed => exact hP.countIoError.bind fun _ => preserves_pure _
    | closed => exact preserves_pure _
    | timedOut => exact preserves_pure _

lemma pushBranch : Preserves P pushBranch := by
  refine Preserves.bind (hP.takePush.bind fun r => ?_) fun r => ?_
  · rcases r with e | ⟨received, _ | frame⟩
    · exact preserves_pure _
    · exact preserves_pure _
    · exact (hP.notify rfl).bind fun _ => preserves_pure _
  · rcases r with e | received
    · exact hP.connectionLost
    · cases received with
      | false => exact preserves_pure _
      | true => exact hP.resetMissedPings

lemma abandonPush : Preserves P abandonPush := by
  refine preserves_get.bind fun _ => Preserves.ite ?_ (preserves_pure _)
  exact hP.takePush.bind fun _ => preserves_pure _

/-- A message keeps what its exchange keeps. -/
lemma exchangeMessages {data : Frame}
    (asked : ∀ expectedCmd writeTimeout readTimeout isPing,
      Preserves P (SatelConnectionWorker.exchange data expectedCmd writeTimeout readTimeout isPing))
    (writeTimeout readTimeout : Duration) :
    (∀ createdAt maxQueueTime, Preserves P (handleMessageInternal
      (.exchangeStandard data writeTimeout readTimeout createdAt maxQueueTime))) ∧
      Preserves P (handleMessageInternal (.exchangePriority data writeTimeout readTimeout)) := by
  constructor
  · intro createdAt maxQueueTime
    refine hP.getCurrentState.bind fun _ => Preserves.ite (preserves_pure _) ?_
    refine (elapsedSince _).bind fun _ => Preserves.ite (preserves_pure _) ?_
    exact (asked _ _ _ _).bind fun _ => preserves_pure _
  · refine hP.getCurrentState.bind fun _ => Preserves.ite (preserves_pure _) ?_
    exact (asked _ _ _ _).bind fun _ => preserves_pure _

end Enduring

/-- An enduring property that the steps with writes of their own keep as well. -/
structure RunInvariant (P : World → Prop) : Prop extends Enduring P where
  connect : Preserves P connect
  disconnect : Preserves P disconnect
  tickPushMask : ∀ status, Preserves P (tickPushMask status)

namespace RunInvariant
variable {P : World → Prop} (hP : RunInvariant P)
include hP

lemma tickReconnect (shouldReconnect : Bool) (status : ConnectionStatus) :
    Preserves P (tickReconnect shouldReconnect status) := by
  refine Preserves.ite ((Enduring.elapsedSince _).bind fun _ => ?_) (preserves_pure _)
  refine Preserves.bind (hP.readTelemetry.bind fun _ => preserves_pure _) fun _ => ?_
  refine Preserves.ite ?_ (preserves_pure _)
  refine Preserves.bind (hP.updateTelemetry fun _ _ => rfl) fun _ => ?_
  exact hP.connect.bind fun _ => preserves_pure _

lemma pingIntervalTick (shouldReconnect : Bool) :
    Preserves P (pingIntervalTick shouldReconnect) := by
  refine hP.readTelemetry.bind fun t => ?_
  refine (hP.tickWatchdog t.status).bind fun _ => ?_
  refine (hP.tickPushMask t.status).bind fun _ => ?_
  exact (hP.tickPing t.status).bind fun _ => hP.tickReconnect _ _

lemma connectMessage : Preserves P (handleMessageInternal .connect) := by
  refine hP.getCurrentState.bind fun _ => Preserves.ite (preserves_pure _) ?_
  exact hP.connect.bind fun _ => preserves_pure _

lemma disconnectMessage : Preserves P (handleMessageInternal .disconnect) := by
  refine hP.getCurrentState.bind fun _ => Preserves.ite (preserves_pure _) ?_
  exact hP.disconnect.bind fun _ => preserves_pure _

/-- An iteration keeps what its message and what comes during it keep. -/
lemma runLoopTurn {turn : Turn} (receive : ∀ w, P w → P (w.receive turn))
    (message : ∀ msg, turn.branch = .message msg → Preserves P (handleMessageInternal msg)) :
    Preserves P (runLoopTurn turn) := by
  have branch (shouldReconnect enabled : Bool) :
      Preserves P (runBranch shouldReconnect enabled turn.branch) := by
    cases hbranch : turn.branch with
    | message msg => exact (message msg hbranch).bind fun _ => preserves_pure _
    | push => exact Preserves.ite hP.pushBranch (preserves_pure _)
    | tick => exact hP.pingIntervalTick shouldReconnect
  refine Preserves.bind receive fun _ => ?_
  refine hP.readConfig.bind fun config => Preserves.bind ?_ fun enabled => ?_
  · refine preserves_get.bind fun _ => Preserves.ite ?_ (preserves_pure _)
    exact hP.getCurrentState.bind fun _ => preserves_pure _
  · exact (Enduring.runIf hP.abandonPush _).bind fun _ => branch config.autoReconnect enabled

lemma runLoop {turns : List Turn} (receive : ∀ turn ∈ turns, ∀ w, P w → P (w.receive turn))
    (messages : ∀ turn ∈ turns, ∀ msg, turn.branch = .message msg →
      Preserves P (handleMessageInternal msg)) : Preserves P (runLoop turns) := by
  induction turns with
  | nil => exact preserves_pure ()
  | cons turn turns ih =>
    have received := receive turn List.mem_cons_self
    refine (hP.runLoopTurn received (messages turn List.mem_cons_self)).bind fun _ => ?_
    exact ih (fun later mem => receive later (List.mem_cons_of_mem _ mem))
      fun later mem => messages later (List.mem_cons_of_mem _ mem)

lemma run (first : Turn) {turns : List Turn}
    (receive : ∀ turn ∈ first :: turns, ∀ w, P w → P (w.receive turn))
    (messages : ∀ turn ∈ turns, ∀ msg, turn.branch = .message msg →
      Preserves P (handleMessageInternal msg)) : Preserves P (run first turns) := by
  refine Preserves.bind (Preserves.bind (receive first List.mem_cons_self) fun _ => ?_) fun _ => ?_
  · exact hP.connect.bind fun _ => preserves_pure _
  · exact hP.runLoop (fun turn mem => receive turn (List.mem_cons_of_mem _ mem)) messages

end RunInvariant

/-- An enduring property that every other write of the worker keeps too. Of a new stream it needs
only what opening it tells. -/
structure Standing (P : World → Prop) : Prop extends Enduring P where
  write : ∀ w (state : SatelState), P w → P { w with state := state }
  mark : ∀ w dirty, P w → P { w with autoReadDirty := dirty }
  tell : ∀ w (msg : StateWorkerMessage), P w →
    P { w with stateWorkerTx := w.stateWorkerTx.map (· ++ [msg]) }
  ask : ∀ w stream data, w.stream = some stream → P w →
    P { w with stream := some (stream.issue data) }
  detach : ∀ w, P w → P { w with stream := none }
  attach : ∀ connTimeout w, P w → IfEnds (connectPhysical connTimeout)
    (fun r w' => ∀ stream, r = .ok stream → P { w' with stream := some stream }) w

namespace Standing
variable {P : World → Prop} (hP : Standing P)
include hP

lemma told (msg : StateWorkerMessage) : Preserves P (notifyStateWorker msg) :=
  fun w h => hP.tell w msg h

lemma swapAutoReadDirty (dirty : Bool) : Preserves P (swapAutoReadDirty dirty) :=
  fun w h => hP.mark _ dirty (hP.interleave w h)

lemma enter (f : World → ConnectionTelemetry → ConnectionTelemetry) (state : ConnectionState) :
    Preserves P (do
      updateTelemetry f
      notifyStateWorker (.statusChanged state)) :=
  Preserves.bind (fun w h => hP.write _ _ (hP.interleave w h)) fun _ => hP.told _

lemma exchange (data : Frame) (expectedCmd : UInt8) (writeTimeout readTimeout : Duration)
    (isPing : Bool) :
    Preserves P (exchange data expectedCmd writeTimeout readTimeout isPing) := by
  rw [exchange_eq]
  intro w h
  rw [IfEnds, wp_bind, wp_get]
  cases hstream : w.stream with
  | none => exact h
  | some stream =>
    rw [wp_bind, wp_modify]
    exact hP.awaitReply _ _ _ _ _ (hP.ask w stream data hstream h)

lemma sendPushMask (connTimeout : Duration) : Preserves P (sendPushMask connTimeout) := by
  refine hP.readState.bind fun _ => hP.readConfig.bind fun _ => ?_
  refine (hP.exchange _ _ _ _ _).bind fun r => ?_
  cases r with
  | error e => exact preserves_pure _
  | ok response =>
    refine hP.readConfig.bind fun _ => (preserves_lift _).bind fun _ => ?_
    exact (hP.told _).bind fun _ => preserves_pure _

lemma connectOpened (connTimeout : Duration) : Preserves P (connectOpened connTimeout) := by
  refine (hP.connectHandshake hP.told _).bind fun r => ?_
  cases r with
  | error e => exact preserves_pure _
  | ok _ =>
    refine Preserves.bind (hP.readConfig.bind fun _ => ?_) fun r => ?_
    · refine Preserves.ite ((hP.sendPushMask connTimeout).bind fun r => ?_) (preserves_pure _)
      cases r with
      | error e => exact hP.connectionLost.bind fun _ => preserves_pure _
      | ok _ => exact preserves_pure _
    · cases r with
      | error e => exact preserves_pure _
      | ok _ =>
        refine Preserves.bind (hP.resetMissedPings.bind fun _ => ?_) fun _ => preserves_pure _
        refine Preserves.bind (fun w h => hP.interleave w h) fun _ => ?_
        exact Preserves.bind (fun w h => hP.write w _ h) fun _ => hP.told _

lemma connect : Preserves P connect := by
  refine (hP.enter _ _).bind fun _ => hP.readConfig.bind fun _ => ?_
  refine (hP.swapAutoReadDirty false).bind fun _ => ?_
  intro w h
  rw [IfEnds, wp_bind]
  refine wp_imp (ifEnds_and (hP.connectPhysical _ w h) (hP.attach _ w h)) ?_
  rintro r w' ⟨kept, attached⟩
  cases r with
  | error e => exact hP.connectionLost.bind (fun _ => preserves_pure _) w' kept
  | ok stream =>
    rw [wp_bind, wp_modify]
    refine Preserves.bind (hP.enter _ _) (fun _ => ?_) _ (attached stream rfl)
    exact (hP.sleep _).bind fun _ => hP.connectOpened _

lemma disconnect : Preserves P disconnect := by
  refine Preserves.bind (Preserves.bind (fun w h => hP.detach w h) fun _ => ?_) fun _ => hP.enter _ _
  exact hP.resetMissedPings

lemma tickPushMask (status : ConnectionStatus) : Preserves P (tickPushMask status) := by
  refine Preserves.ite ((hP.swapAutoReadDirty false).bind fun dirty => ?_) (preserves_pure _)
  refine Preserves.ite (hP.readConfig.bind fun _ => ?_) (preserves_pure _)
  refine (hP.sendPushMask _).bind fun r => ?_
  cases r with
  | error e => exact (hP.swapAutoReadDirty true).bind fun _ => preserves_pure _
  | ok _ => exact preserves_pure _

lemma runInvariant : RunInvariant P where
  toEnduring := hP.toEnduring
  connect := hP.connect
  disconnect := hP.disconnect
  tickPushMask := hP.tickPushMask

lemma handleMessage (msg : InternalMessage) : Preserves P (handleMessageInternal msg) := by
  cases msg with
  | exchangeStandard data writeTimeout readTimeout createdAt maxQueueTime =>
    exact (hP.exchangeMessages (hP.exchange data) _ _).1 _ _
  | exchangePriority data writeTimeout readTimeout =>
    exact (hP.exchangeMessages (hP.exchange data) _ _).2
  | connect => exact hP.runInvariant.connectMessage
  | disconnect => exact hP.runInvariant.disconnectMessage

/-- A run keeps what comes during it keeps. -/
lemma run (first : Turn) {turns : List Turn}
    (receive : ∀ turn ∈ first :: turns, ∀ w, P w → P (w.receive turn)) :
    Preserves P (run first turns) :=
  hP.runInvariant.run first receive fun _ _ msg _ => hP.handleMessage msg

end Standing
end SatelIntegra
