import SatelIntegra.SystemParsers
import SatelIntegra.World

/-!
# The connection worker

`SatelCommunicationWorker`: the exchange of a command, the steps of a connection
attempt, and the event loop. A `Result` of the source is a returned value, so that
an early exit keeps the changes made before it; a panic ends the task.
-/

namespace SatelIntegra

open CheckedAccess ProgramLogic

def countIoError : Task Unit :=
  updateTelemetry fun _ t => { t with ioErrors := t.ioErrors + 1 }

def countTimeout : Task Unit :=
  updateTelemetry fun _ t => { t with timeouts := t.timeouts + 1 }

def countRejected : Task Unit :=
  updateTelemetry fun _ t => { t with rejectedByPanel := t.rejectedByPanel + 1 }

def countNonPingFrame : Task Unit :=
  updateTelemetry fun _ t => { t with nonPingFrames := t.nonPingFrames + 1 }

def getCurrentState : Task ConnectionState := do
  return (← readTelemetry).status.state

def resetMissedPings : Task Unit :=
  modify fun w => { w with consecutiveMissedPings := 0 }

/-- `saturating_add(1)` -/
def saturatingSucc (n : UInt32) : UInt32 := if n = 0xFFFFFFFF then n else n + 1

def handlePingTimeout : Task Bool := do
  modify fun w => { w with consecutiveMissedPings := saturatingSucc w.consecutiveMissedPings }
  let max := (← readConfig).maxMissedPings
  return max > 0 && (← get).consecutiveMissedPings ≥ max

def setStateConnecting : Task Unit := do
  updateTelemetry fun w t =>
    { t with status := { t.status with state := .connecting, lastEventAt := w.clock } }
  notifyStateWorker (.statusChanged .connecting)

def setStateHandshake : Task Unit := do
  updateTelemetry fun w t =>
    { t with status := { t.status with state := .handshake, lastEventAt := w.clock } }
  notifyStateWorker (.statusChanged .handshake)

def ConnectionConfig.connectionType : ConnectionConfig → ConnectionType
  | .tcp host port => .tcp host port
  | .uart path _ => .uart path

/-- The fields `set_state_connected` writes under one lock of the state. -/
def enterConnected (w : World) : World :=
  { w with
    state :=
      { w.state with
        telemetry :=
          { w.telemetry with
            connectionsEstablished := w.telemetry.connectionsEstablished + 1
            connectedSince := some w.wall
            status := { state := .connected, lastEventAt := w.clock, failedAttempts := 0 }
            lastConnectedAt := some w.wall }
        connectionType := some w.config.connection.connectionType } }

def setStateConnected : Task Unit := do
  resetMissedPings
  modify World.interleave
  modify enterConnected
  notifyStateWorker (.statusChanged .connected)

/-- `if let Some(since) = connected_since.take() { .. }` -/
def closeSession (now : LocalTime) (t : ConnectionTelemetry) : ConnectionTelemetry :=
  match t.connectedSince with
  | some since =>
    { t with
      connectedSince := none
      totalConnectedBefore := saturatingAdd t.totalConnectedBefore (now.since since) }
  | none => t

/-- The failure count wraps, as in a release build. -/
def enterConnectionLost (w : World) (t : ConnectionTelemetry) : ConnectionTelemetry :=
  let t :=
    if t.status.state = .connected then
      closeSession w.wall { t with connectionsLost := t.connectionsLost + 1 }
    else t
  { t with
    status :=
      { state := .connectionLost
        lastEventAt := w.clock
        failedAttempts := t.status.failedAttempts + 1 } }

def enterDisconnected (w : World) (t : ConnectionTelemetry) : ConnectionTelemetry :=
  { closeSession w.wall t with
    status := { state := .disconnected, lastEventAt := w.clock, failedAttempts := 0 } }

def dropStream : Task Unit := do
  modify fun w => { w with stream := none }
  resetMissedPings

namespace SatelConnectionWorker

def connectionLost : Task Unit := do
  dropStream
  updateTelemetry enterConnectionLost
  notifyStateWorker (.statusChanged .connectionLost)

def disconnect : Task Unit := do
  dropStream
  updateTelemetry enterDisconnected
  notifyStateWorker (.statusChanged .disconnected)

/-- The first half of `exchange`: hand the command to the stream. -/
def sendCommand (data : Frame) (writeTimeout : Duration) (isPing : Bool) :
    Task (Except SatelError Unit) := do
  match (← get).stream with
  | none => return .error .notConnected
  | some stream =>
    modify fun w => { w with stream := some { stream with issued := stream.issued ++ [data] } }
    match ← awaitSend writeTimeout with
    | .sent =>
      updateTelemetry fun w t =>
        { t with
          nonPingFrames := if isPing then t.nonPingFrames else t.nonPingFrames + 1
          lastSendAt := w.clock }
      return .ok ()
    | .failed =>
      countIoError
      connectionLost
      return .error .io
    | .timedOut =>
      countTimeout
      return .error .timeout

/-- What the loop does with a frame that is not empty; `true` if the frame is the reply. -/
def routeFrame (expectedCmd : UInt8) (isPing : Bool) (frame : Frame) : Task Bool := do
  resetMissedPings
  let first ← StateT.lift (index frame 0)
  let isResultCode := first == 0xEF
  let isAccepted := isResultCode && frame[1]? == some 0xFF
  runIf (isResultCode && !isAccepted) countRejected
  let isTargetResponse := first == expectedCmd || first == 0xEF
  runIf (!isPing || !isTargetResponse) countNonPingFrame
  let isNameResponseEf := expectedCmd == 0xEE && isResultCode
  runIf ((first != expectedCmd || isResultCode) && !isAccepted && !isNameResponseEf)
    (notifyStateWorker (.frame frame))
  return first == expectedCmd || first == 0xEF

/-- The receive loop, over the answers the transport has yet to give. -/
def receiveReply (expectedCmd : UInt8) (readTimeout : Duration) (isPing : Bool) (start : Instant) :
    List (Answer ReadOutcome) → Task (Except SatelError Frame)
  | [] => do
    modify fun w => { w with clock := max w.clock (start + readTimeout) }
    countTimeout
    return .error .timeout
  | answer :: later => do
    if (← elapsedSince start) < readTimeout then
      let _ ← unwrapStream
      modify fun w => { w with reads := later, clock := w.clock + answer.elapsed }
      match answer.outcome with
      | .frame frame =>
        if frame.isEmpty then
          receiveReply expectedCmd readTimeout isPing start later
        else if ← routeFrame expectedCmd isPing frame then
          return .ok frame
        else
          receiveReply expectedCmd readTimeout isPing start later
      | .failed =>
        countIoError
        connectionLost
        return .error .io
      | .closed =>
        connectionLost
        return .error .streamClosed
      | .timedOut =>
        countTimeout
        return .error .timeout
    else
      countTimeout
      return .error .timeout

def exchange (data : Frame) (expectedCmd : UInt8) (writeTimeout readTimeout : Duration)
    (isPing : Bool) : Task (Except SatelError Frame) := do
  match ← sendCommand data writeTimeout isPing with
  | .error e => return .error e
  | .ok () =>
    let w ← get
    receiveReply expectedCmd readTimeout isPing w.clock w.reads

/-- The stream a finished wait gives, for the parameters read before it. -/
def openedStream (connection : ConnectionConfig) (encryption : Bool) (integrationKey : Option String) :
    OpenOutcome → Except SatelError FramedStream
  | .timedOut => .error .timeout
  | .failed =>
    match connection with
    | .tcp _ _ => .error .io
    | .uart _ _ => .error .serial
  | .opened =>
    match connection with
    | .tcp _ _ =>
      if encryption then
        match integrationKey with
        | none =>
          .error (.invalidIntegrationKey "encryption is enabled but integration_key is not set")
        | some _ => .ok { encrypted := true, issued := [] }
      else .ok { encrypted := false, issued := [] }
    | .uart _ _ => .ok { encrypted := false, issued := [] }

def connectPhysical (connTimeout : Duration) : Task (Except SatelError FramedStream) := do
  let connection := (← readConfig).connection
  let encryption := (← readConfig).encryption
  let integrationKey := (← readConfig).integrationKey
  return openedStream connection encryption integrationKey (← awaitOpen connTimeout)

/-- One query of the handshake: ask, parse the reply, report what it says. -/
def queryVersion {ν : Type} (command : SatelCommand) (expectedCmd : UInt8)
    (process : Frame → LocalTime → Parsed ν) (message : ν → StateWorkerMessage)
    (connTimeout : Duration) : Task (Except SatelError Unit) := do
  match ← exchange [command.toByte] expectedCmd connTimeout connTimeout false with
  | .ok response =>
    match ← StateT.lift (process response (← localNow)).run with
    | .ok version =>
      notifyStateWorker (message version)
      return .ok ()
    | .error e => return .error e
  | .error e =>
    connectionLost
    return .error e

def connectHandshake (connTimeout : Duration) : Task (Except SatelError Unit) := do
  match ← queryVersion .moduleVersion 0x7C processEthmVersion .ethmVersion connTimeout with
  | .error e => return .error e
  | .ok () =>
    match ← queryVersion .integraVersion 0x7E processIntegraVersion .integraVersion
        connTimeout with
    | .error e => return .error e
    | .ok () =>
      sleep (millis 100)
      return .ok ()

def sendPushMask (connTimeout : Duration) : Task (Except SatelError Unit) := do
  let support14ByteMask :=
    ((← readState).ethmVersion.map (·.capabilities.support8TroublesGroups)).getD false
  let mask := connectBuildPushMask (← readConfig) support14ByteMask
  match ← exchange (SatelCommand.listOfNewData.toByte :: mask) 0x7F connTimeout connTimeout
      false with
  | .error e => return .error e
  | .ok response =>
    let report ← StateT.lift
      (processAutoReadResponse (← readConfig) support14ByteMask response)
    notifyStateWorker (.autoReadReport report)
    return .ok ()

def connectAutoRead (connTimeout : Duration) : Task (Except SatelError Unit) := do
  match ← sendPushMask connTimeout with
  | .ok () => return .ok ()
  | .error e =>
    connectionLost
    return .error e

def connectAutoReadIfEnabled (connTimeout : Duration) : Task (Except SatelError Unit) := do
  if (← readConfig).isAutoReadEnabled then connectAutoRead connTimeout else return .ok ()

/-- What `connect` does once the transport is open. -/
def connectOpened (connTimeout : Duration) : Task (Except SatelError Unit) := do
  match ← connectHandshake connTimeout with
  | .error e => return .error e
  | .ok () =>
    match ← connectAutoReadIfEnabled connTimeout with
    | .error e => return .error e
    | .ok () =>
      setStateConnected
      return .ok ()

def connect : Task (Except SatelError Unit) := do
  setStateConnecting
  let connTimeout := millis (← readConfig).readTimeoutMs.toNat
  let _ ← swapAutoReadDirty false
  match ← connectPhysical connTimeout with
  | .error e =>
    connectionLost
    return .error e
  | .ok stream =>
    modify fun w => { w with stream := some stream }
    setStateHandshake
    sleep (millis 200)
    connectOpened connTimeout

end SatelConnectionWorker

/-- Milliseconds to wait after `attempts` failures. -/
def backoffMillis (attempts : UInt32) : Nat :=
  if attempts = 0 then 500
  else min (500 * 2 ^ min (attempts.toNat - 1) 7) 60000

def calculateBackoff : Task Duration := do
  return millis (backoffMillis (← readTelemetry).status.failedAttempts)

def isAcceptance (first : UInt8) (frame : Frame) : Bool := first == 0xEF && frame[1]? == some 0xFF

/-- `receive_push_internal` up to its last wait: whether a frame came, and what to forward. -/
def takePush : Task (Except SatelError (Bool × Option Frame)) := do
  match (← get).stream with
  | none => return .ok (false, none)
  | some _ =>
    match ← awaitRead (millis 100) with
    | .frame frame =>
      countNonPingFrame
      let first ← StateT.lift (index frame 0)
      return .ok (true, if isAcceptance first frame then none else some frame)
    | .failed =>
      countIoError
      return .error .io
    | .closed => return .error .streamClosed
    | .timedOut => return .ok (false, none)

def receivePushInternal : Task (Except SatelError Bool) := do
  match ← takePush with
  | .error e => return .error e
  | .ok (received, none) => return .ok received
  | .ok (received, some frame) =>
    notifyStateWorker (.frame frame)
    return .ok received

inductive InternalMessage where
  | exchangeStandard (data : Frame) (writeTimeout readTimeout : Duration) (createdAt : Instant)
      (maxQueueTime : Duration)
  | exchangePriority (data : Frame) (writeTimeout readTimeout : Duration)
  | connect
  | disconnect
  deriving DecidableEq, Repr

/-- What goes back to the client that sent the message. -/
inductive Response where
  | exchanged (result : Except SatelError Frame)
  | done (result : Except SatelError Unit)

open SatelConnectionWorker

def handleMessageInternal : InternalMessage → Task Response
  | .exchangeStandard data writeTimeout readTimeout createdAt maxQueueTime => do
    if (← getCurrentState) ≠ .connected then
      return .exchanged (.error .notConnected)
    else if (← elapsedSince createdAt) > maxQueueTime then
      return .exchanged (.error .messageExpired)
    else
      let result ← exchange data (data.head?.getD 0) writeTimeout readTimeout false
      return .exchanged result
  | .exchangePriority data writeTimeout readTimeout => do
    let currentState ← getCurrentState
    if currentState = .disconnected ∨ currentState = .connectionLost then
      return .exchanged (.error .notConnected)
    else
      let result ← exchange data (data.head?.getD 0) writeTimeout readTimeout false
      return .exchanged result
  | .connect => do
    let state ← getCurrentState
    if state = .connected ∨ state = .connecting ∨ state = .handshake then
      return .done (.error .alreadyConnected)
    else
      let result ← connect
      return .done result
  | .disconnect => do
    if (← getCurrentState) = .disconnected then
      return .done (.error .notConnected)
    else
      disconnect
      return .done (.ok ())

/-- Watchdog for a connection attempt that does not end. -/
def tickWatchdog (status : ConnectionStatus) : Task Unit := do
  if status.state = .connecting ∨ status.state = .handshake then
    if (← elapsedSince status.lastEventAt) > secs 15 then connectionLost

/-- Send the push mask again after the auto-read configuration changed. -/
def tickPushMask (status : ConnectionStatus) : Task Unit := do
  if status.state = .connected then
    if ← swapAutoReadDirty false then
      let connTimeout := millis (← readConfig).readTimeoutMs.toNat
      match ← sendPushMask connTimeout with
      | .ok () => pure ()
      | .error _ =>
        let _ ← swapAutoReadDirty true

def tickPing (status : ConnectionStatus) : Task Unit := do
  let lastSend := (← readTelemetry).lastSendAt
  if status.state = .connected then
    if (← elapsedSince lastSend) ≥ secs 2 then
      match ← exchange [SatelCommand.integraVersion.toByte] 0x7E (millis 500) (millis 500)
          true with
      | .error .timeout =>
        if ← handlePingTimeout then connectionLost
      | _ => pure ()

def countReconnectAttempt : Task Unit :=
  updateTelemetry fun _ t => { t with reconnectAttempts := t.reconnectAttempts + 1 }

def tickReconnect (shouldReconnect : Bool) (status : ConnectionStatus) : Task Unit := do
  if shouldReconnect ∧ status.state = .connectionLost then
    let elapsed ← elapsedSince status.lastEventAt
    if elapsed ≥ (← calculateBackoff) then
      countReconnectAttempt
      let _ ← connect

def pingIntervalTick (shouldReconnect : Bool) : Task Unit := do
  let status := (← readTelemetry).status
  tickWatchdog status
  tickPushMask status
  tickPing status
  tickReconnect shouldReconnect status

/-- Whether `select!` waits for a frame in this iteration. -/
def pushEnabled : Task Bool := do
  if (← get).stream.isSome then
    return (← getCurrentState) == .connected
  else return false

def pushBranch : Task Unit := do
  match ← receivePushInternal with
  | .ok true => resetMissedPings
  | .ok false => pure ()
  | .error _ => connectionLost

/-- The frame `receive_push_internal` holds when it waits for room in the state worker's channel. -/
def forwarded : List (Answer ReadOutcome) → Bool
  | ⟨_, .frame (first :: rest)⟩ :: _ => !isAcceptance first (first :: rest)
  | _ => false

/-- `select!` drops the push future while it waits for the state worker's channel. -/
def abandonPush : Task Unit := do
  if forwarded (← get).reads then
    let _ ← takePush

inductive Branch where
  | message (msg : InternalMessage)
  | push
  | tick
  deriving DecidableEq, Repr

/-- One iteration of the loop, with all that comes to the worker during it. -/
structure Turn where
  waited : Duration
  opens : List (Answer OpenOutcome)
  sends : List (Answer SendOutcome)
  reads : List (Answer ReadOutcome)
  outside : List (List Outside)
  pushAbandoned : Bool
  branch : Branch

def World.receive (turn : Turn) (w : World) : World :=
  { w with
    clock := w.clock + turn.waited
    opens := turn.opens
    sends := turn.sends
    reads := turn.reads
    outside := turn.outside }

def runBranch (shouldReconnect : Bool) (enabled : Bool) : Branch → Task Unit
  | .message msg => do
    let _ ← handleMessageInternal msg
  | .push => if enabled then pushBranch else pure ()
  | .tick => pingIntervalTick shouldReconnect

def runLoopTurn (turn : Turn) : Task Unit := do
  modify (World.receive turn)
  let shouldReconnect := (← readConfig).autoReconnect
  let enabled ← pushEnabled
  runIf (enabled && turn.pushAbandoned && turn.branch != .push) abandonPush
  runBranch shouldReconnect enabled turn.branch

def runLoop : List Turn → Task Unit
  | [] => pure ()
  | turn :: turns => do
    runLoopTurn turn
    runLoop turns

def runConnect (first : Turn) : Task Unit := do
  modify (World.receive first)
  let _ ← connect

/-- `run`: the first connection, then the loop. -/
def run (first : Turn) (turns : List Turn) : Task Unit := do
  runConnect first
  runLoop turns

/-- The worker a client creates. -/
def World.new (config : Config) (clock : Instant) (wall : LocalTime) : World where
  config := config
  state := .new clock
  stream := none
  stateWorkerTx := some []
  autoReadDirty := false
  consecutiveMissedPings := 0
  clock := clock
  wall := wall
  opens := []
  sends := []
  reads := []
  outside := []
  timeConnected := 0
  clockTurnedBack := false
  resets := 0
  calls := []
  applied := 0

end SatelIntegra
