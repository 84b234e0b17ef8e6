import SatelIntegra.AutoRead
import SatelIntegra.AutoRequester
import SatelIntegra.ProgramLogic

/-!
# The worker and what surrounds it

A worker task owns the stream and shares configuration, cache and flags with other
tasks. Each access to shared data is one step; before it the other tasks may have
done anything in `Outside`. The transport answers each wait of the worker: an
answer says how long the wait took and how it ended, and running out of answers is
a timeout. Time spent between two waits counts with the next one.
-/

namespace SatelIntegra

open CheckedAccess ProgramLogic

inductive StateWorkerMessage where
  | frame (frame : Frame)
  | statusChanged (state : ConnectionState)
  | integraVersion (version : IntegraVersion)
  | ethmVersion (version : EthmVersion)
  | autoReadReport (report : AutoReadReport)
  deriving DecidableEq, Repr

/-- The framed transport, with the commands handed to it so far. -/
structure FramedStream where
  encrypted : Bool
  issued : List Frame
  deriving DecidableEq, Repr

inductive OpenOutcome where
  | opened
  | failed
  | timedOut
  deriving DecidableEq, Repr

inductive SendOutcome where
  | sent
  | failed
  | timedOut
  deriving DecidableEq, Repr

inductive ReadOutcome where
  | frame (frame : Frame)
  | failed
  | closed
  | timedOut
  deriving DecidableEq, Repr

/-- How one wait of the worker ended. -/
structure Answer (α : Type) where
  elapsed : Duration
  outcome : α
  deriving DecidableEq, Repr

/-- Where a call of `hot_reload_config` (the first stage) or `reload_config` (the next three)
stands after it wrote the configuration; both end by leaving. -/
inductive ReloadCall where
  | marking
  | checking
  | disconnecting
  | connecting
  | leaving
  deriving DecidableEq, Repr

/-- What other tasks do to the shared data, and what the wall clock does. `storeConfig` and
`hotReload` begin a call of a client, and `resume` lets the call with that number go on;
`autoRequester` is the moment at which that task applies a message, received before. -/
inductive Outside where
  | wallClock (now : LocalTime)
  | resetStatistics
  | markStatistics
  | transportCounters (sent received crcErrors : UInt64)
  | storeConfig (config : Config)
  | hotReload (newConfig : Config)
  | resume (call : Nat)
  | markAutoReadDirty
  | updateCache (cache : SatelState)
  | autoRequester (clock : Clock)

/-- The last five fields record what happened, the calls not yet returned, and how many
messages the auto-requester has applied; no code reads them. -/
structure World where
  config : Config
  state : SatelState
  stream : Option FramedStream
  stateWorkerTx : Option (List StateWorkerMessage)
  autoReadDirty : Bool
  consecutiveMissedPings : UInt32
  clock : Instant
  wall : LocalTime
  opens : List (Answer OpenOutcome)
  sends : List (Answer SendOutcome)
  reads : List (Answer ReadOutcome)
  outside : List (List Outside)
  timeConnected : Duration
  clockTurnedBack : Bool
  resets : Nat
  calls : List ReloadCall
  applied : Nat

/-- How a reload goes on, given the connection state; `none` is its return. A call that asked for a
disconnect waits until the worker has answered it, in the state `Disconnected`. -/
def ReloadCall.resume (state : ConnectionState) : ReloadCall → Option ReloadCall
  | .marking => some .leaving
  | .checking => if state = .disconnected then none else some .disconnecting
  | .disconnecting => if state = .disconnected then some .connecting else some .disconnecting
  | .connecting => none
  | .leaving => none

/-- `SatelAutoRequester::run` with one message. The mark that goes with a change of the status
is `markStatistics`. -/
def SatelAutoRequester.handleMessage (config : Config) (state : SatelState) (clock : Clock) :
    StateWorkerMessage → Except Panic SatelState
  | .frame frame => do
    let (state, _) ← handleAutoFrame config state frame clock
    return state
  | .statusChanged _ => return state
  | .integraVersion version => return (updateIntegraVersionInternal state version).1
  | .ethmVersion version => return (updateEthmVersionInternal state version).1
  | .autoReadReport report => return { state with autoReadReport := some report }

namespace World

abbrev telemetry (w : World) : ConnectionTelemetry := w.state.telemetry

abbrev connectionState (w : World) : ConnectionState := w.state.telemetry.status.state

def mapTelemetry (f : ConnectionTelemetry → ConnectionTelemetry) (w : World) : World :=
  { w with state := { w.state with telemetry := f w.state.telemetry } }

/-- Time goes by in the current state. -/
def setWall (now : LocalTime) (w : World) : World :=
  { w with
    wall := now
    clockTurnedBack := w.clockTurnedBack || now.nanos < w.wall.nanos
    timeConnected :=
      if w.connectionState = .connected then w.timeConnected + (now.nanos - w.wall.nanos)
      else w.timeConnected }

/-- The calls in progress after the one with number `i` went on. -/
def resumeCall (i : Nat) (w : World) : List ReloadCall :=
  match w.calls[i]? with
  | none => w.calls
  | some call =>
    match call.resume w.connectionState with
    | some next => w.calls.set i next
    | none => w.calls.eraseIdx i

/-- The next message that the auto-requester applies, received or not. -/
def nextMessage (w : World) : Option StateWorkerMessage :=
  w.stateWorkerTx.bind (·[w.applied]?)

/-- The cache and the number of messages applied once the auto-requester has applied one more.
Receiving it changes neither. -/
def applyMessage (clock : Clock) (w : World) : SatelState × Nat :=
  match w.nextMessage with
  | none => (w.state, w.applied)
  | some message =>
    match SatelAutoRequester.handleMessage w.config w.state clock message with
    | .ok state => (state, w.applied + 1)
    | .error _ => (w.state, w.applied)

def act (w : World) : Outside → World
  | .wallClock now => w.setWall now
  | .resetStatistics =>
    { w.mapTelemetry (·.reset w.wall) with timeConnected := 0, resets := w.resets + 1 }
  | .markStatistics => w.mapTelemetry fun t => { t with lastSentStatsMark := t.statsMark }
  | .transportCounters sent received crcErrors =>
    w.mapTelemetry fun t =>
      { t with
        bytesSent := t.bytesSent + sent
        bytesReceived := t.bytesReceived + received
        crcErrors := t.crcErrors + crcErrors }
  | .storeConfig config => { w with config := config, calls := w.calls ++ [.checking] }
  | .hotReload newConfig =>
    let stored := newConfig.keepConnection w.config
    let changed :=
      SatelConnectionWorker.connectBuildPushMask w.config true !=
        SatelConnectionWorker.connectBuildPushMask stored true
    { w with
      config := stored
      calls := w.calls ++ [if changed then .marking else .leaving] }
  | .resume call =>
    { w with
      autoReadDirty := w.autoReadDirty || w.calls[call]? == some .marking
      calls := w.resumeCall call }
  | .markAutoReadDirty => { w with autoReadDirty := true }
  | .updateCache cache =>
    { w with
      state :=
        { cache with
          telemetry := w.state.telemetry
          connectionType := w.state.connectionType } }
  | .autoRequester clock =>
    { w with
      state :=
        { (w.applyMessage clock).1 with
          telemetry := w.state.telemetry
          connectionType := w.state.connectionType }
      applied := (w.applyMessage clock).2 }

/-- Other tasks run until the worker's next access. -/
def interleave (w : World) : World :=
  match w.outside with
  | [] => w
  | acts :: later => acts.foldl act { w with outside := later }

end World

/-- A piece of the worker task. -/
abbrev Task (α : Type) := Program World Panic α

/-- An `if` without `else`. -/
def runIf (c : Bool) (x : Task Unit) : Task Unit := if c then x else pure ()

def readConfig : Task Config := do
  modify World.interleave
  return (← get).config

def readState : Task SatelState := do
  modify World.interleave
  return (← get).state

def readTelemetry : Task ConnectionTelemetry := do
  modify World.interleave
  return (← get).telemetry

def updateTelemetry (f : World → ConnectionTelemetry → ConnectionTelemetry) : Task Unit := do
  modify World.interleave
  modify fun w => w.mapTelemetry (f w)

/-- `Local::now()` -/
def localNow : Task LocalTime := do
  modify World.interleave
  return (← get).wall

def swapAutoReadDirty (dirty : Bool) : Task Bool := do
  modify World.interleave
  let before := (← get).autoReadDirty
  modify fun w => { w with autoReadDirty := dirty }
  return before

def millis (n : Nat) : Duration := n * 1000000

def secs (n : Nat) : Duration := n * 1000000000

def elapsedSince (start : Instant) : Task Duration := do
  return (← get).clock - start

def sleep (duration : Duration) : Task Unit :=
  modify fun w => { w with clock := w.clock + duration }

/-- Wait for the transport to open, for as long as `timeout` allows. -/
def awaitOpen (timeout : Duration) : Task OpenOutcome := do
  match (← get).opens with
  | [] =>
    sleep timeout
    return .timedOut
  | answer :: later =>
    modify fun w => { w with opens := later, clock := w.clock + answer.elapsed }
    return answer.outcome

def awaitSend (timeout : Duration) : Task SendOutcome := do
  match (← get).sends with
  | [] =>
    sleep timeout
    return .timedOut
  | answer :: later =>
    modify fun w => { w with sends := later, clock := w.clock + answer.elapsed }
    return answer.outcome

def awaitRead (timeout : Duration) : Task ReadOutcome := do
  match (← get).reads with
  | [] =>
    sleep timeout
    return .timedOut
  | answer :: later =>
    modify fun w => { w with reads := later, clock := w.clock + answer.elapsed }
    return answer.outcome

/-- `self.stream.as_mut().unwrap()` -/
def unwrapStream : Task FramedStream := do
  match (← get).stream with
  | some stream => return stream
  | none => throw .unwrapNone

def notifyStateWorker (msg : StateWorkerMessage) : Task Unit :=
  modify fun w => { w with stateWorkerTx := w.stateWorkerTx.map (· ++ [msg]) }

end SatelIntegra
