import Mathlib.Algebra.Group.Nat.Defs
import Mathlib.Tactic.Common

/-!
# Connection status and telemetry

The counters and timestamps of a connection, with the two operations clients call
on them. Wall-clock times are nanoseconds from the earliest date the calendar
library can represent; its whole range is shorter than the longest `Duration`, so
`LocalTime` carries that bound. The monotonic clock is a plain count.
-/

namespace SatelIntegra

/-- Nanoseconds of `Duration::MAX`. -/
def durationMax : Nat := (2 ^ 64 - 1) * 1000000000 + 999999999

structure LocalTime where
  nanos : Nat
  inRange : nanos ≤ durationMax
  deriving DecidableEq, Repr

abbrev Duration := Nat

abbrev Instant := Nat

/-- `(now - since).to_std().unwrap_or(ZERO)` -/
def LocalTime.since (now since : LocalTime) : Duration := now.nanos - since.nanos

def saturatingAdd (a b : Duration) : Duration := min (a + b) durationMax

inductive ConnectionState where
  | connected
  | disconnected
  | connectionLost
  | connecting
  | handshake
  deriving DecidableEq, Repr

structure ConnectionStatus where
  state : ConnectionState
  failedAttempts : UInt32
  lastEventAt : Instant
  deriving DecidableEq, Repr

inductive ConnectionType where
  | tcp (host : String) (port : UInt16)
  | uart (path : String)
  deriving DecidableEq, Repr

structure StatsMark where
  nonPingFrames : UInt64 := 0
  connectionsEstablished : UInt64 := 0
  reconnectAttempts : UInt64 := 0
  connectionsLost : UInt64 := 0
  timeouts : UInt64 := 0
  crcErrors : UInt64 := 0
  rejectedByPanel : UInt64 := 0
  ioErrors : UInt64 := 0
  deriving DecidableEq, Repr

structure ConnectionStatistics where
  state : ConnectionState
  bytesSent : UInt64
  bytesReceived : UInt64
  connectionsEstablished : UInt64
  reconnectAttempts : UInt64
  connectionsLost : UInt64
  timeouts : UInt64
  crcErrors : UInt64
  rejectedByPanel : UInt64
  ioErrors : UInt64
  connectedSince : Option LocalTime
  totalConnected : Duration
  takenAt : LocalTime
  deriving DecidableEq, Repr

structure ConnectionTelemetry where
  status : ConnectionStatus
  lastConnectedAt : Option LocalTime
  lastSendAt : Instant
  bytesSent : UInt64
  bytesReceived : UInt64
  connectionsEstablished : UInt64
  reconnectAttempts : UInt64
  connectionsLost : UInt64
  timeouts : UInt64
  crcErrors : UInt64
  rejectedByPanel : UInt64
  ioErrors : UInt64
  nonPingFrames : UInt64
  connectedSince : Option LocalTime
  totalConnectedBefore : Duration
  lastSentStatsMark : StatsMark
  deriving DecidableEq, Repr

namespace ConnectionTelemetry

def new (now : Instant) : ConnectionTelemetry where
  status := { state := .disconnected, failedAttempts := 0, lastEventAt := now }
  lastConnectedAt := none
  lastSendAt := now
  bytesSent := 0
  bytesReceived := 0
  connectionsEstablished := 0
  reconnectAttempts := 0
  connectionsLost := 0
  timeouts := 0
  crcErrors := 0
  rejectedByPanel := 0
  ioErrors := 0
  nonPingFrames := 0
  connectedSince := none
  totalConnectedBefore := 0
  lastSentStatsMark := {}

def statsMark (t : ConnectionTelemetry) : StatsMark where
  nonPingFrames := t.nonPingFrames
  connectionsEstablished := t.connectionsEstablished
  reconnectAttempts := t.reconnectAttempts
  connectionsLost := t.connectionsLost
  timeouts := t.timeouts
  crcErrors := t.crcErrors
  rejectedByPanel := t.rejectedByPanel
  ioErrors := t.ioErrors

def reset (t : ConnectionTelemetry) (now : LocalTime) : ConnectionTelemetry :=
  { t with
    bytesSent := 0
    bytesReceived := 0
    connectionsEstablished := 0
    reconnectAttempts := 0
    connectionsLost := 0
    timeouts := 0
    crcErrors := 0
    rejectedByPanel := 0
    ioErrors := 0
    nonPingFrames := 0
    totalConnectedBefore := 0
    lastSentStatsMark := {}
    connectedSince := if t.status.state = .connected then some now else none }

def statistics (t : ConnectionTelemetry) (takenAt : LocalTime) : ConnectionStatistics :=
  let currentSession :=
    if t.status.state = .connected then
      match t.connectedSince with
      | some since => takenAt.since since
      | none => 0
    else 0
  { state := t.status.state
    bytesSent := t.bytesSent
    bytesReceived := t.bytesReceived
    connectionsEstablished := t.connectionsEstablished
    reconnectAttempts := t.reconnectAttempts
    connectionsLost := t.connectionsLost
    timeouts := t.timeouts
    crcErrors := t.crcErrors
    rejectedByPanel := t.rejectedByPanel
    ioErrors := t.ioErrors
    connectedSince := if t.status.state = .connected then t.connectedSince else none
    totalConnected := saturatingAdd t.totalConnectedBefore currentSession
    takenAt := takenAt }

end ConnectionTelemetry
end SatelIntegra
