import SatelIntegra.CallTraces
import SatelIntegra.EncryptedStream

/-!
# Streams that count their bytes

Code over a stream is a tree of polls. A counting stream passes each poll on and adds
what it moved to two counters that the telemetry shares, and that clients reset at any
moment. Every tree of polls therefore ends as it would without counting, and leaves the
counters at the bytes moved since the last reset, modulo 2^64.
-/

namespace SatelIntegra

open AtomicCalls AtomicCalls.CallTree

structure ReadBuf where
  filled : List UInt8
  capacity : Nat
  deriving DecidableEq, Repr

inductive StreamOp where
  | pollRead (buf : ReadBuf)
  | pollWrite (buf : List UInt8)
  | pollFlush
  | pollShutdown
  | pollWriteVectored (bufs : List (List UInt8))
  | isWriteVectored

namespace StreamOp

/-- A read also hands the buffer back. -/
abbrev Answer : StreamOp → Type
  | pollRead _ => PollIo Unit × ReadBuf
  | pollWrite _ => PollIo Nat
  | pollFlush => PollIo Unit
  | pollShutdown => PollIo Unit
  | pollWriteVectored _ => PollIo Nat
  | isWriteVectored => Bool

/-- The bytes that the answer says were taken. -/
def sent : (op : StreamOp) → op.Answer → Nat
  | pollWrite _, .ready (.ok n) => n
  | pollWriteVectored _, .ready (.ok n) => n
  | _, _ => 0

/-- The bytes that the answer has put behind those in the buffer. -/
def received : (op : StreamOp) → op.Answer → Nat
  | pollRead before, (.ready (.ok ()), after) => after.filled.length - before.filled.length
  | _, _ => 0

end StreamOp

/-- A stream, by what it answers to each poll. -/
abbrev AsyncStream (σ : Type) := Exec StreamOp StreamOp.Answer σ

/-- A run over a stream that may give up, when its loop is out of rounds. -/
abbrev StreamProgram := CallTree StreamOp StreamOp.Answer Unit

abbrev StreamTrace := List (Performed StreamOp StreamOp.Answer)

namespace StreamTrace

def sent : StreamTrace → Nat
  | [] => 0
  | p :: trace => p.op.sent p.answer + sent trace

def received : StreamTrace → Nat
  | [] => 0
  | p :: trace => p.op.received p.answer + received trace

end StreamTrace

structure CountingStream (σ : Type) where
  inner : σ
  bytesSent : UInt64
  bytesReceived : UInt64

namespace CountingStream
variable {σ : Type} (stream : AsyncStream σ)

def countSent (s : CountingStream σ) : PollIo Nat × σ → PollIo Nat × CountingStream σ
  | (.ready (.ok n), inner) =>
    (.ready (.ok n), { s with inner, bytesSent := s.bytesSent + UInt64.ofNat n })
  | (other, inner) => (other, { s with inner })

def countReceived (s : CountingStream σ) (lenBefore : Nat) :
    (PollIo Unit × ReadBuf) × σ → (PollIo Unit × ReadBuf) × CountingStream σ
  | ((.ready (.ok ()), buf), inner) =>
    let n := buf.filled.length - lenBefore
    ((.ready (.ok ()), buf),
      { s with inner, bytesReceived := s.bytesReceived + UInt64.ofNat n })
  | (other, inner) => (other, { s with inner })

def poll : AsyncStream (CountingStream σ)
  | .pollRead buf, s => s.countReceived buf.filled.length (stream (.pollRead buf) s.inner)
  | .pollWrite buf, s => s.countSent (stream (.pollWrite buf) s.inner)
  | .pollFlush, s =>
    let (answer, inner) := stream .pollFlush s.inner
    (answer, { s with inner })
  | .pollShutdown, s =>
    let (answer, inner) := stream .pollShutdown s.inner
    (answer, { s with inner })
  | .pollWriteVectored bufs, s => s.countSent (stream (.pollWriteVectored bufs) s.inner)
  | .isWriteVectored, s =>
    let (answer, inner) := stream .isWriteVectored s.inner
    (answer, { s with inner })

/-- `reset_statistics` as far as the counters of the stream go. -/
def reset (s : CountingStream σ) : CountingStream σ :=
  { s with bytesSent := 0, bytesReceived := 0 }

def count (s : CountingStream σ) (op : StreamOp) (answer : op.Answer) (inner : σ) :
    CountingStream σ where
  inner
  bytesSent := s.bytesSent + UInt64.ofNat (op.sent answer)
  bytesReceived := s.bytesReceived + UInt64.ofNat (op.received answer)

lemma countSent_eq (s : CountingStream σ) (answer : PollIo Nat) (inner : σ) (buf : List UInt8)
    (bufs : List (List UInt8)) :
    s.countSent (answer, inner) = (answer, s.count (.pollWrite buf) answer inner) ∧
      s.countSent (answer, inner) = (answer, s.count (.pollWriteVectored bufs) answer inner) := by
  rcases answer with (e | n) | _ <;> simp [countSent, count, StreamOp.sent, StreamOp.received]

lemma countReceived_eq (s : CountingStream σ) (answer : PollIo Unit × ReadBuf) (inner : σ)
    (buf : ReadBuf) :
    s.countReceived buf.filled.length (answer, inner) =
      (answer, s.count (.pollRead buf) answer inner) := by
  rcases answer with ⟨(e | ⟨⟩) | _, after⟩ <;>
    simp [countReceived, count, StreamOp.sent, StreamOp.received]

/-- One poll: the inner answer, counted. -/
lemma poll_eq (op : StreamOp) (s : CountingStream σ) :
    poll stream op s =
      ((stream op s.inner).1, s.count op (stream op s.inner).1 (stream op s.inner).2) := by
  cases op with
  | pollRead buf => exact s.countReceived_eq _ _ buf
  | pollWrite buf => exact (s.countSent_eq _ _ buf []).1
  | pollWriteVectored bufs => exact (s.countSent_eq _ _ [] bufs).2
  | _ => simp [poll, count, StreamOp.sent, StreamOp.received]

end CountingStream

/-- The stream among clients: `resets` says before which polls one of them resets. -/
structure SharedStream (σ : Type) where
  counted : CountingStream σ
  resets : List Bool

namespace SharedStream
variable {σ : Type} (stream : AsyncStream σ)

/-- The counters the next poll meets. -/
def met (s : SharedStream σ) : CountingStream σ :=
  if s.resets.headD false then s.counted.reset else s.counted

def poll : AsyncStream (SharedStream σ) := fun op s =>
  let (answer, counted) := CountingStream.poll stream op s.met
  (answer, ⟨counted, s.resets.tail⟩)

end SharedStream

/-- What the last reset has left to count of the trace, and whether there was one. -/
def sinceReset : List Bool → StreamTrace → Bool × StreamTrace
  | _, [] => (false, [])
  | resets, p :: trace =>
    let (found, rest) := sinceReset resets.tail trace
    if found then (true, rest) else (resets.headD false, p :: rest)

section Resets
variable {resets : List Bool} {trace : StreamTrace}

lemma getElem?_tail_ne (h : ∀ j < trace.length + 1, resets[j]? ≠ some true) :
    resets.headD false = false ∧ ∀ j < trace.length, resets.tail[j]? ≠ some true := by
  cases resets with
  | nil => simp
  | cons first resets =>
    constructor
    · have head := h 0 (Nat.succ_pos _)
      simpa using head
    · intro j hj
      exact h (j + 1) (Nat.succ_lt_succ hj)

lemma sinceReset_of_none (h : ∀ j < trace.length, resets[j]? ≠ some true) :
    sinceReset resets trace = (false, trace) := by
  induction trace generalizing resets with
  | nil => rfl
  | cons p trace ih =>
    obtain ⟨head, tail⟩ := getElem?_tail_ne h
    rw [sinceReset, ih tail, head]
    rfl

/-- The reset before poll `k` is the last one. -/
lemma sinceReset_of_last {k : Nat} (short : k < trace.length) (reset : resets[k]? = some true)
    (last : ∀ j, k < j → j < trace.length → resets[j]? ≠ some true) :
    sinceReset resets trace = (true, trace.drop k) := by
  induction trace generalizing resets k with
  | nil => exact absurd short (Nat.not_lt_zero _)
  | cons p trace ih =>
    cases resets with
    | nil => cases reset
    | cons first resets =>
      cases k with
      | zero =>
        have head : first = true := by simpa using reset
        have rest := @sinceReset_of_none resets trace fun j hj =>
          last (j + 1) (Nat.succ_pos j) (Nat.succ_lt_succ hj)
        simp [sinceReset, rest, head]
      | succ k =>
        have rest := @ih resets k (Nat.lt_of_succ_lt_succ short) reset fun j hk hj =>
          last (j + 1) (Nat.succ_lt_succ hk) (Nat.succ_lt_succ hj)
        simp [sinceReset, rest]

end Resets

namespace SharedStream
variable {σ α : Type} (stream : AsyncStream σ)

/-- The counters after a trace. -/
def tally (s : SharedStream σ) (trace : StreamTrace) (inner : σ) : SharedStream σ :=
  let (found, counted) := sinceReset s.resets trace
  let base := if found then s.counted.reset else s.counted
  { counted :=
      { inner
        bytesSent := base.bytesSent + UInt64.ofNat (StreamTrace.sent counted)
        bytesReceived := base.bytesReceived + UInt64.ofNat (StreamTrace.received counted) }
    resets := s.resets.drop trace.length }

/-- One poll more in front of a trace. -/
lemma tally_cons (s : SharedStream σ) (op : StreamOp) (answer : op.Answer) (inner inner' : σ)
    (trace : StreamTrace) :
    s.tally (⟨op, answer⟩ :: trace) inner' =
      (⟨s.met.count op answer inner, s.resets.tail⟩ : SharedStream σ).tally trace inner' := by
  obtain ⟨counted, resets⟩ := s
  rcases later : sinceReset resets.tail trace with ⟨found, rest⟩
  cases found with
  | true =>
    simp [tally, sinceReset, later, CountingStream.reset]
  | false =>
    cases first : resets.headD false <;>
      simp [tally, sinceReset, later, met, CountingStream.count, CountingStream.reset,
        StreamTrace.sent, StreamTrace.received, UInt64.add_assoc]

/-- Every program over the stream ends as it would without counting, and leaves the
counters at what has been moved since the last reset. -/
theorem run_eq (c : StreamProgram α) (s : SharedStream σ) :
    run (poll stream) c s =
      ((run stream c s.counted.inner).1,
        s.tally (traceOf stream c s.counted.inner) (run stream c s.counted.inner).2) := by
  induction c generalizing s with
  | done a => simp [run, traceOf, tally, sinceReset, StreamTrace.sent, StreamTrace.received]
  | failed e => simp [run, traceOf, tally, sinceReset, StreamTrace.sent, StreamTrace.received]
  | step op next ih =>
    have inner : s.met.inner = s.counted.inner := by
      unfold met
      split <;> rfl
    have polled : poll stream op s = ((stream op s.counted.inner).1,
        ⟨s.met.count op (stream op s.counted.inner).1 (stream op s.counted.inner).2,
          s.resets.tail⟩) := by
      simp only [poll, CountingStream.poll_eq, inner]
    rw [run, polled, ih]
    simp only [run, traceOf, tally_cons s op _ (stream op s.counted.inner).2]
    rfl

/-- A program over the stream ends as without counting. Without a reset its polls add the
bytes they moved to the counters; after one, only those since the last count. -/
structure Counts (c : StreamProgram α) (s : SharedStream σ) : Prop where
  result : (run (poll stream) c s).1 = (run stream c s.counted.inner).1
  inner : (run (poll stream) c s).2.counted.inner = (run stream c s.counted.inner).2
  unreset : (∀ j < (traceOf stream c s.counted.inner).length, s.resets[j]? ≠ some true) →
    (run (poll stream) c s).2.counted.bytesSent =
        s.counted.bytesSent + UInt64.ofNat (StreamTrace.sent (traceOf stream c s.counted.inner)) ∧
      (run (poll stream) c s).2.counted.bytesReceived = s.counted.bytesReceived +
        UInt64.ofNat (StreamTrace.received (traceOf stream c s.counted.inner))
  reset : ∀ k < (traceOf stream c s.counted.inner).length, s.resets[k]? = some true →
    (∀ j, k < j → j < (traceOf stream c s.counted.inner).length → s.resets[j]? ≠ some true) →
      (run (poll stream) c s).2.counted.bytesSent =
          UInt64.ofNat (StreamTrace.sent ((traceOf stream c s.counted.inner).drop k)) ∧
        (run (poll stream) c s).2.counted.bytesReceived =
          UInt64.ofNat (StreamTrace.received ((traceOf stream c s.counted.inner).drop k))

lemma counts (c : StreamProgram α) (s : SharedStream σ) : Counts stream c s := by
  constructor
  · rw [run_eq]
  · rw [run_eq]
    rfl
  · intro none
    simp [run_eq, tally, sinceReset_of_none none]
  · intro k short found last
    simp [run_eq, tally, sinceReset_of_last short found last, CountingStream.reset]

end SharedStream
end SatelIntegra
