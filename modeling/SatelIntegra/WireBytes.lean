import SatelIntegra.CountingStream
import SatelIntegra.EncryptedSession

/-!
# Bytes of an encrypted connection

The worker puts a counting stream under the encrypted one, so that the counters hold
bytes of packets. The encrypted stream is written here as polls of whatever is under
it; over a transport that answers as told it is the encrypted stream of the sessions.
-/

namespace SatelIntegra

open AtomicCalls AtomicCalls.CallTree

/-- A transport that answers as told. -/
structure Script where
  reads : List ReadAnswer
  writes : List WriteAnswer
  flushed : PollIo Unit
  shut : PollIo Unit

namespace Script

def write (s : Script) (offered : Nat) : PollIo Nat × Script :=
  match s.writes with
  | [] => (.pending, s)
  | .pending :: writes => (.pending, { s with writes })
  | .fails :: writes => (.ready (.error .inner), { s with writes })
  | .takes capacity :: writes => (.ready (.ok (min capacity offered)), { s with writes })

def read (s : Script) (buf : ReadBuf) : (PollIo Unit × ReadBuf) × Script :=
  match s.reads with
  | [] => ((.pending, buf), s)
  | .pending :: reads => ((.pending, buf), { s with reads })
  | .fails :: reads => ((.ready (.error .inner), buf), { s with reads })
  | .fills bytes _ :: reads =>
    ((.ready (.ok ()), { buf with filled := buf.filled ++ bytes }), { s with reads })

def poll : AsyncStream Script
  | .pollRead buf, s => s.read buf
  | .pollWrite buf, s => s.write buf.length
  | .pollFlush, s => (s.flushed, s)
  | .pollShutdown, s => (s.shut, s)
  | .pollWriteVectored bufs, s => s.write bufs.flatten.length
  | .isWriteVectored, s => (false, s)

end Script

namespace EncryptedStream

def askWrite (buf : List UInt8) : StreamProgram (PollIo Nat) := perform (StreamOp.pollWrite buf)

def askRead (buf : ReadBuf) : StreamProgram (PollIo Unit × ReadBuf) :=
  perform (StreamOp.pollRead buf)

def askFlush : StreamProgram (PollIo Unit) := perform StreamOp.pollFlush

def askShutdown : StreamProgram (PollIo Unit) := perform StreamOp.pollShutdown

/-- A loop over `write_buffer`; each round takes a byte at least. -/
def drainRounds (message : String) : Nat → List UInt8 → StreamProgram (PollIo Unit × List UInt8)
  | _, [] => return (.ready (.ok ()), [])
  | 0, _ :: _ => throw ()
  | rounds + 1, byte :: buffer => do
    match ← askWrite (byte :: buffer) with
    | .pending => return (.pending, byte :: buffer)
    | .ready (.error e) => return (.ready (.error e), byte :: buffer)
    | .ready (.ok 0) => return (.ready (.error (.writeZero message)), byte :: buffer)
    | .ready (.ok (n + 1)) => drainRounds message rounds (buffer.drop n)

def drained (message : String) (buffer : List UInt8) : StreamProgram (PollIo Unit × List UInt8) :=
  drainRounds message buffer.length buffer

def writePolls (s : EncryptedStream) (nanos nanos' : UInt32) (buf : List UInt8) :
    StreamProgram (PollIo Nat × EncryptedStream) := do
  let (flushed, left) ← drained writeMessage s.writeBuffer
  match flushed with
  | .pending => return (.pending, { s with writeBuffer := left })
  | .ready (.error e) => return (.ready (.error e), { s with writeBuffer := left })
  | .ready (.ok ()) =>
    if buf.isEmpty then return (.ready (.ok 0), { s with writeBuffer := left })
    let s := s.wrap nanos nanos' buf
    let (sent, left) ← drained writeMessage s.writeBuffer
    match sent with
    | .ready (.error e) => return (.ready (.error e), { s with writeBuffer := left })
    | .pending | .ready (.ok ()) => return (.ready (.ok buf.length), { s with writeBuffer := left })

def drainPolls (message : String) (s : EncryptedStream)
    (last : StreamProgram (PollIo Unit)) : StreamProgram (PollIo Unit × EncryptedStream) := do
  let (result, left) ← drained message s.writeBuffer
  let s := { s with writeBuffer := left }
  match result with
  | .ready (.ok ()) => return (← last, s)
  | blocked => return (blocked, s)

def flushPolls (s : EncryptedStream) : StreamProgram (PollIo Unit × EncryptedStream) :=
  drainPolls "failed to flush encrypted buffer to stream" s askFlush

def shutdownPolls (s : EncryptedStream) : StreamProgram (PollIo Unit × EncryptedStream) :=
  drainPolls "failed to flush encrypted buffer before shutdown" s askShutdown

/-- The loop of `poll_read`, for at most so many rounds: the answer, the bytes put into the
caller's buffer, and the stream. -/
def readPolls (remaining : Nat) :
    Nat → EncryptedStream → StreamProgram (PollIo Unit × List UInt8 × EncryptedStream)
  | rounds, s =>
    if s.readBuffer.isEmpty then
      match rounds with
      | 0 => throw ()
      | rounds + 1 => do
        let (answer, tmpBuf) ← askRead ⟨[], tmpBufSize⟩
        match answer with
        | .pending => return (.pending, [], s)
        | .ready (.error e) => return (.ready (.error e), [], s)
        | .ready (.ok ()) =>
          -- end of file
          if tmpBuf.filled.isEmpty then return (.ready (.ok ()), [], s)
          readPolls remaining rounds (s.extendRaw tmpBuf.filled)
    else
      let polled := s.yieldPlain remaining
      return (polled.result, polled.put, polled.stream)

end EncryptedStream

section Scripted
variable {α β : Type}

/-- Over the script, the program ends in `a`, having moved so many bytes. -/
structure EndsIn (c : StreamProgram α) (script : Script) (a : α) (after : Script)
    (sent received : Nat) : Prop where
  result : run Script.poll c script = (.ok a, after)
  sent : StreamTrace.sent (traceOf Script.poll c script) = sent
  received : StreamTrace.received (traceOf Script.poll c script) = received

lemma StreamTrace.sent_append (trace trace' : StreamTrace) :
    StreamTrace.sent (trace ++ trace') = StreamTrace.sent trace + StreamTrace.sent trace' := by
  induction trace with
  | nil => exact (Nat.zero_add _).symm
  | cons p trace ih =>
    rw [List.cons_append, StreamTrace.sent, StreamTrace.sent, ih, Nat.add_assoc]

lemma StreamTrace.received_append (trace trace' : StreamTrace) :
    StreamTrace.received (trace ++ trace') =
      StreamTrace.received trace + StreamTrace.received trace' := by
  induction trace with
  | nil => exact (Nat.zero_add _).symm
  | cons p trace ih =>
    rw [List.cons_append, StreamTrace.received, StreamTrace.received, ih, Nat.add_assoc]

lemma endsIn_pure (a : α) (script : Script) : EndsIn (pure a) script a script 0 0 :=
  ⟨rfl, rfl, rfl⟩

lemma EndsIn.bind {c : StreamProgram α} {f : α → StreamProgram β} {script after last : Script}
    {a : α} {b : β} {n m n' m' sent received : Nat} (first : EndsIn c script a after n m)
    (rest : EndsIn (f a) after b last n' m') (hsent : sent = n + n')
    (hreceived : received = m + m') : EndsIn (c >>= f) script b last sent received := by
  subst hsent hreceived
  have trace := traceOf_bind_ok (f := f) first.result
  constructor
  · rw [run_bind_ok first.result, rest.result]
  · rw [trace, StreamTrace.sent_append, first.sent, rest.sent]
  · rw [trace, StreamTrace.received_append, first.received, rest.received]

lemma endsIn_write (script : Script) (buf : List UInt8) :
    EndsIn (EncryptedStream.askWrite buf) script (script.write buf.length).1
      (script.write buf.length).2
      (StreamOp.sent (.pollWrite buf) (script.write buf.length).1) 0 := by
  constructor
  · rfl
  · rfl
  · rfl

/-- The loop over `write_buffer` is `drainBuffer`. -/
lemma endsIn_drainRounds (message : String) {rounds : Nat} {buffer : List UInt8}
    (enough : buffer.length ≤ rounds) (script : Script) :
    EndsIn (EncryptedStream.drainRounds message rounds buffer) script
      ((drainBuffer message script.writes buffer).result,
        (drainBuffer message script.writes buffer).buffer)
      { script with writes := (drainBuffer message script.writes buffer).answers }
      (drainBuffer message script.writes buffer).taken.length 0 := by
  induction rounds generalizing buffer script with
  | zero =>
    obtain rfl := List.eq_nil_of_length_eq_zero (Nat.le_zero.mp enough)
    simpa [EncryptedStream.drainRounds, drainBuffer] using endsIn_pure _ script
  | succ rounds ih =>
    cases buffer with
    | nil => simpa [EncryptedStream.drainRounds, drainBuffer] using endsIn_pure _ script
    | cons byte buffer =>
      obtain ⟨reads, writes, flushed, shut⟩ := script
      rw [EncryptedStream.drainRounds]
      rcases writes with _ | ⟨(_ | n) | _ | _, writes⟩
      · exact ⟨rfl, rfl, rfl⟩
      · have none : min 0 (byte :: buffer).length = 0 := Nat.zero_min _
        exact ⟨rfl, rfl, rfl⟩
      · have left : buffer.drop (min n buffer.length) = buffer.drop n := by
          rcases Nat.le_total n buffer.length with h | h
          · rw [Nat.min_eq_left h]
          · rw [Nat.min_eq_right h, List.drop_length, List.drop_eq_nil_of_le h]
        have taken : min (n + 1) (byte :: buffer).length = min n buffer.length + 1 :=
          Nat.add_min_add_right n buffer.length 1
        have asked := endsIn_write ⟨reads, .takes (n + 1) :: writes, flushed, shut⟩ (byte :: buffer)
        simp only [Script.write, taken] at asked
        have short : (buffer.drop n).length ≤ rounds := by
          rw [List.length_drop]
          simp only [List.length_cons] at enough
          omega
        have rest := ih short ⟨reads, writes, flushed, shut⟩
        rw [← left] at rest
        have total :
            (drainBuffer message (.takes (n + 1) :: writes) (byte :: buffer)).taken.length =
            min n buffer.length + 1 +
              (drainBuffer message writes (buffer.drop (min n buffer.length))).taken.length := by
          rw [left, drainBuffer]
          simp only [List.length_cons, List.length_append, List.length_take]
          omega
        refine asked.bind ?_ total (Nat.zero_add 0).symm
        rw [drainBuffer, ← left]
        exact rest
      · exact ⟨rfl, rfl, rfl⟩
      · exact ⟨rfl, rfl, rfl⟩

lemma endsIn_drained {message : String} {buffer : List UInt8} (script : Script) {d : Drained}
    (h : drainBuffer message script.writes buffer = d) :
    EndsIn (EncryptedStream.drained message buffer) script (d.result, d.buffer)
      { script with writes := d.answers } d.taken.length 0 := by
  subst h
  exact endsIn_drainRounds message (Nat.le_refl _) script

lemma endsIn_writePolls (s : EncryptedStream) (nanos nanos' : UInt32) (buf : List UInt8)
    (script : Script) :
    ∃ after, EndsIn (s.writePolls nanos nanos' buf) script
      ((s.pollWrite script.writes nanos nanos' buf).result,
        (s.pollWrite script.writes nanos nanos' buf).stream)
      after (s.pollWrite script.writes nanos nanos' buf).taken.length 0 := by
  rcases flushed : drainBuffer EncryptedStream.writeMessage script.writes s.writeBuffer with
    ⟨result, answers, left, taken⟩
  have first := endsIn_drained script flushed
  rw [EncryptedStream.writePolls, EncryptedStream.pollWrite, flushed]
  rcases result with (e | ⟨⟩) | _
  · exact ⟨_, first.bind (endsIn_pure _ _) (Nat.add_zero _).symm (Nat.zero_add 0).symm⟩
  · cases empty : buf.isEmpty with
    | true => exact ⟨_, first.bind (endsIn_pure _ _) (Nat.add_zero _).symm (Nat.zero_add 0).symm⟩
    | false =>
      rcases sent : drainBuffer EncryptedStream.writeMessage answers
          (s.wrap nanos nanos' buf).writeBuffer with ⟨result, answers', left', taken'⟩
      have second := endsIn_drained { script with writes := answers } sent
      simp only [sent]
      refine ⟨{ script with writes := answers' }, first.bind ?_ List.length_append
        (Nat.zero_add 0).symm⟩
      refine second.bind ?_ (Nat.add_zero _).symm (Nat.zero_add 0).symm
      rcases result with (e | ⟨⟩) | _ <;> exact endsIn_pure _ _
  · exact ⟨_, first.bind (endsIn_pure _ _) (Nat.add_zero _).symm (Nat.zero_add 0).symm⟩

lemma endsIn_drainPolls (message : String) (s : EncryptedStream) (script : Script)
    {last : StreamProgram (PollIo Unit)} {inner : PollIo Unit}
    (hlast : ∀ script', script'.flushed = script.flushed → script'.shut = script.shut →
      EndsIn last script' inner script' 0 0) :
    ∃ after, EndsIn (s.drainPolls message last) script
      ((s.drainThen message script.writes inner).result,
        (s.drainThen message script.writes inner).stream)
      after (s.drainThen message script.writes inner).taken.length 0 := by
  rcases flushed : drainBuffer message script.writes s.writeBuffer with
    ⟨result, answers, left, taken⟩
  have first := endsIn_drained script flushed
  rw [EncryptedStream.drainPolls, EncryptedStream.drainThen, flushed]
  rcases result with (e | ⟨⟩) | _
  · exact ⟨_, first.bind (endsIn_pure _ _) (Nat.add_zero _).symm (Nat.zero_add 0).symm⟩
  · have asked := hlast { script with writes := answers } rfl rfl
    refine ⟨{ script with writes := answers }, first.bind ?_ (Nat.add_zero _).symm
      (Nat.zero_add 0).symm⟩
    exact asked.bind (endsIn_pure _ _) (Nat.zero_add 0).symm (Nat.zero_add 0).symm
  · exact ⟨_, first.bind (endsIn_pure _ _) (Nat.add_zero _).symm (Nat.zero_add 0).symm⟩

lemma endsIn_flushPolls (s : EncryptedStream) (script : Script) :
    ∃ after, EndsIn s.flushPolls script
      ((s.pollFlush script.writes script.flushed).result,
        (s.pollFlush script.writes script.flushed).stream)
      after (s.pollFlush script.writes script.flushed).taken.length 0 := by
  apply endsIn_drainPolls
  rintro script' flushed -
  rw [← flushed]
  exact ⟨rfl, rfl, rfl⟩

lemma endsIn_shutdownPolls (s : EncryptedStream) (script : Script) :
    ∃ after, EndsIn s.shutdownPolls script
      ((s.pollShutdown script.writes script.shut).result,
        (s.pollShutdown script.writes script.shut).stream)
      after (s.pollShutdown script.writes script.shut).taken.length 0 := by
  apply endsIn_drainPolls
  rintro script' - shut
  rw [← shut]
  exact ⟨rfl, rfl, rfl⟩

/-- One round more than there are answers is enough for the loop of `poll_read`. -/
lemma endsIn_readPolls (remaining : Nat) {rounds : Nat} (s : EncryptedStream) (script : Script)
    (enough : script.reads.length < rounds) :
    ∃ after, EndsIn (s.readPolls remaining rounds) script
      ((EncryptedStream.pollRead remaining script.reads s).result,
        (EncryptedStream.pollRead remaining script.reads s).put,
        (EncryptedStream.pollRead remaining script.reads s).stream)
      after 0 (EncryptedStream.pollRead remaining script.reads s).received.length := by
  induction rounds generalizing s script with
  | zero => exact absurd enough (Nat.not_lt_zero _)
  | succ rounds ih =>
    obtain ⟨reads, writes, flushed, shut⟩ := script
    cases empty : s.readBuffer.isEmpty with
    | false =>
      refine ⟨⟨reads, writes, flushed, shut⟩, ?_⟩
      cases reads <;>
        simpa [EncryptedStream.readPolls, EncryptedStream.pollRead, empty,
          EncryptedStream.yieldPlain] using endsIn_pure _ _
    | true =>
      rw [EncryptedStream.readPolls, empty]
      rcases reads with _ | ⟨⟨bytes, fits⟩ | _ | _, reads⟩
      · rw [EncryptedStream.pollRead, empty]
        exact ⟨⟨[], writes, flushed, shut⟩, rfl, rfl, rfl⟩
      · cases bytes with
        | nil =>
          rw [EncryptedStream.pollRead, empty]
          exact ⟨⟨reads, writes, flushed, shut⟩, rfl, rfl, rfl⟩
        | cons byte bytes =>
          have asked : EndsIn (EncryptedStream.askRead ⟨[], tmpBufSize⟩)
              ⟨.fills (byte :: bytes) fits :: reads, writes, flushed, shut⟩
              (.ready (.ok ()), ⟨byte :: bytes, tmpBufSize⟩) ⟨reads, writes, flushed, shut⟩
              0 (byte :: bytes).length := ⟨rfl, rfl, rfl⟩
          obtain ⟨after, rest⟩ := ih (s.extendRaw (byte :: bytes)) ⟨reads, writes, flushed, shut⟩
            (Nat.lt_of_succ_lt_succ enough)
          rw [EncryptedStream.pollRead, empty]
          exact ⟨after, asked.bind rest (Nat.zero_add 0).symm List.length_append⟩
      · rw [EncryptedStream.pollRead, empty]
        exact ⟨⟨reads, writes, flushed, shut⟩, rfl, rfl, rfl⟩
      · rw [EncryptedStream.pollRead, empty]
        exact ⟨⟨reads, writes, flushed, shut⟩, rfl, rfl, rfl⟩

end Scripted

section Sessions

/-- What a call answers. -/
inductive Outcome where
  | wrote (result : PollIo Nat)
  | flushed (result : PollIo Unit)
  | shut (result : PollIo Unit)
  | read (result : PollIo Unit) (put : List UInt8)
  deriving DecidableEq, Repr

/-- What a call makes of an encrypted stream, with the bytes that cross the transport. -/
structure CallEffect where
  outcome : Outcome
  stream : EncryptedStream
  taken : List UInt8
  received : List UInt8

namespace StreamCall

def effect (s : EncryptedStream) : StreamCall → CallEffect
  | .write buf nanos nanos' inner =>
    let w := s.pollWrite inner.answers nanos nanos' buf.bytes
    ⟨.wrote w.result, w.stream, w.taken, []⟩
  | .flush inner innerFlush =>
    let w := s.pollFlush inner.answers innerFlush
    ⟨.flushed w.result, w.stream, w.taken, []⟩
  | .shutdown inner innerShutdown =>
    let w := s.pollShutdown inner.answers innerShutdown
    ⟨.shut w.result, w.stream, w.taken, []⟩
  | .read remaining inner =>
    let r := s.pollRead remaining inner
    ⟨.read r.result r.put, r.stream, [], r.received⟩

/-- What the transport answers during the call. -/
def script : StreamCall → Script
  | .write _ _ _ inner => ⟨[], inner.answers, .pending, .pending⟩
  | .flush inner innerFlush => ⟨[], inner.answers, innerFlush, .pending⟩
  | .shutdown inner innerShutdown => ⟨[], inner.answers, .pending, innerShutdown⟩
  | .read _ inner => ⟨inner, [], .pending, .pending⟩

/-- The polls of the call. -/
def polls (s : EncryptedStream) : StreamCall → StreamProgram (Outcome × EncryptedStream)
  | .write buf nanos nanos' _ => do
    let (result, s) ← s.writePolls nanos nanos' buf.bytes
    return (.wrote result, s)
  | .flush _ _ => do
    let (result, s) ← s.flushPolls
    return (.flushed result, s)
  | .shutdown _ _ => do
    let (result, s) ← s.shutdownPolls
    return (.shut result, s)
  | .read remaining inner => do
    let (result, put, s) ← s.readPolls remaining (inner.length + 1)
    return (.read result put, s)

lemma polls_effect (s : EncryptedStream) (call : StreamCall) :
    ∃ after, EndsIn (call.polls s) call.script ((call.effect s).outcome, (call.effect s).stream)
      after (call.effect s).taken.length (call.effect s).received.length := by
  cases call with
  | write buf nanos nanos' inner =>
    obtain ⟨after, ended⟩ := endsIn_writePolls s nanos nanos' buf.bytes
      ⟨[], inner.answers, .pending, .pending⟩
    exact ⟨after, ended.bind (endsIn_pure _ _) (Nat.add_zero _).symm (Nat.zero_add 0).symm⟩
  | flush inner innerFlush =>
    obtain ⟨after, ended⟩ := endsIn_flushPolls s ⟨[], inner.answers, innerFlush, .pending⟩
    exact ⟨after, ended.bind (endsIn_pure _ _) (Nat.add_zero _).symm (Nat.zero_add 0).symm⟩
  | shutdown inner innerShutdown =>
    obtain ⟨after, ended⟩ := endsIn_shutdownPolls s ⟨[], inner.answers, .pending, innerShutdown⟩
    exact ⟨after, ended.bind (endsIn_pure _ _) (Nat.add_zero _).symm (Nat.zero_add 0).symm⟩
  | read remaining inner =>
    obtain ⟨after, ended⟩ := endsIn_readPolls remaining s ⟨inner, [], .pending, .pending⟩
      (Nat.lt_succ_self _)
    exact ⟨after, ended.bind (endsIn_pure _ _) (Nat.zero_add 0).symm (Nat.add_zero _).symm⟩

lemma effect_call (e : Endpoint) (call : StreamCall) :
    (e.call call).stream = (call.effect e.stream).stream ∧
      (e.call call).taken = e.taken ++ (call.effect e.stream).taken ∧
      (e.call call).received = e.received ++ (call.effect e.stream).received := by
  cases call with
  | write buf nanos nanos' inner => exact ⟨rfl, rfl, (List.append_nil _).symm⟩
  | flush inner innerFlush => exact ⟨rfl, rfl, (List.append_nil _).symm⟩
  | shutdown inner innerShutdown => exact ⟨rfl, rfl, (List.append_nil _).symm⟩
  | read remaining inner => exact ⟨rfl, (List.append_nil _).symm, rfl⟩

end StreamCall

/-- A connection: its encrypted stream, the counting stream under it, and what its calls
have answered. -/
structure Connection where
  stream : EncryptedStream
  under : SharedStream Script
  outcomes : List Outcome := []

namespace Connection

def call (c : Connection) (call : StreamCall) : Connection :=
  let under := { c.under with counted := { c.under.counted with inner := call.script } }
  match run (SharedStream.poll Script.poll) (call.polls c.stream) under with
  | (.ok (outcome, stream), under) => ⟨stream, under, c.outcomes ++ [outcome]⟩
  | (.error (), under) => { c with under }

/-- A new connection, whose counters nobody resets. -/
def start (aes : Aes192) (key : AesKey) (bytesSent bytesReceived : UInt64) : Connection where
  stream := EncryptedStream.new aes key
  under := ⟨⟨⟨[], [], .pending, .pending⟩, bytesSent, bytesReceived⟩, []⟩

end Connection

/-- What the calls answer without counting, from the end `e` of a session. -/
def outcomes : Endpoint → List StreamCall → List Outcome
  | _, [] => []
  | e, call :: calls => (call.effect e.stream).outcome :: outcomes (e.call call) calls

namespace Connection

def run (aes : Aes192) (key : AesKey) (bytesSent bytesReceived : UInt64)
    (calls : List StreamCall) : Connection :=
  calls.foldl call (start aes key bytesSent bytesReceived)

/-- The connection holds the stream of the session, and has counted its bytes. -/
structure Follows (c : Connection) (e : Endpoint) (sent received : UInt64) : Prop where
  stream : c.stream = e.stream
  unreset : c.under.resets = []
  bytesSent : c.under.counted.bytesSent = sent + UInt64.ofNat e.taken.length
  bytesReceived : c.under.counted.bytesReceived = received + UInt64.ofNat e.received.length

/-- A call ends as the session has it, and counts what it moves. -/
lemma call_eq (c : Connection) (call : StreamCall) (unreset : c.under.resets = []) :
    ∃ after, c.call call =
      { stream := (call.effect c.stream).stream
        under :=
          { counted :=
              { inner := after
                bytesSent := c.under.counted.bytesSent +
                  UInt64.ofNat (call.effect c.stream).taken.length
                bytesReceived := c.under.counted.bytesReceived +
                  UInt64.ofNat (call.effect c.stream).received.length }
            resets := [] }
        outcomes := c.outcomes ++ [(call.effect c.stream).outcome] } := by
  obtain ⟨after, ended⟩ := call.polls_effect c.stream
  have none : sinceReset [] (traceOf Script.poll (call.polls c.stream) call.script) =
      (false, traceOf Script.poll (call.polls c.stream) call.script) :=
    sinceReset_of_none (by simp)
  refine ⟨after, ?_⟩
  simp [Connection.call, SharedStream.run_eq, ended.result, SharedStream.tally, unreset, none,
    ended.sent, ended.received]

lemma Follows.call {c : Connection} {e : Endpoint} {sent received : UInt64}
    (h : c.Follows e sent received) (call : StreamCall) :
    (c.call call).Follows (e.call call) sent received ∧
      (c.call call).outcomes = c.outcomes ++ [(call.effect e.stream).outcome] := by
  obtain ⟨after, called⟩ := c.call_eq call h.unreset
  obtain ⟨stream, taken, got⟩ := StreamCall.effect_call e call
  rw [called, h.stream]
  refine ⟨⟨stream.symm, rfl, ?_, ?_⟩, rfl⟩
  · rw [taken, List.length_append, h.bytesSent, UInt64.ofNat_add, UInt64.add_assoc]
  · rw [got, List.length_append, h.bytesReceived, UInt64.ofNat_add, UInt64.add_assoc]

lemma Follows.calls {c : Connection} {e : Endpoint} {sent received : UInt64}
    (h : c.Follows e sent received) (calls : List StreamCall) :
    (calls.foldl Connection.call c).Follows (calls.foldl Endpoint.call e) sent received ∧
      (calls.foldl Connection.call c).outcomes = c.outcomes ++ SatelIntegra.outcomes e calls := by
  induction calls generalizing c e with
  | nil => exact ⟨h, (List.append_nil _).symm⟩
  | cons call calls ih =>
    obtain ⟨follows, told⟩ := h.call call
    obtain ⟨later, rest⟩ := ih follows
    refine ⟨later, rest.trans ?_⟩
    rw [told, List.append_assoc]
    rfl

lemma follows_start (aes : Aes192) (key : AesKey) (sent received : UInt64) :
    (start aes key sent received).Follows { stream := EncryptedStream.new aes key }
      sent received := by
  constructor
  · rfl
  · rfl
  · simp [start]
  · simp [start]

end Connection

/-- The length of the packets around the buffers, each with its length byte. -/
def packetLengths : List Accepted → Nat
  | [] => 0
  | a :: accepted => 1 + max 16 (6 + a.buf.length) + packetLengths accepted

lemma packetLengths_append (accepted accepted' : List Accepted) :
    packetLengths (accepted ++ accepted') = packetLengths accepted + packetLengths accepted' := by
  induction accepted with
  | nil => exact (Nat.zero_add _).symm
  | cons a accepted ih =>
    rw [List.cons_append, packetLengths, packetLengths, ih]
    omega

lemma packets_length (c : SatelAesCipher) (accepted : List Accepted) :
    ((packets c accepted).flatMap (Packet.wire c)).length = packetLengths accepted := by
  induction accepted using List.reverseRecOn with
  | nil => rfl
  | append_singleton accepted a ih =>
    rw [packets_snoc, List.flatMap_append, List.length_append, ih, packetLengths_append]
    simp [Packet.wire, packetLengths, Packet.plain_length, Accepted.packet, Nat.add_comm]

/-- Counting changes nothing for the code over a stream, and whenever clients reset, the
counters hold the bytes that the transport has taken and given since, modulo 2^64. Those of an
encrypted connection are bytes of its packets. -/
theorem wire_bytes_counted :
    (∀ (σ α : Type) (stream : AsyncStream σ) (c : StreamProgram α) (s : SharedStream σ),
      SharedStream.Counts stream c s) ∧
    ∀ (aes : Aes192) (key : AesKey) (sent received : UInt64) (calls : List StreamCall),
      (Connection.run aes key sent received calls).Follows (Endpoint.run aes key calls)
        sent received ∧
      (Connection.run aes key sent received calls).outcomes =
        outcomes { stream := EncryptedStream.new aes key } calls ∧
      (Endpoint.run aes key calls).taken.length +
          (Endpoint.run aes key calls).stream.writeBuffer.length =
        packetLengths (Endpoint.run aes key calls).accepted := by
  constructor
  · intro σ α stream c s
    exact SharedStream.counts stream c s
  · intro aes key sent received calls
    obtain ⟨follows, told⟩ := (Connection.follows_start aes key sent received).calls calls
    refine ⟨follows, told, ?_⟩
    rw [← List.length_append, (Endpoint.sound_run aes key calls).wire, packets_length]

end Sessions

end SatelIntegra
