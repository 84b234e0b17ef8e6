import SatelIntegra.EncryptedPackets

/-!
# Sessions over the encrypted stream

One end of a session calls `poll_write`, `poll_flush`, `poll_shutdown` and `poll_read`
in any order. A log keeps what the transport took and gave, what `poll_write` accepted
and what `poll_read` yielded. The wire carries one packet for each accepted buffer, and
another end with the same key reads the buffers from any prefix of the wire.
-/

namespace SatelIntegra

open IncrementalSplit

/-- A buffer whose packet has a length that fits its length byte. -/
structure WriteBuf where
  bytes : List UInt8
  nonempty : bytes ≠ []
  short : bytes.length ≤ 249

/-- Answers without an error: at least one byte is taken, or the stream is not ready. -/
def WriteAnswer.Smooth : WriteAnswer → Prop
  | .takes capacity => 1 ≤ capacity
  | .pending => True
  | .fails => False

structure SmoothAnswers where
  answers : List WriteAnswer
  smooth : ∀ answer ∈ answers, answer.Smooth

/-- A call, with the clock readings and what the inner stream answers. -/
inductive StreamCall where
  | write (buf : WriteBuf) (nanos nanos' : UInt32) (inner : SmoothAnswers)
  | flush (inner : SmoothAnswers) (innerFlush : PollIo Unit)
  | shutdown (inner : SmoothAnswers) (innerShutdown : PollIo Unit)
  | read (remaining : Nat) (inner : List ReadAnswer)

/-- A call of `poll_read` with room in the caller's buffer. -/
structure ReadCall where
  remaining : Nat
  room : 1 ≤ remaining
  inner : List ReadAnswer

def ReadCall.toCall (r : ReadCall) : StreamCall := .read r.remaining r.inner

/-- A buffer that `poll_write` accepted, with the clock readings of that call and the bytes
received before it. -/
structure Accepted where
  buf : List UInt8
  nanos : UInt32
  nanos' : UInt32
  received : List UInt8

structure Endpoint where
  stream : EncryptedStream
  taken : List UInt8 := []
  received : List UInt8 := []
  accepted : List Accepted := []
  yielded : List UInt8 := []

namespace Endpoint

def call (e : Endpoint) : StreamCall → Endpoint
  | .write buf nanos nanos' inner =>
    let w := e.stream.pollWrite inner.answers nanos nanos' buf.bytes
    { e with
      stream := w.stream
      taken := e.taken ++ w.taken
      accepted :=
        match w.result with
        | .ready (.ok _) => e.accepted ++ [⟨buf.bytes, nanos, nanos', e.received⟩]
        | _ => e.accepted }
  | .flush inner innerFlush =>
    let w := e.stream.pollFlush inner.answers innerFlush
    { e with stream := w.stream, taken := e.taken ++ w.taken }
  | .shutdown inner innerShutdown =>
    let w := e.stream.pollShutdown inner.answers innerShutdown
    { e with stream := w.stream, taken := e.taken ++ w.taken }
  | .read remaining inner =>
    let r := e.stream.pollRead remaining inner
    { e with
      stream := r.stream
      received := e.received ++ r.received
      yielded := e.yielded ++ r.put }

def run (aes : Aes192) (key : AesKey) (calls : List StreamCall) : Endpoint :=
  calls.foldl call { stream := EncryptedStream.new aes key }

end Endpoint

/-- The packet of the `k`-th accepted buffer. -/
def Accepted.packet (c : SatelAesCipher) (a : Accepted) (k : Nat) : Packet where
  random := pseudoRandomU16 a.nanos
  counter := UInt16.ofNat (k % 65536)
  idS := pseudoRandomU8 a.nanos'
  idR := lastIdS c (packetSplitter.items a.received)
  payload := a.buf

def packets (c : SatelAesCipher) (accepted : List Accepted) : List Packet :=
  accepted.zipIdx.map fun (a, k) => a.packet c k

section Writing

lemma drainBuffer_taken (message : String) (answers : List WriteAnswer) (buffer : List UInt8) :
    (drainBuffer message answers buffer).taken ++ (drainBuffer message answers buffer).buffer =
      buffer := by
  fun_induction drainBuffer message answers buffer with
  | case6 n answers byte buffer rest ih =>
    simp only [List.cons_append, List.append_assoc, rest, ih, List.take_append_drop]
  | _ => rfl

lemma drainBuffer_done (message : String) (answers : List WriteAnswer) (buffer : List UInt8)
    (done : (drainBuffer message answers buffer).result = .ready (.ok ())) :
    (drainBuffer message answers buffer).buffer = [] := by
  fun_induction drainBuffer message answers buffer with
  | case1 answers => rfl
  | case6 n answers byte buffer rest ih => exact ih done
  | _ => cases done

lemma drainBuffer_smooth (message : String) {answers : List WriteAnswer} (buffer : List UInt8)
    (smooth : ∀ answer ∈ answers, answer.Smooth) :
    ((drainBuffer message answers buffer).result = .ready (.ok ()) ∧
      (drainBuffer message answers buffer).buffer = [] ∨
      (drainBuffer message answers buffer).result = .pending) ∧
    ∀ answer ∈ (drainBuffer message answers buffer).answers, answer.Smooth := by
  fun_induction drainBuffer message answers buffer with
  | case1 answers => exact ⟨Or.inl ⟨rfl, rfl⟩, smooth⟩
  | case2 byte buffer => exact ⟨Or.inr rfl, smooth⟩
  | case3 answers byte buffer =>
    exact ⟨Or.inr rfl, fun answer h => smooth answer (List.mem_cons_of_mem _ h)⟩
  | case4 answers byte buffer => exact (smooth .fails List.mem_cons_self).elim
  | case5 answers byte buffer =>
    exact absurd (smooth (.takes 0) List.mem_cons_self) (by simp [WriteAnswer.Smooth])
  | case6 n answers byte buffer rest ih =>
    exact ih fun answer h => smooth answer (List.mem_cons_of_mem _ h)

namespace EncryptedStream

lemma wrap_writeBuffer (s : EncryptedStream) (nanos nanos' : UInt32) (buf : List UInt8) :
    (s.wrap nanos nanos' buf).writeBuffer = Packet.wire s.cipher
      ⟨pseudoRandomU16 nanos, s.rollingCounter, pseudoRandomU8 nanos', s.idR, buf⟩ := by
  have zeros : List.replicate (max 16 (6 + buf.length)) (0 : UInt8) =
      List.replicate 6 0 ++ List.replicate (max 10 buf.length) 0 := by
    rw [← List.replicate_add]
    congr 1
    omega
  have pad : max 10 buf.length - buf.length = 10 - buf.length := by omega
  simp only [wrap, Packet.wire, Packet.plain_length]
  rw [zeros]
  simp [Packet.plain, padded, List.replicate_succ, Nat.add_comm 6 buf.length, pad]

/-- `poll_write` either makes no packet or adds one to what it had buffered. -/
lemma pollWrite_cases (s : EncryptedStream) (inner : SmoothAnswers) (nanos nanos' : UInt32)
    (buf : WriteBuf) :
    (∃ left taken, taken ++ left = s.writeBuffer ∧
      s.pollWrite inner.answers nanos nanos' buf.bytes =
        ⟨.pending, { s with writeBuffer := left }, taken⟩) ∨
    ∃ left taken, taken ++ left = s.writeBuffer ++ (s.wrap nanos nanos' buf.bytes).writeBuffer ∧
      s.pollWrite inner.answers nanos nanos' buf.bytes =
        ⟨.ready (.ok buf.bytes.length), { s.wrap nanos nanos' buf.bytes with writeBuffer := left },
          taken⟩ := by
  have nonempty : buf.bytes.isEmpty = false := by simpa using buf.nonempty
  have hflushed := drainBuffer_taken writeMessage inner.answers s.writeBuffer
  have smooth := drainBuffer_smooth writeMessage s.writeBuffer inner.smooth
  generalize hf : drainBuffer writeMessage inner.answers s.writeBuffer = flushed at hflushed smooth
  rcases smooth with ⟨⟨done, emptied⟩ | blocked, smooth⟩
  · have hsent := drainBuffer_taken writeMessage flushed.answers
      (s.wrap nanos nanos' buf.bytes).writeBuffer
    have ends := (drainBuffer_smooth writeMessage
      (s.wrap nanos nanos' buf.bytes).writeBuffer smooth).1
    generalize hs : drainBuffer writeMessage flushed.answers
      (s.wrap nanos nanos' buf.bytes).writeBuffer = sent at hsent ends
    refine Or.inr ⟨sent.buffer, flushed.taken ++ sent.taken, ?_, ?_⟩
    · rw [emptied, List.append_nil] at hflushed
      rw [List.append_assoc, hsent, hflushed]
    · rcases ends with ⟨done', -⟩ | blocked'
      · simp [pollWrite, hf, done, nonempty, hs, done']
      · simp [pollWrite, hf, done, nonempty, hs, blocked']
  · refine Or.inl ⟨flushed.buffer, flushed.taken, hflushed, ?_⟩
    simp [pollWrite, hf, blocked]

lemma drainThen_taken (message : String) (s : EncryptedStream) (answers : List WriteAnswer)
    (inner : PollIo Unit) :
    ∃ left taken, taken ++ left = s.writeBuffer ∧
      (s.drainThen message answers inner).stream = { s with writeBuffer := left } ∧
      (s.drainThen message answers inner).taken = taken :=
  ⟨_, _, drainBuffer_taken _ answers s.writeBuffer, rfl, rfl⟩

end EncryptedStream
end Writing

section Sound
variable (c : SatelAesCipher)

lemma packets_snoc (accepted : List Accepted) (a : Accepted) :
    packets c (accepted ++ [a]) = packets c accepted ++ [a.packet c accepted.length] := by
  simp [packets, List.zipIdx_append]

lemma packets_payload (accepted : List Accepted) :
    (packets c accepted).map Packet.payload = accepted.map Accepted.buf := by
  have step : (packets c accepted).map Packet.payload =
      (accepted.zipIdx.map Prod.fst).map Accepted.buf := by
    rw [packets, List.map_map, List.map_map]
    rfl
  rw [step, List.zipIdx_map_fst]

/-- What holds of one end of a session after any calls. -/
structure Endpoint.Sound (e : Endpoint) : Prop where
  cipher : e.stream.cipher = c
  fits : e.stream.LengthFits
  unfinished : e.stream.unfinished = packetSplitter.rest e.received
  plain : e.yielded ++ e.stream.readBuffer = plaintexts c (packetSplitter.items e.received)
  idR : e.stream.idR = lastIdS c (packetSplitter.items e.received)
  counter : e.stream.rollingCounter = UInt16.ofNat e.accepted.length
  short : ∀ a ∈ e.accepted, a.buf.length ≤ 249
  wire : e.taken ++ e.stream.writeBuffer = (packets c e.accepted).flatMap (Packet.wire c)

variable {c}

namespace Endpoint

lemma sound_new (aes : Aes192) (key : AesKey) :
    Sound (SatelAesCipher.new aes key) { stream := EncryptedStream.new aes key } := by
  have none : packetSplitter.split [] = none := packetSplitter_nil
  constructor <;> simp [EncryptedStream.new, EncryptedStream.LengthFits, EncryptedStream.unfinished,
    Splitter.items_of_none none, Splitter.rest_of_none none, plaintexts, lastIdS, packets]

lemma Sound.write {e : Endpoint} (h : Sound c e) (buf : WriteBuf) (nanos nanos' : UInt32)
    (inner : SmoothAnswers) : Sound c (e.call (.write buf nanos nanos' inner)) := by
  rcases e.stream.pollWrite_cases inner nanos nanos' buf with
    ⟨left, taken, hleft, hwrite⟩ | ⟨left, taken, hleft, hwrite⟩
  · simp only [call, hwrite]
    refine { h with wire := ?_ }
    rw [List.append_assoc, hleft]
    exact h.wire
  · simp only [call, hwrite]
    refine ⟨h.cipher, h.fits, h.unfinished, h.plain, h.idR, ?_, ?_, ?_⟩
    · show e.stream.rollingCounter + 1 = UInt16.ofNat (e.accepted ++ [_]).length
      rw [h.counter, List.length_append]
      simp
    · intro a ha
      rcases List.mem_append.mp ha with ha | ha
      · exact h.short a ha
      · obtain rfl := List.mem_singleton.mp ha
        exact buf.short
    · have counter : UInt16.ofNat (e.accepted.length % 65536) = e.stream.rollingCounter := by
        rw [h.counter]
        exact UInt16.ofNat_mod_size
      show (e.taken ++ taken) ++ left = _
      rw [List.append_assoc, hleft, ← List.append_assoc, h.wire, e.stream.wrap_writeBuffer,
        packets_snoc, List.flatMap_append, h.cipher, ← counter, h.idR]
      simp [Accepted.packet]

lemma Sound.drain {e : Endpoint} (h : Sound c e) (message : String) (answers : List WriteAnswer)
    (inner : PollIo Unit) :
    let w := e.stream.drainThen message answers inner
    Sound c { e with stream := w.stream, taken := e.taken ++ w.taken } := by
  obtain ⟨left, taken, hleft, hstream, htaken⟩ := e.stream.drainThen_taken message answers inner
  simp only [hstream, htaken]
  refine { h with wire := ?_ }
  rw [List.append_assoc, hleft]
  exact h.wire

lemma Sound.read {e : Endpoint} (h : Sound c e) (remaining : Nat) (inner : List ReadAnswer) :
    Sound c (e.call (.read remaining inner)) := by
  have incomplete : packetSplitter.split e.stream.unfinished = none := by
    rw [h.unfinished]
    exact Splitter.split_rest _
  have read := EncryptedStream.pollRead_processed remaining inner h.fits incomplete
  rw [h.unfinished, ← Splitter.rest_append] at read
  have items := packetSplitter.items_append e.received
    (EncryptedStream.pollRead remaining inner e.stream).received
  have plain := read.readBuffer
  have idR := read.idR
  rw [h.cipher] at plain idR
  refine ⟨read.writes.1.trans h.cipher, read.fits, read.unfinished, ?_, ?_,
    read.writes.2.2.trans h.counter, h.short, ?_⟩
  · show (e.yielded ++ (EncryptedStream.pollRead remaining inner e.stream).put) ++
      (EncryptedStream.pollRead remaining inner e.stream).stream.readBuffer =
      plaintexts c (packetSplitter.items (e.received ++ _))
    rw [items, plaintexts_append, ← h.plain, List.append_assoc, List.append_assoc]
    exact congrArg (e.yielded ++ ·) plain
  · show (EncryptedStream.pollRead remaining inner e.stream).stream.idR =
      lastIdS c (packetSplitter.items (e.received ++ _))
    rw [items, lastIdS, List.foldl_append]
    rw [h.idR] at idR
    exact idR
  · exact (congrArg (e.taken ++ ·) read.writes.2.1).trans h.wire

lemma Sound.call {e : Endpoint} (h : Sound c e) (call : StreamCall) : Sound c (e.call call) := by
  cases call with
  | write buf nanos nanos' inner => exact h.write buf nanos nanos' inner
  | flush inner innerFlush => exact h.drain _ inner.answers innerFlush
  | shutdown inner innerShutdown => exact h.drain _ inner.answers innerShutdown
  | read remaining inner => exact h.read remaining inner

lemma Sound.calls {e : Endpoint} (h : Sound c e) (calls : List StreamCall) :
    Sound c (calls.foldl Endpoint.call e) := by
  induction calls generalizing e with
  | nil => exact h
  | cons call calls ih => exact ih (h.call call)

lemma sound_run (aes : Aes192) (key : AesKey) (calls : List StreamCall) :
    Sound (SatelAesCipher.new aes key) (run aes key calls) :=
  (sound_new aes key).calls calls

/-- The buffers that `poll_write` accepted, as they arrive. -/
def plaintext (e : Endpoint) : List UInt8 := (e.accepted.map Accepted.buf).flatMap padded

lemma items_wire {ps : List Packet} (short : ∀ p ∈ ps, p.payload.length ≤ 249) :
    packetSplitter.items (ps.flatMap (Packet.wire c)) = ps.map fun p => c.encrypt p.plain := by
  induction ps with
  | nil => exact Splitter.items_of_none packetSplitter_nil
  | cons p ps ih =>
    have found := splitPacket_wire c (short p List.mem_cons_self) (ps.flatMap (Packet.wire c))
    rw [List.flatMap_cons, Splitter.items_of_some found,
      ih fun p hp => short p (List.mem_cons_of_mem _ hp), List.map_cons]

lemma plaintexts_wire (ps : List Packet) :
    plaintexts c (ps.map fun p => c.encrypt p.plain) = (ps.map Packet.payload).flatMap padded := by
  simp [plaintexts, List.flatMap_map, Packet.plain]

lemma Sound.plaintext {e : Endpoint} (h : Sound c e) :
    plaintexts c (packetSplitter.items (e.taken ++ e.stream.writeBuffer)) = e.plaintext := by
  have short : ∀ p ∈ packets c e.accepted, p.payload.length ≤ 249 := by
    intro p hp
    have hpayload := List.mem_map_of_mem (f := Packet.payload) hp
    rw [packets_payload] at hpayload
    obtain ⟨a, ha, hbuf⟩ := List.mem_map.mp hpayload
    exact hbuf ▸ h.short a ha
  rw [h.wire, items_wire short, plaintexts_wire, packets_payload]
  rfl

/-- What has been read is a prefix of what was accepted. -/
lemma Sound.reads_part {sender receiver : Endpoint} (h : Sound c sender)
    (h' : Sound c receiver) (arrived : receiver.received <+: sender.taken) :
    receiver.yielded ++ receiver.stream.readBuffer <+: sender.plaintext := by
  obtain ⟨missing, hmissing⟩ := arrived.trans (List.prefix_append _ sender.stream.writeBuffer)
  rw [h'.plain, ← h.plaintext, ← hmissing, Splitter.items_append, plaintexts_append]
  exact List.prefix_append _ _

lemma Sound.reads_all {sender receiver : Endpoint} (h : Sound c sender)
    (h' : Sound c receiver) (arrived : receiver.received = sender.taken)
    (flushed : sender.stream.writeBuffer = []) :
    receiver.yielded ++ receiver.stream.readBuffer = sender.plaintext := by
  rw [h'.plain, ← h.plaintext, flushed, List.append_nil, arrived]

lemma received_grows (e : Endpoint) (calls : List StreamCall) :
    e.received <+: (calls.foldl call e).received := by
  induction calls generalizing e with
  | nil => exact List.prefix_refl _
  | cons next calls ih =>
    refine List.IsPrefix.trans ?_ (ih (e.call next))
    cases next with
    | write => exact List.prefix_refl _
    | flush => exact List.prefix_refl _
    | shutdown => exact List.prefix_refl _
    | read => exact List.prefix_append _ _

/-- With nothing more to come, each call shortens what is left. -/
lemma Sound.read_shortens {e : Endpoint} (h : Sound c e) (r : ReadCall)
    (nothing : (e.call r.toCall).received = e.received) :
    (e.call r.toCall).stream.readBuffer.length ≤ e.stream.readBuffer.length - 1 := by
  have room := r.room
  cases empty : e.stream.readBuffer.isEmpty with
  | false =>
    have buffered := List.length_pos_iff.mpr (List.isEmpty_eq_false_iff.mp empty)
    simp only [ReadCall.toCall, Endpoint.call,
      EncryptedStream.pollRead_of_buffered r.remaining r.inner empty, EncryptedStream.yieldPlain,
      List.length_drop]
    omega
  | true =>
    have before := h.plain
    have after := (h.call r.toCall).plain
    rw [nothing, ← before, List.isEmpty_iff.mp empty, List.append_nil] at after
    have lengths := congrArg List.length after
    simp only [ReadCall.toCall, Endpoint.call, List.length_append] at lengths ⊢
    omega

lemma Sound.reads_empty {e : Endpoint} (h : Sound c e) (reads : List ReadCall)
    (nothing : ((reads.map ReadCall.toCall).foldl Endpoint.call e).received = e.received)
    (enough : e.stream.readBuffer.length ≤ reads.length) :
    ((reads.map ReadCall.toCall).foldl Endpoint.call e).stream.readBuffer = [] := by
  induction reads generalizing e with
  | nil => exact List.eq_nil_of_length_eq_zero (Nat.le_zero.mp enough)
  | cons r reads ih =>
    have first := e.received_grows [r.toCall]
    have later := (e.call r.toCall).received_grows (reads.map ReadCall.toCall)
    rw [List.map_cons, List.foldl_cons] at nothing ⊢
    rw [nothing] at later
    have same : (e.call r.toCall).received = e.received := later.eq_of_length_le first.length_le
    refine ih (h.call r.toCall) (nothing.trans same.symm) ?_
    have shorter := h.read_shortens r same
    rw [List.length_cons] at enough
    omega

end Endpoint

/-- The wire carries the accepted buffers, one packet each, and any other end with the key reads
them back. -/
theorem session_faithful (aes : Aes192) (key : AesKey) (calls : List StreamCall) :
    let c := SatelAesCipher.new aes key
    let sender := Endpoint.run aes key calls
    sender.taken ++ sender.stream.writeBuffer =
        (packets c sender.accepted).flatMap (Packet.wire c) ∧
      ∀ calls' : List StreamCall,
        let receiver := Endpoint.run aes key calls'
        (receiver.received <+: sender.taken → receiver.yielded <+: sender.plaintext) ∧
        ∀ reads : List ReadCall,
          let receiver' := Endpoint.run aes key (calls' ++ reads.map ReadCall.toCall)
          receiver.received = sender.taken ∧ receiver'.received = sender.taken ∧
              sender.stream.writeBuffer = [] ∧
              receiver.stream.readBuffer.length ≤ reads.length →
            receiver'.yielded = sender.plaintext := by
  intro c sender
  have sent : Endpoint.Sound c sender := Endpoint.sound_run aes key calls
  refine ⟨sent.wire, fun calls' => ?_⟩
  intro receiver
  have got : Endpoint.Sound c receiver := Endpoint.sound_run aes key calls'
  refine ⟨fun arrived => ?_, ?_⟩
  · exact (List.prefix_append _ _).trans (sent.reads_part got arrived)
  · rintro reads receiver' ⟨before, after, flushed, enough⟩
    have got' : Endpoint.Sound c receiver' := Endpoint.sound_run aes key _
    have hrun : receiver' = (reads.map ReadCall.toCall).foldl Endpoint.call receiver :=
      List.foldl_append
    have empty : receiver'.stream.readBuffer = [] := by
      rw [hrun] at after ⊢
      exact got.reads_empty reads (after.trans before.symm) enough
    have all := sent.reads_all got' after flushed
    rwa [empty, List.append_nil] at all

end Sound

end SatelIntegra
