import SatelIntegra.Encryption
import SatelIntegra.IncrementalSplit

/-!
# The encrypted stream

A packet is a length byte and that many encrypted bytes: a random value, a counter,
two session ids and the plaintext, padded with zeros to one block. `poll_write` keeps
what the transport does not take at once; `poll_read` keeps an unfinished packet and
the plaintext that the caller did not fetch.

What the inner stream answers is an input: one answer for each call of it, and
`Pending` behind the last one.
-/

namespace SatelIntegra

inductive Poll (α : Type) where
  | ready (value : α)
  | pending
  deriving DecidableEq, Repr

inductive IoError where
  | writeZero (message : String)
  /-- An error of the inner stream. -/
  | inner
  deriving DecidableEq, Repr

abbrev PollIo (α : Type) := Poll (Except IoError α)

inductive WriteAnswer where
  /-- Takes what it is offered, up to `capacity` bytes. -/
  | takes (capacity : Nat)
  | pending
  | fails
  deriving DecidableEq, Repr

/-- The size of `tmp_buf`. -/
def tmpBufSize : Nat := 512

inductive ReadAnswer where
  | fills (bytes : List UInt8) (fits : bytes.length ≤ tmpBufSize)
  | pending
  | fails

structure EncryptedStream where
  cipher : SatelAesCipher
  idS : UInt8
  idR : UInt8
  rollingCounter : UInt16
  readBuffer : List UInt8
  rawReadBuffer : List UInt8
  expectedRespLen : Option Nat
  writeBuffer : List UInt8

/-- From `subsec_nanos` of the clock. -/
def pseudoRandomU16 (nanos : UInt32) : UInt16 := (nanos &&& 0xFFFF).toUInt16

def pseudoRandomU8 (nanos : UInt32) : UInt8 := ((nanos >>> 16) &&& 0xFF).toUInt8

/-- How a loop over `write_buffer` ends, and the bytes the inner stream took. -/
structure Drained where
  result : PollIo Unit
  answers : List WriteAnswer
  buffer : List UInt8
  taken : List UInt8

def drainBuffer (message : String) : List WriteAnswer → List UInt8 → Drained
  | answers, [] => ⟨.ready (.ok ()), answers, [], []⟩
  | [], byte :: buffer => ⟨.pending, [], byte :: buffer, []⟩
  | .pending :: answers, byte :: buffer => ⟨.pending, answers, byte :: buffer, []⟩
  | .fails :: answers, byte :: buffer =>
    ⟨.ready (.error .inner), answers, byte :: buffer, []⟩
  | .takes 0 :: answers, byte :: buffer =>
    ⟨.ready (.error (.writeZero message)), answers, byte :: buffer, []⟩
  | .takes (n + 1) :: answers, byte :: buffer =>
    let rest := drainBuffer message answers (buffer.drop n)
    { rest with taken := byte :: (buffer.take n ++ rest.taken) }

/-- What a call of `poll_write`, `poll_flush` or `poll_shutdown` leaves. -/
structure Written (α : Type) where
  result : PollIo α
  stream : EncryptedStream
  /-- The bytes that the inner stream took. -/
  taken : List UInt8

/-- What a call of `poll_read` leaves. -/
structure Polled where
  result : PollIo Unit
  stream : EncryptedStream
  /-- The bytes put into the caller's buffer. -/
  put : List UInt8
  /-- The bytes that came from the inner stream. -/
  received : List UInt8

namespace EncryptedStream

def new (aes : Aes192) (key : AesKey) : EncryptedStream where
  cipher := SatelAesCipher.new aes key
  idS := 0
  idR := 0
  rollingCounter := 0
  readBuffer := []
  rawReadBuffer := []
  expectedRespLen := none
  writeBuffer := []

/-- The packet around `buf`, in the empty `write_buffer`. -/
def wrap (s : EncryptedStream) (nanos nanos' : UInt32) (buf : List UInt8) : EncryptedStream :=
  let bytesCount := max 16 (6 + buf.length)
  let randomVal := pseudoRandomU16 nanos
  let idS := pseudoRandomU8 nanos'
  let data := (((((List.replicate bytesCount (0 : UInt8)).set 0 (randomVal >>> 8).toUInt8
    ).set 1 (randomVal &&& 0xFF).toUInt8).set 2 (s.rollingCounter >>> 8).toUInt8
    ).set 3 (s.rollingCounter &&& 0xFF).toUInt8).set 4 idS |>.set 5 s.idR
  -- data[6..6 + buf.len()].copy_from_slice(buf)
  let data := data.take 6 ++ buf ++ data.drop (6 + buf.length)
  { s with
    idS
    rollingCounter := s.rollingCounter + 1
    writeBuffer := UInt8.ofNat bytesCount :: s.cipher.encrypt data }

def writeMessage : String := "failed to write encrypted data to stream"

def pollWrite (s : EncryptedStream) (answers : List WriteAnswer) (nanos nanos' : UInt32)
    (buf : List UInt8) : Written Nat :=
  let flushed := drainBuffer writeMessage answers s.writeBuffer
  match flushed.result with
  | .pending => ⟨.pending, { s with writeBuffer := flushed.buffer }, flushed.taken⟩
  | .ready (.error e) =>
    ⟨.ready (.error e), { s with writeBuffer := flushed.buffer }, flushed.taken⟩
  | .ready (.ok ()) =>
    if buf.isEmpty then
      ⟨.ready (.ok 0), { s with writeBuffer := flushed.buffer }, flushed.taken⟩
    else
      let s := s.wrap nanos nanos' buf
      let sent := drainBuffer writeMessage flushed.answers s.writeBuffer
      let result : PollIo Nat :=
        match sent.result with
        | .ready (.error e) => .ready (.error e)
        -- what is left stays buffered
        | .pending | .ready (.ok ()) => .ready (.ok buf.length)
      ⟨result, { s with writeBuffer := sent.buffer }, flushed.taken ++ sent.taken⟩

/-- Empties `write_buffer`, then asks the inner stream. -/
def drainThen (message : String) (s : EncryptedStream) (answers : List WriteAnswer)
    (inner : PollIo Unit) : Written Unit :=
  let drained := drainBuffer message answers s.writeBuffer
  let result :=
    match drained.result with
    | .ready (.ok ()) => inner
    | blocked => blocked
  ⟨result, { s with writeBuffer := drained.buffer }, drained.taken⟩

def pollFlush := drainThen "failed to flush encrypted buffer to stream"

def pollShutdown := drainThen "failed to flush encrypted buffer before shutdown"

/-- The length byte of the next packet, unless it is known already. -/
def readPrefix (s : EncryptedStream) : EncryptedStream :=
  match s.expectedRespLen, s.rawReadBuffer with
  | none, lenPrefix :: raw =>
    { s with rawReadBuffer := raw, expectedRespLen := some lenPrefix.toNat }
  | _, _ => s

def takePacket (s : EncryptedStream) (targetLen : Nat) : EncryptedStream :=
  let packetData := s.cipher.decrypt (s.rawReadBuffer.take targetLen)
  let s := { s with rawReadBuffer := s.rawReadBuffer.drop targetLen, expectedRespLen := none }
  if 6 ≤ packetData.length then
    { s with
      idR := packetData.getD 4 0
      readBuffer := s.readBuffer ++ packetData.drop 6 }
  else s

/-- The loop over incoming packets, for at most so many packets. -/
def processPackets : Nat → EncryptedStream → EncryptedStream
  | 0, s => s
  | rounds + 1, s =>
    let s := s.readPrefix
    match s.expectedRespLen with
    | none => s
    | some targetLen =>
      if s.rawReadBuffer.length < targetLen then s
      else processPackets rounds (s.takePacket targetLen)

/-- A packet takes at least its length byte, and one of them may be read already. -/
def extendRaw (s : EncryptedStream) (bytes : List UInt8) : EncryptedStream :=
  let s := { s with rawReadBuffer := s.rawReadBuffer ++ bytes }
  s.processPackets (s.rawReadBuffer.length + 1)

def yieldPlain (s : EncryptedStream) (remaining : Nat) : Polled :=
  let toCopy := min s.readBuffer.length remaining
  ⟨.ready (.ok ()), { s with readBuffer := s.readBuffer.drop toCopy },
    s.readBuffer.take toCopy, []⟩

/-- `remaining` is the room in the caller's buffer. -/
def pollRead (remaining : Nat) : List ReadAnswer → EncryptedStream → Polled
  | [], s => if s.readBuffer.isEmpty then ⟨.pending, s, [], []⟩ else s.yieldPlain remaining
  | answer :: answers, s =>
    if s.readBuffer.isEmpty then
      match answer with
      | .pending => ⟨.pending, s, [], []⟩
      | .fails => ⟨.ready (.error .inner), s, [], []⟩
      -- end of file
      | .fills [] _ => ⟨.ready (.ok ()), s, [], []⟩
      | .fills (byte :: bytes) _ =>
        let rest := pollRead remaining answers (s.extendRaw (byte :: bytes))
        { rest with received := byte :: bytes ++ rest.received }
    else s.yieldPlain remaining

end EncryptedStream
end SatelIntegra
