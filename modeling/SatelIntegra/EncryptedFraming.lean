import SatelIntegra.CodecChunks
import SatelIntegra.CodecRoundTrip
import SatelIntegra.EncryptedSession

/-!
# Frames through the encrypted stream

A packet holds at least one block, so a short frame arrives with zero bytes behind
its trailer. The decoder looks for the next header, and a zero is never part of one:
the padding is noise between two segments.
-/

namespace SatelIntegra

open PairSearch IncrementalSplit

/-- A frame that fits one packet and survives decoding. -/
structure SentFrame where
  payload : Frame
  nonempty : payload ≠ []
  first : payload.head? ≠ some 0x0D
  short : (encode payload).length ≤ 249

def SentFrame.encoded (f : SentFrame) : List UInt8 := encode f.payload

lemma takeSegment_zero (src : List UInt8) : takeSegment (0 :: src) = takeSegment src := by
  have header : toHeader (0 :: src) = toHeader src := by
    simp [toHeader, pairPosition_cons_of_ne _ (by decide : (0 : UInt8) ≠ 0xFE), Function.comp_def]
  rw [takeSegment, takeSegment, header]

lemma segments_padding (n : Nat) (src : List UInt8) :
    segments (List.replicate n 0 ++ src) = segments src := by
  induction n with
  | zero => rfl
  | succ n ih =>
    rw [List.replicate_succ, List.cons_append, ← ih]
    exact Splitter.items_congr (takeSegment_zero _)

/-- The segments of padded frames are the frames. -/
lemma segments_padded (frames : List SentFrame) :
    segments ((frames.map SentFrame.encoded).flatMap padded) = frames.map SentFrame.encoded := by
  induction frames with
  | nil => exact segments_of_none rfl
  | cons f frames ih =>
    have found (rest : List UInt8) : takeSegment (f.encoded ++ rest) = some (f.encoded, rest) :=
      takeSegment_encode f.first rest
    rw [List.map_cons, List.flatMap_cons, padded, List.append_assoc, segments_of_some (found _),
      segments_padding, ih]

lemma payloads_encoded (frames : List SentFrame) :
    payloads (frames.map SentFrame.encoded) = frames.map SentFrame.payload := by
  induction frames with
  | nil => rfl
  | cons f frames ih =>
    rw [List.map_cons, payloads, SentFrame.encoded, readSegment_encode]
    exact congrArg (f.payload :: ·) ih

lemma countCrcErrors_encoded (codec : SatelCodec) (frames : List SentFrame) :
    countCrcErrors codec (frames.map SentFrame.encoded) = codec := by
  induction frames with
  | nil => rfl
  | cons f frames ih =>
    rw [List.map_cons, countCrcErrors, SentFrame.encoded, readSegment_encode]
    exact ih

/-- What has been read of padded frames has the first of them as segments. -/
lemma segments_part {frames : List SentFrame} {src : List UInt8}
    (h : src <+: (frames.map SentFrame.encoded).flatMap padded) :
    ∃ n, segments src = (frames.take n).map SentFrame.encoded := by
  obtain ⟨missing, hmissing⟩ := h
  have whole : segments src ++ segmentSplitter.items (segmentSplitter.rest src ++ missing) =
      frames.map SentFrame.encoded := by
    rw [← segments_padded, ← hmissing]
    exact (Splitter.items_append src missing).symm
  refine ⟨(segments src).length, ?_⟩
  rw [List.map_take, ← whole, List.take_left]

/-- The frames of one end are decoded by the other, in order and without a checksum error. -/
theorem framing_survives_padding (aes : Aes192) (key : AesKey) (calls calls' : List StreamCall)
    (frames : List SentFrame) (codec : SatelCodec) (chunks : List (List UInt8))
    (sent : (Endpoint.run aes key calls).accepted.map Accepted.buf =
      frames.map SentFrame.encoded)
    (arrived : (Endpoint.run aes key calls').received <+: (Endpoint.run aes key calls).taken)
    (cut : chunks.flatten = (Endpoint.run aes key calls').yielded) :
    ∃ decoded kept, feedChunks codec [] chunks = some (decoded, codec, kept) ∧
      decoded <+: frames.map SentFrame.payload ∧
      ((Endpoint.run aes key calls').received = (Endpoint.run aes key calls).taken →
        (Endpoint.run aes key calls).stream.writeBuffer = [] →
        (Endpoint.run aes key calls').stream.readBuffer = [] →
        decoded = frames.map SentFrame.payload) := by
  have hsender := Endpoint.sound_run aes key calls
  have hreceiver := Endpoint.sound_run aes key calls'
  have plain : (Endpoint.run aes key calls).plaintext =
      (frames.map SentFrame.encoded).flatMap padded := by
    rw [Endpoint.plaintext, sent]
  have part : chunks.flatten <+: (frames.map SentFrame.encoded).flatMap padded := by
    rw [cut, ← plain]
    exact (List.prefix_append _ _).trans (hsender.reads_part hreceiver arrived)
  obtain ⟨n, hsegments⟩ := segments_part part
  obtain ⟨kept, hkept⟩ := feedChunks_eq codec [] chunks (segments_of_none rfl)
  rw [List.nil_append, hsegments, payloads_encoded, countCrcErrors_encoded] at hkept
  refine ⟨_, kept, hkept, ?_, fun all flushed fetched => ?_⟩
  · rw [List.map_take]
    exact List.take_prefix _ _
  · have yielded := hsender.reads_all hreceiver all flushed
    rw [fetched, List.append_nil, plain, ← cut] at yielded
    rw [yielded, segments_padded] at hsegments
    rw [← payloads_encoded, ← hsegments, payloads_encoded]

section Query

def versionQuery : SentFrame where
  payload := [0x7E]
  nonempty := by decide
  first := by decide
  short := by decide

def moduleQuery : SentFrame where
  payload := [0x7C]
  nonempty := by decide
  first := by decide
  short := by decide

def blankKey : AesKey := Vector.replicate aesKeySize 0x20

/-- `AES-192` of the zero block under `blankKey`. -/
def zeroCipher : Vector UInt8 aesBlockSize :=
  #v[0x6C, 0x5D, 0xD3, 0x01, 0x97, 0x69, 0xC7, 0x8B, 0xF0, 0x87, 0x66, 0x4F, 0xEE, 0x6E, 0x6B, 0xC8]

/-- The packet of the first query, masked with `zeroCipher`. -/
def queryBlock : Vector UInt8 aesBlockSize :=
  #v[0x6C, 0x5D, 0xD3, 0x01, 0x97, 0x69, 0x39, 0x75, 0x8E, 0x5F, 0x06, 0xB1, 0xE3, 0x6E, 0x6B, 0xC8]

/-- `AES-192` of `queryBlock` under `blankKey`. -/
def queryCipher : Vector UInt8 aesBlockSize :=
  #v[0x22, 0x97, 0x3D, 0x27, 0x53, 0xEE, 0x93, 0x1D, 0x29, 0xA8, 0xD8, 0x40, 0xEA, 0xA8, 0x6A, 0x90]

/-- The packet of the second query, masked with `zeroCipher`. -/
def moduleBlock : Vector UInt8 aesBlockSize :=
  #v[0x6C, 0x5D, 0xD3, 0x00, 0x97, 0x69, 0x39, 0x75, 0x8C, 0x5F, 0x38, 0xB1, 0xE3, 0x6E, 0x6B, 0xC8]

/-- `AES-192` of `moduleBlock` under `blankKey`. -/
def moduleCipher : Vector UInt8 aesBlockSize :=
  #v[0xFE, 0xCD, 0x92, 0xFD, 0xDB, 0x41, 0x2F, 0xC2, 0xDF, 0x48, 0x45, 0xB0, 0xAB, 0x3D, 0xF4, 0x6F]

def exchangeBlocks (a b block : Vector UInt8 aesBlockSize) : Vector UInt8 aesBlockSize :=
  if block = a then b else if block = b then a else block

lemma exchangeBlocks_twice (a b block : Vector UInt8 aesBlockSize) :
    exchangeBlocks a b (exchangeBlocks a b block) = block := by
  unfold exchangeBlocks
  split
  · split <;> simp_all
  · split <;> simp_all

/-- Block functions with the three values of `AES-192` that the queries need. -/
def queryAes : Aes192 := fun _ =>
  { encryptBlock := fun block =>
      exchangeBlocks (Vector.replicate aesBlockSize 0) zeroCipher
        (exchangeBlocks queryBlock queryCipher (exchangeBlocks moduleBlock moduleCipher block))
    decryptBlock := fun block =>
      exchangeBlocks moduleBlock moduleCipher (exchangeBlocks queryBlock queryCipher
        (exchangeBlocks (Vector.replicate aesBlockSize 0) zeroCipher block))
    decrypt_encrypt := fun block => by
      rw [exchangeBlocks_twice, exchangeBlocks_twice, exchangeBlocks_twice] }

/-- Two queries. The transport takes part of the first packet, and the rest with the second. -/
def queryCalls : List StreamCall :=
  [.write ⟨versionQuery.encoded, by decide, by decide⟩ 0 0 ⟨[.takes 5], by simp [WriteAnswer.Smooth]⟩,
    .write ⟨moduleQuery.encoded, by decide, by decide⟩ 0 0
      ⟨[.takes 100, .takes 100], by simp [WriteAnswer.Smooth]⟩]

/-- The second packet begins to arrive before the first one is read. -/
def queryReads : List StreamCall :=
  [.read 7 [.fills [0x10, 0x22, 0x97, 0x3D, 0x27] (by decide)],
    .read 7 [.fills [0x53, 0xEE, 0x93, 0x1D, 0x29, 0xA8, 0xD8, 0x40, 0xEA, 0xA8, 0x6A, 0x90, 0x10,
      0xFE] (by decide)],
    .read 7 [],
    .read 20 [.fills [0xCD, 0x92, 0xFD, 0xDB, 0x41, 0x2F, 0xC2, 0xDF, 0x48, 0x45, 0xB0, 0xAB, 0x3D,
      0xF4, 0x6F] (by decide)]]

/-- What is read, cut inside the first frame and inside the header behind its padding. -/
def queryChunks : List (List UInt8) :=
  [[0xFE, 0xFE, 0x7E, 0xD8], [0x60, 0xFE, 0x0D, 0, 0, 0, 0xFE],
    [0xFE, 0x7C, 0xD8, 0x5E, 0xFE, 0x0D, 0, 0, 0]]

/-- Two version queries, with padding in front of the second. -/
theorem framing_survives_padding_queries :
    ∃ kept, feedChunks ⟨0⟩ [] queryChunks = some ([[0x7E], [0x7C]], ⟨0⟩, kept) := by
  have sent : (Endpoint.run queryAes blankKey queryCalls).accepted.map Accepted.buf =
      [versionQuery, moduleQuery].map SentFrame.encoded := by
    decide +kernel
  have all : (Endpoint.run queryAes blankKey queryReads).received =
      (Endpoint.run queryAes blankKey queryCalls).taken := by
    decide +kernel
  have flushed : (Endpoint.run queryAes blankKey queryCalls).stream.writeBuffer = [] := by
    decide +kernel
  have fetched : (Endpoint.run queryAes blankKey queryReads).stream.readBuffer = [] := by
    decide +kernel
  have cut : queryChunks.flatten = (Endpoint.run queryAes blankKey queryReads).yielded := by
    decide +kernel
  obtain ⟨decoded, kept, hfeed, -, hall⟩ := framing_survives_padding queryAes blankKey queryCalls
    queryReads [versionQuery, moduleQuery] ⟨0⟩ _ sent (all ▸ List.prefix_refl _) cut
  rw [hall all flushed fetched] at hfeed
  exact ⟨kept, hfeed⟩

end Query

end SatelIntegra
