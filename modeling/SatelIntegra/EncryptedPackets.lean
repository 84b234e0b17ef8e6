import SatelIntegra.EncryptedStream

/-!
# Packets on the wire

The packets of a byte sequence are found by their length bytes. The two halves of the
stream are stated in these terms: `wrap` writes one packet, and what `poll_read` has
done depends only on the bytes it received, not on the chunks they came in.
-/

namespace SatelIntegra

open IncrementalSplit

/-- The plaintext of one packet. -/
structure Packet where
  random : UInt16
  counter : UInt16
  idS : UInt8
  idR : UInt8
  payload : List UInt8
  deriving DecidableEq, Repr

/-- The shortest plaintext of a packet that fills a block. -/
def padded (payload : List UInt8) : List UInt8 :=
  payload ++ List.replicate (10 - payload.length) 0

namespace Packet

def plain (p : Packet) : List UInt8 :=
  [(p.random >>> 8).toUInt8, (p.random &&& 0xFF).toUInt8,
    (p.counter >>> 8).toUInt8, (p.counter &&& 0xFF).toUInt8, p.idS, p.idR] ++ padded p.payload

def wire (c : SatelAesCipher) (p : Packet) : List UInt8 :=
  UInt8.ofNat p.plain.length :: c.encrypt p.plain

lemma plain_length (p : Packet) : p.plain.length = max 16 (6 + p.payload.length) := by
  simp only [plain, padded, List.length_append, List.length_cons, List.length_nil,
    List.length_replicate]
  omega

end Packet

section Splitting

def splitPacket : List UInt8 → Option (List UInt8 × List UInt8)
  | [] => none
  | lenPrefix :: raw =>
    if raw.length < lenPrefix.toNat then none
    else some (raw.take lenPrefix.toNat, raw.drop lenPrefix.toNat)

/-- The encrypted packets, without their length bytes. -/
def packetSplitter : Splitter UInt8 (List UInt8) where
  split := splitPacket
  shorter := by
    intro l x r h
    cases l with
    | nil => cases h
    | cons lenPrefix raw =>
      simp only [splitPacket] at h
      split at h
      · cases h
      · cases h
        rw [List.length_drop, List.length_cons]
        omega
  extend := by
    intro l x r h m
    cases l with
    | nil => cases h
    | cons lenPrefix raw =>
      simp only [splitPacket] at h
      split at h
      · cases h
      · next long =>
        cases h
        have long' : ¬ (raw ++ m).length < lenPrefix.toNat := by
          rw [List.length_append]
          omega
        simp only [List.cons_append, splitPacket, long', if_false]
        rw [List.take_append_of_le_length (by omega), List.drop_append_of_le_length (by omega)]

@[simp] lemma packetSplitter_nil : packetSplitter.split [] = none := rfl

lemma packetSplitter_cons (lenPrefix : UInt8) (raw : List UInt8) :
    packetSplitter.split (lenPrefix :: raw) =
      if raw.length < lenPrefix.toNat then none
      else some (raw.take lenPrefix.toNat, raw.drop lenPrefix.toNat) := rfl

/-- A packet whose length fits its length byte is found. -/
lemma splitPacket_wire (c : SatelAesCipher) {p : Packet} (h : p.payload.length ≤ 249)
    (rest : List UInt8) :
    packetSplitter.split (p.wire c ++ rest) = some (c.encrypt p.plain, rest) := by
  have fits : (UInt8.ofNat p.plain.length).toNat = (c.encrypt p.plain).length := by
    have small : p.plain.length < 256 := by
      rw [p.plain_length]
      omega
    rw [SatelAesCipher.encrypt_length, UInt8.toNat_ofNat_of_lt' small]
  have long : ¬ (c.encrypt p.plain ++ rest).length < (c.encrypt p.plain).length := by
    rw [List.length_append]
    omega
  rw [Packet.wire, List.cons_append, packetSplitter_cons, fits, if_neg long, List.take_left,
    List.drop_left]

end Splitting

section Reading
variable (c : SatelAesCipher)

/-- The plaintext of the packets that have one. -/
def plaintexts (packets : List (List UInt8)) : List UInt8 :=
  packets.flatMap fun packet => (c.decrypt packet).drop 6

lemma plaintexts_append (packets packets' : List (List UInt8)) :
    plaintexts c (packets ++ packets') = plaintexts c packets ++ plaintexts c packets' :=
  List.flatMap_append

/-- The `id_s` of a packet, unless it has less than 6 bytes. -/
def nextIdR (id : UInt8) (packet : List UInt8) : UInt8 :=
  if 6 ≤ (c.decrypt packet).length then (c.decrypt packet).getD 4 0 else id

/-- The `id_s` of the last packet of at least 6 bytes. -/
def lastIdS (packets : List (List UInt8)) : UInt8 := packets.foldl (nextIdR c) 0

namespace EncryptedStream

/-- The bytes of the packet that is not complete. -/
def unfinished (s : EncryptedStream) : List UInt8 :=
  (s.expectedRespLen.map UInt8.ofNat).toList ++ s.rawReadBuffer

/-- The expected length came from a length byte. -/
def LengthFits (s : EncryptedStream) : Prop := ∀ n, s.expectedRespLen = some n → n < 256

lemma readPrefix_eq {s : EncryptedStream} (fits : s.LengthFits) :
    s.unfinished = [] ∧ s.readPrefix = s ∧ s.expectedRespLen = none ∨
    ∃ n raw, n < 256 ∧ s.unfinished = UInt8.ofNat n :: raw ∧
      s.readPrefix = { s with rawReadBuffer := raw, expectedRespLen := some n } := by
  cases hexpected : s.expectedRespLen with
  | some n =>
    refine Or.inr ⟨n, s.rawReadBuffer, fits n hexpected, ?_, ?_⟩
    · simp [unfinished, hexpected]
    · cases s
      simp_all [readPrefix]
  | none =>
    cases hraw : s.rawReadBuffer with
    | nil =>
      refine Or.inl ⟨?_, ?_, rfl⟩
      · simp [unfinished, hexpected, hraw]
      · simp [readPrefix, hexpected, hraw]
    | cons lenPrefix raw =>
      refine Or.inr ⟨lenPrefix.toNat, raw, lenPrefix.toNat_lt, ?_, ?_⟩
      · simp [unfinished, hexpected, hraw]
      · simp [readPrefix, hexpected, hraw]

/-- The stream after the packets of what it has read. -/
structure Processed (packets : List (List UInt8)) (rest : List UInt8)
    (s s' : EncryptedStream) : Prop where
  writes : s'.cipher = s.cipher ∧ s'.writeBuffer = s.writeBuffer ∧
    s'.rollingCounter = s.rollingCounter
  fits : s'.LengthFits
  unfinished : s'.unfinished = rest
  readBuffer : s'.readBuffer = s.readBuffer ++ plaintexts s.cipher packets
  idR : s'.idR = packets.foldl (nextIdR s.cipher) s.idR

lemma Processed.refl {s : EncryptedStream} (fits : s.LengthFits) :
    Processed [] s.unfinished s s where
  writes := ⟨rfl, rfl, rfl⟩
  fits := fits
  unfinished := rfl
  readBuffer := by simp [plaintexts]
  idR := rfl

lemma Processed.trans {packets packets' : List (List UInt8)} {rest rest' : List UInt8}
    {s s' s'' : EncryptedStream} (h : Processed packets rest s s')
    (h' : Processed packets' rest' s' s'') : Processed (packets ++ packets') rest' s s'' where
  writes := ⟨h'.writes.1.trans h.writes.1, h'.writes.2.1.trans h.writes.2.1,
    h'.writes.2.2.trans h.writes.2.2⟩
  fits := h'.fits
  unfinished := h'.unfinished
  readBuffer := by
    rw [h'.readBuffer, h.readBuffer, h.writes.1, List.append_assoc, plaintexts_append]
  idR := by rw [h'.idR, h.idR, h.writes.1, List.foldl_append]

lemma takePacket_processed (s : EncryptedStream) (n : Nat) (raw : List UInt8) :
    Processed [raw.take n] (raw.drop n) s
      (takePacket { s with rawReadBuffer := raw, expectedRespLen := some n } n) := by
  by_cases long : 6 ≤ (s.cipher.decrypt (raw.take n)).length
  · constructor <;> simp [takePacket, long, LengthFits, unfinished, plaintexts, nextIdR]
  · have short : (s.cipher.decrypt (raw.take n)).drop 6 = [] :=
      List.drop_eq_nil_of_le (by omega)
    constructor <;>
      simp [takePacket, long, short, LengthFits, unfinished, plaintexts, nextIdR]

/-- Each round takes the next packet, as long as there is a complete one. -/
lemma processPackets_processed {rounds : Nat} {s : EncryptedStream} (fits : s.LengthFits)
    (enough : s.unfinished.length ≤ rounds) :
    Processed (packetSplitter.items s.unfinished) (packetSplitter.rest s.unfinished) s
      (s.processPackets rounds) := by
  induction rounds generalizing s with
  | zero =>
    have empty : s.unfinished = [] := List.eq_nil_of_length_eq_zero (by omega)
    have none : packetSplitter.split s.unfinished = none := by simp [empty]
    rw [Splitter.items_of_none none, Splitter.rest_of_none none]
    exact .refl fits
  | succ rounds ih =>
    rcases readPrefix_eq fits with ⟨empty, same, expected⟩ | ⟨n, raw, small, hunfinished, hprefix⟩
    · have none : packetSplitter.split s.unfinished = none := by simp [empty]
      rw [Splitter.items_of_none none, Splitter.rest_of_none none]
      simp only [processPackets, same, expected]
      exact .refl fits
    · have hn : (UInt8.ofNat n).toNat = n := UInt8.toNat_ofNat_of_lt' small
      by_cases short : raw.length < n
      · have none : packetSplitter.split s.unfinished = none := by
          rw [hunfinished, packetSplitter_cons, hn]
          exact if_pos short
        rw [Splitter.items_of_none none, Splitter.rest_of_none none]
        simp only [processPackets, hprefix, short, if_true]
        constructor <;> simp [LengthFits, hunfinished, plaintexts, small]
        simp [unfinished]
      · have some : packetSplitter.split s.unfinished = some (raw.take n, raw.drop n) := by
          rw [hunfinished, packetSplitter_cons, hn]
          exact if_neg short
        have first := takePacket_processed s n raw
        have fewer : (raw.drop n).length ≤ rounds := by
          rw [hunfinished, List.length_cons] at enough
          rw [List.length_drop]
          omega
        have rest := ih first.fits (by rw [first.unfinished]; exact fewer)
        rw [first.unfinished] at rest
        rw [Splitter.items_of_some some, Splitter.rest_of_some some]
        simp only [processPackets, hprefix, short, if_false]
        exact first.trans rest

lemma extendRaw_processed {s : EncryptedStream} (fits : s.LengthFits) (bytes : List UInt8) :
    Processed (packetSplitter.items (s.unfinished ++ bytes))
      (packetSplitter.rest (s.unfinished ++ bytes)) s (s.extendRaw bytes) := by
  let extended : EncryptedStream := { s with rawReadBuffer := s.rawReadBuffer ++ bytes }
  have hunfinished : extended.unfinished = s.unfinished ++ bytes := by
    simp [extended, unfinished]
  have enough : extended.unfinished.length ≤ extended.rawReadBuffer.length + 1 := by
    cases hexpected : s.expectedRespLen <;> simp [extended, unfinished, hexpected]
  have done := processPackets_processed (s := extended) fits enough
  rw [hunfinished] at done
  exact ⟨done.writes, done.fits, done.unfinished, done.readBuffer, done.idR⟩

/-- The stream as if the caller had not fetched anything. -/
def unread (r : Polled) : EncryptedStream :=
  { r.stream with readBuffer := r.put ++ r.stream.readBuffer }

lemma unread_yieldPlain (s : EncryptedStream) (remaining : Nat) :
    unread (s.yieldPlain remaining) = s := by
  simp [unread, yieldPlain]

lemma pollRead_of_buffered (remaining : Nat) (answers : List ReadAnswer) {s : EncryptedStream}
    (buffered : s.readBuffer.isEmpty = false) :
    pollRead remaining answers s = s.yieldPlain remaining := by
  cases answers <;> simp [pollRead, buffered]

/-- Bytes that leave no complete packet behind. -/
lemma idle_processed {s : EncryptedStream} (fits : s.LengthFits)
    (incomplete : packetSplitter.split s.unfinished = none) :
    Processed (packetSplitter.items (s.unfinished ++ []))
      (packetSplitter.rest (s.unfinished ++ [])) s s := by
  rw [List.append_nil, Splitter.items_of_none incomplete, Splitter.rest_of_none incomplete]
  exact .refl fits

/-- `poll_read` takes in every complete packet, however the bytes are cut. -/
lemma pollRead_processed (remaining : Nat) (answers : List ReadAnswer) {s : EncryptedStream}
    (fits : s.LengthFits) (incomplete : packetSplitter.split s.unfinished = none) :
    Processed (packetSplitter.items (s.unfinished ++ (pollRead remaining answers s).received))
      (packetSplitter.rest (s.unfinished ++ (pollRead remaining answers s).received)) s
      (unread (pollRead remaining answers s)) := by
  have idle := idle_processed fits incomplete
  induction answers generalizing s with
  | nil =>
    cases empty : s.readBuffer.isEmpty with
    | true => simpa [pollRead, empty, unread] using idle
    | false =>
      rw [pollRead_of_buffered remaining [] empty, unread_yieldPlain]
      exact idle
  | cons answer answers ih =>
    cases empty : s.readBuffer.isEmpty with
    | false =>
      rw [pollRead_of_buffered remaining _ empty, unread_yieldPlain]
      exact idle
    | true =>
      cases answer with
      | pending => simpa [pollRead, empty, unread] using idle
      | fails => simpa [pollRead, empty, unread] using idle
      | fills bytes within =>
        cases bytes with
        | nil => simpa [pollRead, empty, unread] using idle
        | cons byte bytes =>
          have head := extendRaw_processed fits (byte :: bytes)
          have incomplete' : packetSplitter.split (s.extendRaw (byte :: bytes)).unfinished = none := by
            rw [head.unfinished]
            exact Splitter.split_rest _
          have tail := ih head.fits incomplete' (idle_processed head.fits incomplete')
          rw [head.unfinished, ← Splitter.rest_append] at tail
          simp only [pollRead, empty, if_true]
          rw [← List.append_assoc, Splitter.items_append]
          exact head.trans tail

end EncryptedStream
end Reading

end SatelIntegra
