import SatelIntegra.EncryptedFraming

/-!
# How long a packet may be

The length of a packet goes over the wire as one byte, and neither `poll_write` nor
`encrypt_data` looks whether it fits. A packet delimits itself exactly if its buffer
has at most 249 bytes; a longer one is cut by the reader, who then takes its rest
for further packets.
-/

namespace SatelIntegra

open CheckedAccess IncrementalSplit

section Packets
variable (aes : Aes192) (key : AesKey)

/-- A packet says how long it is, and any reader with the key who got whole packets before it
reads the buffer and then what comes behind. -/
structure SelfDelimiting (packet buf : List UInt8) : Prop where
  length : ∃ first body, packet = first :: body ∧ first.toNat = body.length
  read : ∀ calls earlier rest, packetSplitter.rest earlier = [] →
    (Endpoint.run aes key calls).received = earlier ++ packet ++ rest →
    let c := SatelAesCipher.new aes key
    let reader := Endpoint.run aes key calls
    reader.yielded ++ reader.stream.readBuffer =
        plaintexts c (packetSplitter.items earlier) ++ padded buf ++
          plaintexts c (packetSplitter.items rest) ∧
      reader.stream.unfinished = packetSplitter.rest rest

variable {aes key}

lemma wire_length_iff (c : SatelAesCipher) (p : Packet) :
    (∃ first body, p.wire c = first :: body ∧ first.toNat = body.length) ↔
      p.payload.length ≤ 249 := by
  have size := p.plain_length
  constructor
  · rintro ⟨first, body, same, fits⟩
    cases same
    have small := UInt8.toNat_lt (UInt8.ofNat p.plain.length)
    rw [fits, SatelAesCipher.encrypt_length] at small
    omega
  · intro short
    refine ⟨_, _, rfl, ?_⟩
    have small : p.plain.length < 256 := by omega
    rw [SatelAesCipher.encrypt_length, UInt8.toNat_ofNat_of_lt' small]

lemma wire_selfDelimiting (p : Packet) :
    SelfDelimiting aes key (p.wire (SatelAesCipher.new aes key)) p.payload ↔
      p.payload.length ≤ 249 := by
  constructor
  · intro h
    exact (wire_length_iff _ p).mp h.length
  · intro short
    refine ⟨(wire_length_iff _ p).mpr short, ?_⟩
    intro calls earlier rest whole received
    have sound := Endpoint.sound_run aes key calls
    have found := splitPacket_wire (SatelAesCipher.new aes key) short rest
    have plain : plaintexts (SatelAesCipher.new aes key)
        [(SatelAesCipher.new aes key).encrypt p.plain] = padded p.payload := by
      simp [plaintexts, Packet.plain]
    refine ⟨?_, ?_⟩
    · rw [sound.plain, received, List.append_assoc, Splitter.items_append, whole, List.nil_append,
        Splitter.items_of_some found, plaintexts_append, ← List.singleton_append, plaintexts_append,
        plain, List.append_assoc]
    · rw [sound.unfinished, received, List.append_assoc, Splitter.rest_append, whole,
        List.nil_append, Splitter.rest_of_some found]

/-- `encrypt_data` makes a packet whose header is blank. -/
lemma encryptData_wire {plaintext : List UInt8} (nonempty : plaintext ≠ []) :
    encryptData aes key plaintext =
      Packet.wire (SatelAesCipher.new aes key) ⟨0, 0, 0, 0, plaintext⟩ := by
  have hempty : plaintext.isEmpty = false := by simpa using nonempty
  have zeros : List.replicate (max 16 (6 + plaintext.length)) (0 : UInt8) =
      List.replicate 6 0 ++ List.replicate (max 10 plaintext.length) 0 := by
    rw [← List.replicate_add]
    congr 1
    omega
  have pad : max 10 plaintext.length - plaintext.length = 10 - plaintext.length := by omega
  simp only [encryptData, hempty, Packet.wire, Packet.plain_length]
  rw [zeros]
  simp [Packet.plain, padded, List.replicate_succ, Nat.add_comm 6 plaintext.length, pad]

/-- What `decrypt_data` makes of bytes behind a length byte. -/
lemma decryptData_cons (first : UInt8) {body : List UInt8} (long : 16 ≤ body.length) :
    decryptData aes key (first :: body) =
      if body.length < first.toNat ∨ first.toNat < 16 then
        (.ok (.error (.invalidEncryptedDataLength (body.length + 1))) : Except Panic _)
      else .ok (.ok (((SatelAesCipher.new aes key).decrypt (body.take first.toNat)).drop 6)) := by
  have enough : ¬ (first :: body).length < 17 := by
    rw [List.length_cons]
    omega
  have reaches : (first :: body).length < 1 + first.toNat ↔ body.length < first.toNat := by
    rw [List.length_cons]
    omega
  have same : (body.length < first.toNat ∨ first.toNat < 16) ↔
      ((first :: body).length < 1 + first.toNat ∨ first.toNat < 16) := or_congr_left reaches.symm
  simp only [decryptData, List.isEmpty_cons, Bool.false_eq_true, if_false, enough, index_cons_zero,
    checked_ok_bind, same]
  split
  · rfl
  · next fits =>
    obtain ⟨here, block⟩ := not_or.mp fits
    have cut : slice (first :: body) 1 (1 + first.toNat) = .ok (body.take first.toNat) := by
      rw [slice_of_le _ _ _ (by omega) (by omega)]
      simp
    have header : sliceFrom ((SatelAesCipher.new aes key).decrypt (body.take first.toNat)) 6 =
        .ok (((SatelAesCipher.new aes key).decrypt (body.take first.toNat)).drop 6) := by
      rw [sliceFrom, if_pos]
      rw [SatelAesCipher.decrypt_length, List.length_take]
      omega
    rw [cut, checked_ok_bind, header]
    rfl

/-- The whole buffer comes back from `decrypt_data` exactly if the packet fits its length byte. -/
lemma decryptData_encryptData {plaintext : List UInt8} (nonempty : plaintext ≠ []) :
    (∃ plain, decryptData aes key (encryptData aes key plaintext) =
        (.ok (.ok plain) : Except Panic _) ∧ plaintext <+: plain) ↔
      plaintext.length ≤ 249 := by
  let p : Packet := ⟨0, 0, 0, 0, plaintext⟩
  have size : p.plain.length = max 16 (6 + plaintext.length) := p.plain_length
  have long : 16 ≤ ((SatelAesCipher.new aes key).encrypt p.plain).length := by
    rw [SatelAesCipher.encrypt_length, size]
    exact Nat.le_max_left _ _
  rw [encryptData_wire nonempty, Packet.wire, decryptData_cons _ long]
  constructor
  · rintro ⟨plain, decrypted, whole⟩
    by_contra tooLong
    have wrapped : (UInt8.ofNat p.plain.length).toNat < p.plain.length := by
      have small := UInt8.toNat_lt (UInt8.ofNat p.plain.length)
      omega
    split at decrypted
    · cases decrypted
    · cases decrypted
      have shorter := whole.length_le
      rw [List.length_drop, SatelAesCipher.decrypt_length, List.length_take] at shorter
      have header := shorter.trans (Nat.sub_le_sub_right (Nat.min_le_left _ _) 6)
      change plaintext.length ≤ (UInt8.ofNat p.plain.length).toNat - 6 at header
      omega
  · intro short
    have fits : (UInt8.ofNat p.plain.length).toNat = p.plain.length := by
      have small : p.plain.length < 256 := by omega
      rw [UInt8.toNat_ofNat_of_lt' small]
    refine ⟨padded plaintext, ?_, List.prefix_append _ _⟩
    rw [fits, SatelAesCipher.encrypt_length, if_neg (by omega), List.take_of_length_le (by simp),
      SatelAesCipher.decrypt_encrypt]
    rfl

end Packets

/-- An accepted buffer adds one packet to what the stream had to write. -/
lemma pollWrite_accepted {s : EncryptedStream} {answers : List WriteAnswer} {nanos nanos' : UInt32}
    {buf : List UInt8} (nonempty : buf ≠ []) {n : Nat}
    (accepted : (s.pollWrite answers nanos nanos' buf).result = .ready (.ok n)) :
    (s.pollWrite answers nanos nanos' buf).taken ++
        (s.pollWrite answers nanos nanos' buf).stream.writeBuffer =
      s.writeBuffer ++ (s.wrap nanos nanos' buf).writeBuffer := by
  have hempty : buf.isEmpty = false := by simpa using nonempty
  have flushed := drainBuffer_taken EncryptedStream.writeMessage answers s.writeBuffer
  have done := drainBuffer_done EncryptedStream.writeMessage answers s.writeBuffer
  unfold EncryptedStream.pollWrite at accepted ⊢
  generalize drainBuffer EncryptedStream.writeMessage answers s.writeBuffer = first
    at accepted flushed done ⊢
  obtain ⟨result, left, buffer, taken⟩ := first
  rcases result with (e | ⟨⟨⟩⟩) | _
  · cases accepted
  · have emptied : buffer = [] := done rfl
    have sent := drainBuffer_taken EncryptedStream.writeMessage left
      (s.wrap nanos nanos' buf).writeBuffer
    simp only [hempty, Bool.false_eq_true, if_false]
    simp only [emptied, List.append_nil] at flushed
    rw [List.append_assoc, sent, flushed]
  · cases accepted

/-- Every key, every state of the stream, every buffer: the packet delimits itself, and its buffer
is read back whole, exactly if the buffer has at most 249 bytes. -/
theorem packets_self_delimiting_iff (aes : Aes192) (key : AesKey) :
    (∀ (s : EncryptedStream) answers nanos nanos' buf n,
      s.cipher = SatelAesCipher.new aes key → buf ≠ [] →
      (s.pollWrite answers nanos nanos' buf).result = .ready (.ok n) →
      ((∃ packet, (s.pollWrite answers nanos nanos' buf).taken ++
            (s.pollWrite answers nanos nanos' buf).stream.writeBuffer = s.writeBuffer ++ packet ∧
          SelfDelimiting aes key packet buf) ↔
        buf.length ≤ 249)) ∧
    (∀ plaintext, plaintext ≠ [] →
      (SelfDelimiting aes key (encryptData aes key plaintext) plaintext ↔
        plaintext.length ≤ 249) ∧
      ((∃ plain, decryptData aes key (encryptData aes key plaintext) =
          (.ok (.ok plain) : Except Panic _) ∧ plaintext <+: plain) ↔
        plaintext.length ≤ 249)) := by
  constructor
  · intro s answers nanos nanos' buf n keyed nonempty accepted
    rw [pollWrite_accepted nonempty accepted, s.wrap_writeBuffer, keyed]
    rw [← @wire_selfDelimiting aes key
      ⟨pseudoRandomU16 nanos, s.rollingCounter, pseudoRandomU8 nanos', s.idR, buf⟩]
    constructor
    · rintro ⟨packet, same, delimits⟩
      exact List.append_cancel_left same ▸ delimits
    · intro delimits
      exact ⟨_, rfl, delimits⟩
  · intro plaintext nonempty
    refine ⟨?_, decryptData_encryptData nonempty⟩
    rw [encryptData_wire nonempty]
    exact wire_selfDelimiting ⟨0, 0, 0, 0, plaintext⟩

section Examples

/-- A version query delimits itself, written to a stream or as a single message. -/
theorem packets_self_delimiting_query :
    (∃ packet, ((EncryptedStream.new queryAes blankKey).pollWrite [.takes 100] 0 0
            versionQuery.encoded).taken ++
          ((EncryptedStream.new queryAes blankKey).pollWrite [.takes 100] 0 0
            versionQuery.encoded).stream.writeBuffer = [] ++ packet ∧
        SelfDelimiting queryAes blankKey packet versionQuery.encoded) ∧
      SelfDelimiting queryAes blankKey (encryptData queryAes blankKey versionQuery.encoded)
        versionQuery.encoded := by
  obtain ⟨written, encrypted⟩ := packets_self_delimiting_iff queryAes blankKey
  constructor
  · exact (written (EncryptedStream.new queryAes blankKey) [.takes 100] 0 0 versionQuery.encoded 7 rfl
      (by decide) (by decide +kernel)).mpr (by decide)
  · exact (encrypted versionQuery.encoded (by decide)).1.mpr (by decide)

def longBuffer : List UInt8 := List.replicate 250 0x41

lemma longBuffer_long : ¬ longBuffer.length ≤ 249 := by
  rw [longBuffer, List.length_replicate]
  decide

/-- A buffer of 250 bytes is accepted, but its packet of 256 bytes is announced as empty, and the
buffer is not read back. -/
theorem long_buffer_not_delimited :
    ((EncryptedStream.new queryAes blankKey).pollWrite [.takes 300] 0 0 longBuffer).result =
        .ready (.ok 250) ∧
      (encryptData queryAes blankKey longBuffer).head? = some 0 ∧
      (encryptData queryAes blankKey longBuffer).tail.length = 256 ∧
      ¬ SelfDelimiting queryAes blankKey (encryptData queryAes blankKey longBuffer) longBuffer ∧
      ¬ ∃ plain, decryptData queryAes blankKey (encryptData queryAes blankKey longBuffer) =
          (.ok (.ok plain) : Except Panic _) ∧ longBuffer <+: plain := by
  have nonempty : longBuffer ≠ [] := by
    rintro empty
    exact longBuffer_long (empty ▸ Nat.zero_le 249)
  refine ⟨by decide +kernel, by decide +kernel, by decide +kernel, ?_, ?_⟩
  · rw [encryptData_wire nonempty, wire_selfDelimiting]
    exact longBuffer_long
  · rw [decryptData_encryptData nonempty]
    exact longBuffer_long

end Examples

end SatelIntegra
