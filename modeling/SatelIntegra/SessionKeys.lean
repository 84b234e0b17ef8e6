import Mathlib.Data.List.DropRight
import SatelIntegra.ConfigValidation
import SatelIntegra.EncryptedSession
import SatelIntegra.Worker

/-!
# The key of a session

`derive_aes_key` pads the integration key with blanks to twelve bytes and writes these
twice. A key that `validate` accepts has at most twelve bytes, so that nothing of it is cut
off: two accepted keys give the same session exactly when they differ in blanks at the end.
A configuration accepted with encryption also never opens its stream in plaintext.
-/

namespace SatelIntegra

open SatelConnectionWorker (openedStream)

def asBytes (text : String) : List UInt8 := text.toByteArray.data.toList

/-- What the loop takes for byte `i`. -/
def keyByte (keyBytes : List UInt8) (i : Nat) : UInt8 :=
  if i < keyBytes.length then keyBytes.getD i 0 else 0x20

/-- One round of the loop. -/
def placeByte (byte : Nat → UInt8) (key : AesKey) (i : Nat) : AesKey :=
  (key.set! i (byte i)).set! (i + 12) (byte i)

def deriveAesKey (integrationKey : String) : AesKey :=
  (List.range 12).foldl (placeByte (keyByte (asBytes integrationKey)))
    (Vector.replicate aesKeySize 0x20)

/-- The key in front of blanks, twelve bytes in all. -/
def padKey (keyBytes : List UInt8) : List UInt8 :=
  keyBytes ++ List.replicate (12 - keyBytes.length) 0x20

/-- The key without the blanks at its end. -/
def trimKey (keyBytes : List UInt8) : List UInt8 := keyBytes.rdropWhile (· == 0x20)

lemma trimKey_append_blanks (keyBytes : List UInt8) (n : Nat) :
    trimKey (keyBytes ++ List.replicate n 0x20) = trimKey keyBytes := by
  induction n with
  | zero => rw [List.replicate_zero, List.append_nil]
  | succ n ih =>
    rw [List.replicate_succ', ← List.append_assoc, trimKey, List.rdropWhile_concat_pos _ _ _ rfl]
    exact ih

/-- What is cut off are blanks. -/
lemma trimKey_blanks (keyBytes : List UInt8) :
    trimKey keyBytes ++ List.replicate (keyBytes.length - (trimKey keyBytes).length) 0x20 =
      keyBytes := by
  induction keyBytes using List.reverseRecOn with
  | nil => rfl
  | append_singleton keyBytes byte ih =>
    by_cases blank : byte = 0x20
    · subst blank
      have same : trimKey (keyBytes ++ [0x20]) = trimKey keyBytes :=
        trimKey_append_blanks keyBytes 1
      have short : (trimKey keyBytes).length ≤ keyBytes.length :=
        (List.rdropWhile_prefix _ _).length_le
      have one : (keyBytes ++ [0x20]).length - (trimKey keyBytes).length =
          keyBytes.length - (trimKey keyBytes).length + 1 := by
        rw [List.length_append, List.length_singleton]
        omega
      rw [same, one, List.replicate_succ', ← List.append_assoc, ih]
    · have whole : trimKey (keyBytes ++ [byte]) = keyBytes ++ [byte] :=
        List.rdropWhile_concat_neg _ _ _ (by simpa using blank)
      rw [whole, Nat.sub_self, List.replicate_zero, List.append_nil]

lemma padKey_trimKey {keyBytes : List UInt8} (short : keyBytes.length ≤ 12) :
    padKey (trimKey keyBytes) = padKey keyBytes := by
  have prefixes : (trimKey keyBytes).length ≤ keyBytes.length :=
    (List.rdropWhile_prefix _ _).length_le
  have blanks : 12 - (trimKey keyBytes).length =
      (keyBytes.length - (trimKey keyBytes).length) + (12 - keyBytes.length) := by
    omega
  rw [padKey, blanks, List.replicate_add, ← List.append_assoc, trimKey_blanks, padKey]

lemma padKey_length {keyBytes : List UInt8} (short : keyBytes.length ≤ 12) :
    (padKey keyBytes).length = 12 := by
  rw [padKey, List.length_append, List.length_replicate]
  omega

/-- Padding forgets the blanks at the end and nothing else. -/
lemma padKey_eq_iff {keyBytes keyBytes' : List UInt8} (short : keyBytes.length ≤ 12)
    (short' : keyBytes'.length ≤ 12) :
    padKey keyBytes = padKey keyBytes' ↔ trimKey keyBytes = trimKey keyBytes' := by
  constructor
  · intro same
    have trimmed := congrArg trimKey same
    rwa [padKey, padKey, trimKey_append_blanks, trimKey_append_blanks] at trimmed
  · intro same
    rw [← padKey_trimKey short, ← padKey_trimKey short', same]

/-- After `n` rounds the first `n` bytes of both halves are set. -/
lemma placeBytes_getElem (byte : Nat → UInt8) {n : Nat} (n_le : n ≤ 12) (i : Nat)
    (i_lt : i < aesKeySize) :
    ((List.range n).foldl (placeByte byte) (Vector.replicate aesKeySize 0x20))[i] =
      if i % 12 < n then byte (i % 12) else 0x20 := by
  have size : aesKeySize = 24 := rfl
  induction n with
  | zero =>
    rw [if_neg (Nat.not_lt_zero _)]
    exact Vector.getElem_replicate i_lt
  | succ n ih =>
    have before := ih (by omega)
    rw [List.range_succ, List.foldl_append, List.foldl_cons, List.foldl_nil, placeByte,
      Vector.getElem_set! i_lt, Vector.getElem_set! i_lt, before]
    by_cases right : n + 12 = i
    · have here : i % 12 = n := by omega
      rw [if_pos right, here, if_pos (Nat.lt_succ_self n)]
    by_cases left : n = i
    · have here : i % 12 = n := by omega
      rw [if_neg right, if_pos left, here, if_pos (Nat.lt_succ_self n)]
    have elsewhere : i % 12 < n ↔ i % 12 < n + 1 := by omega
    rw [if_neg right, if_neg left]
    simp only [elsewhere]

/-- The loop writes each byte to two places. -/
lemma placeBytes_toList (byte : Nat → UInt8) :
    ((List.range 12).foldl (placeByte byte) (Vector.replicate aesKeySize 0x20)).toList =
      (List.range 12).map byte ++ (List.range 12).map byte := by
  apply List.ext_getElem
  · rw [Vector.length_toList, List.length_append, List.length_map, List.length_range]
    rfl
  · intro i h h'
    rw [Vector.length_toList] at h
    rw [Vector.getElem_toList, placeBytes_getElem byte le_rfl i h,
      if_pos (Nat.mod_lt i (by omega))]
    have bound : i < 24 := h
    by_cases left : i < 12
    · simp [List.getElem_append_left, left, Nat.mod_eq_of_lt left]
    · have wrapped : i % 12 = i - 12 := by omega
      rw [List.getElem_append_right (by simpa using left)]
      simp [wrapped]

lemma padKey_eq_map {keyBytes : List UInt8} (short : keyBytes.length ≤ 12) :
    padKey keyBytes = (List.range 12).map (keyByte keyBytes) := by
  apply List.ext_getElem
  · simp only [padKey, List.length_append, List.length_replicate, List.length_map,
      List.length_range]
    omega
  · intro i h h'
    by_cases inside : i < keyBytes.length
    · simp [padKey, keyByte, inside]
    · simp [padKey, keyByte, inside, List.getElem_append_right (Nat.not_lt.mp inside)]

lemma deriveAesKey_toList {integrationKey : String}
    (short : (asBytes integrationKey).length ≤ 12) :
    (deriveAesKey integrationKey).toList =
      padKey (asBytes integrationKey) ++ padKey (asBytes integrationKey) := by
  rw [deriveAesKey, placeBytes_toList, padKey_eq_map short]

/-- Short keys give the same AES key exactly when they differ in blanks at the end. -/
lemma deriveAesKey_eq_iff {key key' : String} (short : (asBytes key).length ≤ 12)
    (short' : (asBytes key').length ≤ 12) :
    deriveAesKey key = deriveAesKey key' ↔ trimKey (asBytes key) = trimKey (asBytes key') := by
  rw [← padKey_eq_iff short short', ← Vector.toList_inj, deriveAesKey_toList short,
    deriveAesKey_toList short']
  constructor
  · intro same
    exact (List.append_inj same (by rw [padKey_length short, padKey_length short'])).1
  · intro same
    rw [same]

section Accepted

lemma asBytes_length (text : String) : (asBytes text).length = text.utf8ByteSize := by
  rw [asBytes, Array.length_toList]
  exact String.size_toByteArray

/-- What `validate` has checked of an encrypted connection. -/
structure AcceptedKey (c : Config) (key : String) : Prop where
  set : c.integrationKey = some key
  nonempty : asBytes key ≠ []
  short : (asBytes key).length ≤ 12
  ascii : isAscii key = true
  tcp : c.connection.isUart = false

lemma acceptedKey_of_validateKey {c : Config} (h : c.validateKey = .ok ()) :
    ∃ key, AcceptedKey c key := by
  rw [Config.validateKey] at h
  cases set : c.integrationKey with
  | none =>
    rw [set] at h
    cases h
  | some key =>
    rw [set] at h
    dsimp only at h
    by_cases size : key.utf8ByteSize = 0 ∨ key.utf8ByteSize > 12
    · rw [if_pos size] at h
      cases h
    rw [if_neg size] at h
    obtain ⟨nonempty, short⟩ := not_or.mp size
    have length := asBytes_length key
    cases ascii : isAscii key with
    | false =>
      rw [ascii] at h
      cases h
    | true =>
      rw [ascii] at h
      cases tcp : c.connection.isUart with
      | true =>
        rw [tcp] at h
        cases h
      | false =>
        refine ⟨key, set, ?_, by omega, ascii, tcp⟩
        intro empty
        rw [empty] at length
        exact nonempty length.symm

lemma acceptedKey {c : Config} (valid : c.validate = .ok ()) (encrypted : c.encryption = true) :
    ∃ key, AcceptedKey c key := by
  rw [Config.validate, if_pos encrypted] at valid
  cases checked : c.validateKey with
  | error e =>
    rw [checked] at valid
    cases valid
  | ok _ => exact acceptedKey_of_validateKey checked

/-- The worker wraps the stream of an accepted configuration. -/
lemma AcceptedKey.opens {c : Config} {key : String} (accepted : AcceptedKey c key)
    (encrypted : c.encryption = true) :
    openedStream c.connection c.encryption c.integrationKey .opened =
      .ok { encrypted := true, issued := [] } := by
  rw [encrypted, accepted.set]
  cases connection : c.connection with
  | tcp host port => rfl
  | uart path baudRate =>
    have tcp := accepted.tcp
    rw [connection] at tcp
    cases tcp

end Accepted

/-- What the end with `key'` reads is a prefix of the plaintext that the end with `key` sends, and
all of it once everything has arrived. That plaintext is what `poll_write` accepted, with zeros
behind each buffer of fewer than ten bytes. -/
structure ReadsBack (aes : Aes192) (key key' : AesKey) (calls calls' : List StreamCall) : Prop where
  part : (Endpoint.run aes key' calls').received <+: (Endpoint.run aes key calls).taken →
    (Endpoint.run aes key' calls').yielded ++ (Endpoint.run aes key' calls').stream.readBuffer <+:
      (Endpoint.run aes key calls).plaintext
  all : (Endpoint.run aes key' calls').received = (Endpoint.run aes key calls).taken →
    (Endpoint.run aes key calls).stream.writeBuffer = [] →
    (Endpoint.run aes key' calls').yielded ++ (Endpoint.run aes key' calls').stream.readBuffer =
      (Endpoint.run aes key calls).plaintext

lemma readsBack_same (aes : Aes192) (key : AesKey) (calls calls' : List StreamCall) :
    ReadsBack aes key key calls calls' where
  part := (Endpoint.sound_run aes key calls).reads_part (Endpoint.sound_run aes key calls')
  all := (Endpoint.sound_run aes key calls).reads_all (Endpoint.sound_run aes key calls')

/-- An accepted configuration with encryption opens an encrypted stream. The keys of two of them
give the same AES key exactly when they differ in blanks at their ends, and then one end reads
the zero-padded buffers that the other end was given. -/
theorem session_keys_agree (c c' : Config) (valid : c.validate = .ok ())
    (valid' : c'.validate = .ok ()) (encrypted : c.encryption = true)
    (encrypted' : c'.encryption = true) :
    openedStream c.connection c.encryption c.integrationKey .opened =
        .ok { encrypted := true, issued := [] } ∧
      ∃ key key', AcceptedKey c key ∧ AcceptedKey c' key' ∧
        (deriveAesKey key = deriveAesKey key' ↔
          trimKey (asBytes key) = trimKey (asBytes key')) ∧
        (trimKey (asBytes key) = trimKey (asBytes key') →
          ∀ (aes : Aes192) (calls calls' : List StreamCall),
            ReadsBack aes (deriveAesKey key) (deriveAesKey key') calls calls') := by
  obtain ⟨key, accepted⟩ := acceptedKey valid encrypted
  obtain ⟨key', accepted'⟩ := acceptedKey valid' encrypted'
  have same := deriveAesKey_eq_iff accepted.short accepted'.short
  refine ⟨accepted.opens encrypted, key, key', accepted, accepted', same, ?_⟩
  intro trimmed aes calls calls'
  rw [← same.mpr trimmed]
  exact readsBack_same aes _ calls calls'

/-- Appending a blank does not change the key. -/
theorem session_keys_agree_blank : deriveAesKey "key" = deriveAesKey "key " := by
  obtain ⟨-, key, key', accepted, accepted', same, -⟩ := session_keys_agree
    { encryption := true, integrationKey := some "key" }
    { encryption := true, integrationKey := some "key " } rfl rfl rfl rfl
  obtain rfl := Option.some.inj accepted.set
  obtain rfl := Option.some.inj accepted'.set
  exact same.mpr (by decide)

end SatelIntegra
