import SatelIntegra.Encryption

/-!
# The cipher's loops

`encrypt` and `decrypt` walk over the buffer in place: `count` bytes from `index` on are
still to do, and `cv` is the block that the next round is masked with. The loops compute
the chained mode, and the mode is a bijection on the buffers of each length.
-/

namespace SatelIntegra

open BlockMode

instance finite_bytes : Finite UInt8 := by
  apply Finite.of_injective (β := Fin UInt8.size) UInt8.toFin
  intro a b same
  exact UInt8.toFin_inj.mp same

namespace SatelAesCipher

structure CipherLoop where
  cv : Vector UInt8 aesBlockSize
  index : Nat
  count : Nat
  buffer : List UInt8

/-- `buffer[index..index + bytes.len()].copy_from_slice(bytes)` -/
def CipherLoop.copyBack (r : CipherLoop) (bytes : List UInt8) : List UInt8 :=
  r.buffer.take r.index ++ bytes ++ r.buffer.drop (r.index + bytes.length)

variable (c : SatelAesCipher)

/-- The two loops differ in what a round makes of a whole block and of `cv`. -/
def cipherLoop (onBlock : Vector UInt8 aesBlockSize → Vector UInt8 aesBlockSize →
    Vector UInt8 aesBlockSize × Vector UInt8 aesBlockSize) (r : CipherLoop) : CipherLoop :=
  if r.count = 0 then r
  else if 15 < r.count then
    let (block, cv) := onBlock (blockOf 0 aesBlockSize (r.buffer.drop r.index)) r.cv
    cipherLoop onBlock
      { cv, index := r.index + 16, count := r.count - 16, buffer := r.copyBack block.toList }
  else
    let cv := c.cipher.encryptBlock r.cv
    let p := (r.buffer.drop r.index).take r.count
    { cv, index := r.index, count := 0,
      buffer := r.copyBack (List.zipWith (· ^^^ ·) p cv.toList) }
termination_by r.count

def encryptRound (p cv : Vector UInt8 aesBlockSize) :
    Vector UInt8 aesBlockSize × Vector UInt8 aesBlockSize :=
  let p := c.cipher.encryptBlock (Vector.zipWith (· ^^^ ·) p cv)
  (p, p)

def decryptRound (temp cv : Vector UInt8 aesBlockSize) :
    Vector UInt8 aesBlockSize × Vector UInt8 aesBlockSize :=
  (Vector.zipWith (· ^^^ ·) (c.cipher.decryptBlock temp) cv, temp)

def encryptInPlace (buffer : List UInt8) : List UInt8 :=
  (c.cipherLoop c.encryptRound ⟨c.firstCv, 0, buffer.length, buffer⟩).buffer

def decryptInPlace (buffer : List UInt8) : List UInt8 :=
  (c.cipherLoop c.decryptRound ⟨c.firstCv, 0, buffer.length, buffer⟩).buffer

section Rounds
variable {c} {done rest : List UInt8} {cv : Vector UInt8 aesBlockSize}
variable {onBlock : Vector UInt8 aesBlockSize → Vector UInt8 aesBlockSize →
  Vector UInt8 aesBlockSize × Vector UInt8 aesBlockSize}

lemma copyBack_append {count : Nat} (bytes : List UInt8) :
    CipherLoop.copyBack ⟨cv, done.length, count, done ++ rest⟩ bytes =
      (done ++ bytes) ++ rest.drop bytes.length := by
  have behind : (done ++ rest).drop (done.length + bytes.length) = rest.drop bytes.length := by
    rw [← List.drop_drop, List.drop_left]
  simp only [CipherLoop.copyBack, List.take_left, behind]

lemma cipherLoop_block (whole : aesBlockSize ≤ rest.length) :
    c.cipherLoop onBlock ⟨cv, done.length, rest.length, done ++ rest⟩ =
      let out := onBlock (blockOf 0 aesBlockSize rest) cv
      c.cipherLoop onBlock ⟨out.2, (done ++ out.1.toList).length,
        (rest.drop aesBlockSize).length, (done ++ out.1.toList) ++ rest.drop aesBlockSize⟩ := by
  have more : 15 < rest.length := by simp only [aesBlockSize] at whole; omega
  have some : rest.length ≠ 0 := by omega
  rw [cipherLoop]
  simp only [some, more, if_true, if_false, copyBack_append, List.drop_left, Vector.length_toList,
    List.length_append, List.length_drop, aesBlockSize]

lemma cipherLoop_tail (short : rest.length < aesBlockSize) :
    (c.cipherLoop onBlock ⟨cv, done.length, rest.length, done ++ rest⟩).buffer =
      done ++ List.zipWith (· ^^^ ·) rest (c.cipher.encryptBlock cv).toList := by
  rw [cipherLoop]
  by_cases none : rest.length = 0
  · have empty := List.eq_nil_of_length_eq_zero none
    simp [empty]
  · have few : ¬ 15 < rest.length := by simp only [aesBlockSize] at short; omega
    have masked : (List.zipWith (· ^^^ ·) rest (c.cipher.encryptBlock cv).toList).length =
        rest.length := by
      rw [List.length_zipWith, Vector.length_toList]
      omega
    simp only [none, few, if_false, List.drop_left, List.take_length, copyBack_append, masked,
      List.drop_length, List.append_nil]

lemma encryptLoop_buffer {blocks : Nat} (whole : aesBlockSize * blocks ≤ rest.length)
    (tail : rest.length < aesBlockSize * (blocks + 1)) :
    (c.cipherLoop c.encryptRound ⟨cv, done.length, rest.length, done ++ rest⟩).buffer =
      done ++ encryptFrom (· ^^^ ·) 0 c.cipher cv blocks rest := by
  induction blocks generalizing cv done rest with
  | zero => exact cipherLoop_tail (by simpa using tail)
  | succ blocks ih =>
    have hsplit : aesBlockSize * (blocks + 1) = aesBlockSize * blocks + aesBlockSize :=
      Nat.mul_succ _ _
    have hsplit' : aesBlockSize * (blocks + 1 + 1) = aesBlockSize * (blocks + 1) + aesBlockSize :=
      Nat.mul_succ _ _
    rw [cipherLoop_block (by omega), encryptFrom]
    dsimp only [encryptRound]
    rw [ih (by rw [List.length_drop]; omega) (by rw [List.length_drop]; omega), List.append_assoc]

lemma decryptLoop_buffer {blocks : Nat} (whole : aesBlockSize * blocks ≤ rest.length)
    (tail : rest.length < aesBlockSize * (blocks + 1)) :
    (c.cipherLoop c.decryptRound ⟨cv, done.length, rest.length, done ++ rest⟩).buffer =
      done ++ decryptFrom (· ^^^ ·) 0 c.cipher cv blocks rest := by
  induction blocks generalizing cv done rest with
  | zero => exact cipherLoop_tail (by simpa using tail)
  | succ blocks ih =>
    have hsplit : aesBlockSize * (blocks + 1) = aesBlockSize * blocks + aesBlockSize :=
      Nat.mul_succ _ _
    have hsplit' : aesBlockSize * (blocks + 1 + 1) = aesBlockSize * (blocks + 1) + aesBlockSize :=
      Nat.mul_succ _ _
    rw [cipherLoop_block (by omega), decryptFrom]
    dsimp only [decryptRound]
    rw [ih (by rw [List.length_drop]; omega) (by rw [List.length_drop]; omega), List.append_assoc]

end Rounds

variable (buffer : List UInt8)

lemma cut_tail : buffer.length < aesBlockSize * (buffer.length / aesBlockSize + 1) :=
  Nat.lt_mul_div_succ buffer.length (by decide : 0 < aesBlockSize)

theorem encryptInPlace_eq : c.encryptInPlace buffer = c.encrypt buffer :=
  @encryptLoop_buffer c [] buffer _ _ (whole_blocks buffer) (cut_tail buffer)

theorem decryptInPlace_eq : c.decryptInPlace buffer = c.decrypt buffer :=
  @decryptLoop_buffer c [] buffer _ _ (whole_blocks buffer) (cut_tail buffer)

lemma encrypt_decrypt : c.encrypt (c.decrypt buffer) = buffer := by
  have cancel (a k : UInt8) : a ^^^ k ^^^ k = a := by
    rw [UInt8.xor_assoc, UInt8.xor_self, UInt8.xor_zero]
  rw [encrypt, decrypt_length]
  exact encryptFrom_decryptFrom cancel (whole_blocks buffer) (short_tail buffer)

/-- Whatever the key and the length, the loops keep the length and undo each other. -/
theorem loops_are_inverse :
    (c.encryptInPlace buffer).length = buffer.length ∧
      (c.decryptInPlace buffer).length = buffer.length ∧
      c.decryptInPlace (c.encryptInPlace buffer) = buffer ∧
      c.encryptInPlace (c.decryptInPlace buffer) = buffer := by
  simp only [encryptInPlace_eq, decryptInPlace_eq]
  exact ⟨c.encrypt_length buffer, c.decrypt_length buffer, c.decrypt_encrypt buffer,
    c.encrypt_decrypt buffer⟩

end SatelAesCipher
end SatelIntegra
