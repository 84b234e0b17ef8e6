import Mathlib.Data.Finite.Prod
import Mathlib.Data.List.Basic
import Mathlib.Tactic.Common

/-!
# Chained blocks with a masked tail

A buffer is cut into whole blocks. Each one is masked with the cipher block before
it and then encrypted; what is left, shorter than a block, is masked with the
encryption of the last cipher block. Decryption undoes this for any invertible
block function, whatever the block that the chain starts from.
-/

namespace BlockMode

universe u

/-- A block function with its inverse. -/
structure BlockCipher (α : Type u) (n : Nat) where
  encryptBlock : Vector α n → Vector α n
  decryptBlock : Vector α n → Vector α n
  decrypt_encrypt : ∀ block, decryptBlock (encryptBlock block) = block

section Finite
variable {α : Type u} {n : Nat} [Finite α]

instance finite_blocks : Finite (Vector α n) := by
  apply Finite.of_surjective (fun f : Fin n → α => Vector.ofFn f)
  intro block
  exact ⟨fun i => block[i], by ext i hi; simp⟩

/-- An injective block function is onto, so it also undoes its inverse. -/
lemma BlockCipher.encrypt_decrypt (cipher : BlockCipher α n) (block : Vector α n) :
    cipher.encryptBlock (cipher.decryptBlock block) = block := by
  have left : Function.LeftInverse cipher.decryptBlock cipher.encryptBlock :=
    cipher.decrypt_encrypt
  have onto := Finite.surjective_of_injective left.injective
  exact left.rightInverse_of_surjective onto block

end Finite

section Blocks
variable {α : Type u} {n : Nat} (fill : α)

/-- The first `n` elements of a buffer; `fill` is never read when it has as many. -/
def blockOf (n : Nat) (buffer : List α) : Vector α n :=
  Vector.ofFn fun i => buffer.getD i fill

lemma blockOf_append (block : Vector α n) (rest : List α) :
    blockOf fill n (block.toList ++ rest) = block := by
  ext i hi
  have inside : i < block.toList.length := by simpa using hi
  simp [blockOf, List.getElem?_append_left inside, hi]

lemma drop_append (block : Vector α n) (rest : List α) :
    (block.toList ++ rest).drop n = rest := by
  simp

lemma toList_blockOf {buffer : List α} (h : n ≤ buffer.length) :
    (blockOf fill n buffer).toList = buffer.take n := by
  apply List.ext_getElem
  · simp [h]
  · intro i hi hi'
    have : i < buffer.length := by simp at hi'; omega
    simp [blockOf, this]

end Blocks

section Mode
variable {α : Type u} {n : Nat} (mask : α → α → α) (fill : α) (cipher : BlockCipher α n)

/-- `blocks` rounds of the chain, which starts from `cv`, and the tail. -/
def encryptFrom (cv : Vector α n) : Nat → List α → List α
  | 0, buffer => List.zipWith mask buffer (cipher.encryptBlock cv).toList
  | blocks + 1, buffer =>
    let p := cipher.encryptBlock (Vector.zipWith mask (blockOf fill n buffer) cv)
    p.toList ++ encryptFrom p blocks (buffer.drop n)

def decryptFrom (cv : Vector α n) : Nat → List α → List α
  | 0, buffer => List.zipWith mask buffer (cipher.encryptBlock cv).toList
  | blocks + 1, buffer =>
    let temp := blockOf fill n buffer
    (Vector.zipWith mask (cipher.decryptBlock temp) cv).toList ++
      decryptFrom temp blocks (buffer.drop n)

variable {mask fill cipher}

lemma encryptFrom_length {cv : Vector α n} {blocks : Nat} {buffer : List α}
    (whole : n * blocks ≤ buffer.length) (tail : buffer.length ≤ n * (blocks + 1)) :
    (encryptFrom mask fill cipher cv blocks buffer).length = buffer.length := by
  induction blocks generalizing cv buffer with
  | zero =>
    have short : buffer.length ≤ n := by simpa using tail
    simp [encryptFrom, Nat.min_eq_left short]
  | succ blocks ih =>
    have hsplit : n * (blocks + 1) = n * blocks + n := Nat.mul_succ n blocks
    have hsplit' : n * (blocks + 1 + 1) = n * (blocks + 1) + n := Nat.mul_succ n (blocks + 1)
    rw [encryptFrom, List.length_append, ih, Vector.length_toList, List.length_drop]
    · omega
    · rw [List.length_drop]; omega
    · rw [List.length_drop]; omega

lemma decryptFrom_length {cv : Vector α n} {blocks : Nat} {buffer : List α}
    (whole : n * blocks ≤ buffer.length) (tail : buffer.length ≤ n * (blocks + 1)) :
    (decryptFrom mask fill cipher cv blocks buffer).length = buffer.length := by
  induction blocks generalizing cv buffer with
  | zero =>
    have short : buffer.length ≤ n := by simpa using tail
    simp [decryptFrom, Nat.min_eq_left short]
  | succ blocks ih =>
    have hsplit : n * (blocks + 1) = n * blocks + n := Nat.mul_succ n blocks
    have hsplit' : n * (blocks + 1 + 1) = n * (blocks + 1) + n := Nat.mul_succ n (blocks + 1)
    rw [decryptFrom, List.length_append, ih, Vector.length_toList, List.length_drop]
    · omega
    · rw [List.length_drop]; omega
    · rw [List.length_drop]; omega

variable (cancel : ∀ a k, mask (mask a k) k = a)

include cancel

lemma zipWith_cancel {buffer keys : List α} (h : buffer.length ≤ keys.length) :
    List.zipWith mask (List.zipWith mask buffer keys) keys = buffer := by
  apply List.ext_getElem
  · simp [Nat.min_eq_left h]
  · intro i _ _
    simp [cancel]

lemma vector_zipWith_cancel (block keys : Vector α n) :
    Vector.zipWith mask (Vector.zipWith mask block keys) keys = block := by
  ext i hi
  simp [cancel]

theorem decryptFrom_encryptFrom {cv : Vector α n} {blocks : Nat} {buffer : List α}
    (whole : n * blocks ≤ buffer.length) (tail : buffer.length ≤ n * (blocks + 1)) :
    decryptFrom mask fill cipher cv blocks (encryptFrom mask fill cipher cv blocks buffer) =
      buffer := by
  induction blocks generalizing cv buffer with
  | zero =>
    rw [encryptFrom, decryptFrom]
    exact zipWith_cancel cancel (by simpa using tail)
  | succ blocks ih =>
    have hsplit : n * (blocks + 1) = n * blocks + n := Nat.mul_succ n blocks
    have hsplit' : n * (blocks + 1 + 1) = n * (blocks + 1) + n := Nat.mul_succ n (blocks + 1)
    have rest (p : Vector α n) : decryptFrom mask fill cipher p blocks
        (encryptFrom mask fill cipher p blocks (buffer.drop n)) = buffer.drop n := by
      apply ih
      · rw [List.length_drop]; omega
      · rw [List.length_drop]; omega
    simp only [encryptFrom, decryptFrom, blockOf_append, drop_append, cipher.decrypt_encrypt,
      vector_zipWith_cancel cancel, rest]
    rw [toList_blockOf fill (by omega), List.take_append_drop]

theorem encryptFrom_decryptFrom [Finite α] {cv : Vector α n} {blocks : Nat} {buffer : List α}
    (whole : n * blocks ≤ buffer.length) (tail : buffer.length ≤ n * (blocks + 1)) :
    encryptFrom mask fill cipher cv blocks (decryptFrom mask fill cipher cv blocks buffer) =
      buffer := by
  induction blocks generalizing cv buffer with
  | zero =>
    rw [encryptFrom, decryptFrom]
    exact zipWith_cancel cancel (by simpa using tail)
  | succ blocks ih =>
    have hsplit : n * (blocks + 1) = n * blocks + n := Nat.mul_succ n blocks
    have hsplit' : n * (blocks + 1 + 1) = n * (blocks + 1) + n := Nat.mul_succ n (blocks + 1)
    have rest (temp : Vector α n) : encryptFrom mask fill cipher temp blocks
        (decryptFrom mask fill cipher temp blocks (buffer.drop n)) = buffer.drop n := by
      apply ih
      · rw [List.length_drop]; omega
      · rw [List.length_drop]; omega
    -- The cipher block that the next round is masked with is the one that was read.
    simp only [encryptFrom, decryptFrom, blockOf_append, drop_append,
      vector_zipWith_cancel cancel, cipher.encrypt_decrypt, rest]
    rw [toList_blockOf fill (by omega), List.take_append_drop]

end Mode
end BlockMode
