import SatelIntegra.BlockMode
import SatelIntegra.Config

/-!
# Encryption of buffers

The block functions of AES-192 come from outside; a key selects them. A buffer of any
length is encrypted in place, chained from the encryption of the zero block.
-/

namespace SatelIntegra

open BlockMode CheckedAccess

def aesBlockSize : Nat := 16
def aesKeySize : Nat := 24

abbrev AesKey := Vector UInt8 aesKeySize

/-- `Aes192::new` -/
abbrev Aes192 := AesKey → BlockCipher UInt8 aesBlockSize

structure SatelAesCipher where
  cipher : BlockCipher UInt8 aesBlockSize

namespace SatelAesCipher

def new (aes : Aes192) (key : AesKey) : SatelAesCipher := ⟨aes key⟩

/-- The chain value before the first block. -/
def firstCv (c : SatelAesCipher) : Vector UInt8 aesBlockSize :=
  c.cipher.encryptBlock (Vector.replicate aesBlockSize 0)

/-- `count > 15` holds for the first `buffer.len() / 16` rounds of the loop. -/
def encrypt (c : SatelAesCipher) (buffer : List UInt8) : List UInt8 :=
  encryptFrom (· ^^^ ·) 0 c.cipher c.firstCv (buffer.length / aesBlockSize) buffer

def decrypt (c : SatelAesCipher) (buffer : List UInt8) : List UInt8 :=
  decryptFrom (· ^^^ ·) 0 c.cipher c.firstCv (buffer.length / aesBlockSize) buffer

variable (c : SatelAesCipher) (buffer : List UInt8)

lemma whole_blocks : aesBlockSize * (buffer.length / aesBlockSize) ≤ buffer.length :=
  Nat.mul_div_le _ _

lemma short_tail : buffer.length ≤ aesBlockSize * (buffer.length / aesBlockSize + 1) :=
  Nat.le_of_lt (Nat.lt_mul_div_succ buffer.length (by decide : 0 < aesBlockSize))

@[simp] lemma encrypt_length : (c.encrypt buffer).length = buffer.length :=
  encryptFrom_length (whole_blocks buffer) (short_tail buffer)

lemma decrypt_length : (c.decrypt buffer).length = buffer.length :=
  decryptFrom_length (whole_blocks buffer) (short_tail buffer)

@[simp] lemma decrypt_encrypt : c.decrypt (c.encrypt buffer) = buffer := by
  have cancel (a k : UInt8) : a ^^^ k ^^^ k = a := by
    rw [UInt8.xor_assoc, UInt8.xor_self, UInt8.xor_zero]
  rw [decrypt, encrypt_length]
  exact decryptFrom_encryptFrom cancel (whole_blocks buffer) (short_tail buffer)

end SatelAesCipher

def encryptData (aes : Aes192) (key : AesKey) (plaintext : List UInt8) : List UInt8 :=
  if plaintext.isEmpty then []
  else
    let bytesCount := max 16 (6 + plaintext.length)
    let data := List.replicate bytesCount (0 : UInt8)
    -- data[6..6 + plaintext.len()].copy_from_slice(plaintext)
    let data := data.take 6 ++ plaintext ++ data.drop (6 + plaintext.length)
    UInt8.ofNat bytesCount :: (SatelAesCipher.new aes key).encrypt data

def decryptData (aes : Aes192) (key : AesKey) (ciphertext : List UInt8) : Parsed (List UInt8) := do
  if ciphertext.isEmpty then return []
  if ciphertext.length < 17 then throw (.invalidEncryptedDataLength ciphertext.length)
  let lenPrefix := (← checked (index ciphertext 0)).toNat
  if ciphertext.length < 1 + lenPrefix ∨ lenPrefix < 16 then
    throw (.invalidEncryptedDataLength ciphertext.length)
  let payload ← checked (slice ciphertext 1 (1 + lenPrefix))
  checked (sliceFrom ((SatelAesCipher.new aes key).decrypt payload) 6)

end SatelIntegra
