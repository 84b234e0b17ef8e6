import SatelIntegra.MaskParsers

/-!
# Packed user codes and object masks

A control command carries the digits of the user's code, two to a byte and filled up
with `F`, and a mask with the bit of one partition or output.
-/

namespace SatelIntegra

open CheckedAccess

/-- The half bytes, the high one first. -/
def nibbles (bytes : List UInt8) : List UInt8 := bytes.flatMap fun (b : UInt8) => [b >>> 4, b &&& 0x0F]

/-- `to_digit(10)` -/
def toDigit (c : Char) : Option UInt8 :=
  if '0' ≤ c ∧ c ≤ '9' then some (UInt8.ofNat (c.toNat - 48)) else none

/-- The ASCII digits of a text, in order. -/
def codeDigits (code : String) : List UInt8 := code.toList.filterMap toDigit

/-- The variables of the loop in `format_user_code`. -/
structure PackState where
  bcdCode : List UInt8
  currentByte : Nat
  halfByte : Bool

def PackState.start : PackState := ⟨List.replicate 8 0xFF, 0, false⟩

def PackState.add (s : PackState) (digit : UInt8) : Except Panic PackState := do
  if !s.halfByte then
    let bcdCode ← store s.bcdCode s.currentByte (digit <<< 4 ||| 0x0F)
    return { s with bcdCode, halfByte := true }
  else
    let old ← index s.bcdCode s.currentByte
    let bcdCode ← store s.bcdCode s.currentByte ((old &&& 0xF0) ||| digit)
    return { bcdCode, currentByte := s.currentByte + 1, halfByte := false }

def PackState.addAll (s : PackState) : List Char → Except Panic PackState
  | [] => return s
  | c :: cs =>
    match toDigit c with
    | none => s.addAll cs
    | some digit => do
      let s ← s.add digit
      -- only behind a low nibble the loop may break
      if !s.halfByte && s.currentByte ≥ 8 then return s else s.addAll cs

def formatUserCode (code : String) : Except Panic (List UInt8) := do
  return (← PackState.start.addAll code.toList).bcdCode

/-- `mask[idx / 8] |= 1 << (idx % 8)` on a mask of zeros; `idx` is the position of the object. -/
def objectMask (len : Nat) (id : UInt16) : Except Panic (List UInt8) := do
  let mask := List.replicate len (0 : UInt8)
  let idx := (id - 1).toNat
  let byte ← index mask (idx / 8)
  store mask (idx / 8) (byte ||| 1 <<< UInt8.ofNat (idx % 8))

section Packing

lemma nibbles_length (bytes : List UInt8) : (nibbles bytes).length = 2 * bytes.length := by
  induction bytes with
  | nil => rfl
  | cons b bytes ih =>
    simp only [nibbles, List.flatMap_cons, List.length_append] at *
    simp only [ih, List.length_cons, List.length_nil]
    omega

lemma nibbles_append (bytes bytes' : List UInt8) :
    nibbles (bytes ++ bytes') = nibbles bytes ++ nibbles bytes' := List.flatMap_append

lemma nibbles_blank (n : Nat) :
    nibbles (List.replicate n 0xFF) = List.replicate (2 * n) 0x0F := by
  induction n with
  | zero => rfl
  | succ n ih =>
    rw [List.replicate_succ, ← List.singleton_append, nibbles_append, ih, Nat.mul_succ, Nat.add_comm,
      List.replicate_add]
    rfl

lemma toDigit_lt {c : Char} {digit : UInt8} (h : toDigit c = some digit) : digit.toNat < 16 := by
  unfold toDigit at h
  split at h
  · rename_i decimal
    cases h
    have below : c.toNat ≤ 57 := decimal.2
    rw [UInt8.toNat_ofNat']
    omega
  · cases h

/-- Two digits in one byte, the second over the filler. -/
lemma nibbles_pair {high low : UInt8} (hh : high.toNat < 16) (hl : low.toNat < 16) :
    ((high <<< 4 ||| 0x0F : UInt8) &&& (0xF0 : UInt8)) ||| low = high <<< 4 ||| low ∧
      nibbles [high <<< 4 ||| low] = [high, low] := by
  have all : ∀ a b : Fin 16,
      ((UInt8.ofNat a <<< 4 ||| 0x0F : UInt8) &&& (0xF0 : UInt8)) ||| UInt8.ofNat b =
        UInt8.ofNat a <<< 4 ||| UInt8.ofNat b ∧
      nibbles [UInt8.ofNat a <<< 4 ||| UInt8.ofNat b] = [UInt8.ofNat a, UInt8.ofNat b] := by
    decide +kernel
  have these := all ⟨high.toNat, hh⟩ ⟨low.toNat, hl⟩
  simpa only [UInt8.ofNat_toNat] using these

/-- The digits written so far: whole bytes, perhaps one half, and blank bytes. -/
inductive PackState.Holds (digits : List UInt8) : PackState → Prop where
  | whole (full : List UInt8) (room : full.length ≤ 8) (spelled : nibbles full = digits) :
      Holds digits ⟨full ++ List.replicate (8 - full.length) 0xFF, full.length, false⟩
  | half (full : List UInt8) (digit : UInt8) (small : digit.toNat < 16) (room : full.length < 8)
      (spelled : nibbles full ++ [digit] = digits) :
      Holds digits ⟨full ++ (digit <<< 4 ||| 0x0F) :: List.replicate (7 - full.length) 0xFF,
        full.length, true⟩

variable {digits : List UInt8} {s : PackState}

lemma PackState.Holds.add (holds : s.Holds digits) (room : digits.length < 16) {digit : UInt8}
    (small : digit.toNat < 16) :
    ∃ s', s.add digit = .ok s' ∧ s'.Holds (digits ++ [digit]) := by
  cases holds with
  | whole full _ spelled =>
    have count := nibbles_length full
    rw [spelled] at count
    have free : 8 - full.length = (7 - full.length) + 1 := by omega
    refine ⟨_, ?_, .half full digit small (by omega) (by rw [spelled])⟩
    rw [PackState.add, free, List.replicate_succ, store_of_lt (by simp)]
    simp
  | half full high hh hroom spelled =>
    obtain ⟨above, pair⟩ := nibbles_pair hh small
    have blank : 8 - (full ++ [high <<< 4 ||| digit]).length = 7 - full.length := by
      rw [List.length_append, List.length_singleton]
      omega
    have room' : (full ++ [high <<< 4 ||| digit]).length ≤ 8 := by
      rw [List.length_append, List.length_singleton]
      omega
    have spelled' : nibbles (full ++ [high <<< 4 ||| digit]) = digits ++ [digit] := by
      rw [nibbles_append, pair, ← spelled, List.append_assoc]
      rfl
    have whole := PackState.Holds.whole _ room' spelled'
    rw [blank, List.append_assoc, List.length_append] at whole
    refine ⟨_, ?_, whole⟩
    have old : index (full ++ (high <<< 4 ||| 0x0F) :: List.replicate (7 - full.length) 0xFF)
        full.length = .ok (high <<< 4 ||| 0x0F) := by
      rw [index_of_lt _ _ (by simp)]
      simp
    have stored : store (full ++ (high <<< 4 ||| 0x0F) :: List.replicate (7 - full.length) 0xFF)
        full.length (high <<< 4 ||| digit) =
          .ok (full ++ (high <<< 4 ||| digit) :: List.replicate (7 - full.length) 0xFF) := by
      rw [store_of_lt (by simp)]
      simp
    simp only [PackState.add, Bool.not_true, Bool.false_eq_true, if_false, old, ok_bind, above,
      stored]
    rfl

/-- The loop breaks when all eight bytes are whole. -/
lemma PackState.Holds.full_iff (holds : s.Holds digits) :
    (!s.halfByte && s.currentByte ≥ 8) = true ↔ 16 ≤ digits.length := by
  cases holds with
  | whole full _ spelled =>
    have count := nibbles_length full
    rw [spelled] at count
    simp only [Bool.not_false, Bool.true_and, decide_eq_true_eq, ge_iff_le]
    omega
  | half full digit _ room spelled =>
    have count := congrArg List.length spelled
    rw [List.length_append, nibbles_length, List.length_singleton] at count
    simp only [Bool.not_true, Bool.false_and, Bool.false_eq_true, false_iff]
    omega

/-- The loop keeps the first sixteen digits. -/
lemma PackState.Holds.addAll (cs : List Char) (holds : s.Holds digits)
    (room : digits.length < 16) :
    ∃ s', s.addAll cs = .ok s' ∧ s'.Holds ((digits ++ cs.filterMap toDigit).take 16) := by
  induction cs generalizing s digits with
  | nil =>
    refine ⟨s, rfl, ?_⟩
    rwa [List.filterMap_nil, List.append_nil, List.take_of_length_le (by omega)]
  | cons c cs ih =>
    rw [PackState.addAll]
    cases hc : toDigit c with
    | none =>
      obtain ⟨s', ran, packed⟩ := ih holds room
      refine ⟨s', ran, ?_⟩
      rwa [List.filterMap_cons_none hc]
    | some digit =>
      obtain ⟨s', added, packed⟩ := holds.add room (toDigit_lt hc)
      have length : (digits ++ [digit]).length = digits.length + 1 := List.length_append
      have all : digits ++ (c :: cs).filterMap toDigit =
          (digits ++ [digit]) ++ cs.filterMap toDigit := by
        rw [List.filterMap_cons_some hc, List.append_assoc]
        rfl
      simp only [added, ok_bind]
      by_cases full : digits.length + 1 = 16
      · rw [if_pos (packed.full_iff.mpr (by omega))]
        refine ⟨s', rfl, ?_⟩
        rwa [all, List.take_append_of_le_length (by omega), List.take_of_length_le (by omega)]
      · rw [if_neg (mt packed.full_iff.mp (by omega)), all]
        exact ih packed (by omega)

lemma PackState.Holds.nibbles_eq (holds : s.Holds digits) (le : digits.length ≤ 16) :
    s.bcdCode.length = 8 ∧
      nibbles s.bcdCode = digits ++ List.replicate (16 - digits.length) 0x0F := by
  cases holds with
  | whole full room spelled =>
    have count := nibbles_length full
    rw [spelled] at count
    have blank : 2 * (8 - full.length) = 16 - digits.length := by omega
    refine ⟨?_, ?_⟩
    · rw [List.length_append, List.length_replicate]
      omega
    · rw [nibbles_append, spelled, nibbles_blank, blank]
  | half full digit small room spelled =>
    have count := congrArg List.length spelled
    rw [List.length_append, nibbles_length, List.length_singleton] at count
    have blank : 16 - digits.length = 2 * (7 - full.length) + 1 := by omega
    obtain ⟨-, pair⟩ := @nibbles_pair digit 0x0F small (by decide)
    refine ⟨?_, ?_⟩
    · rw [List.length_append, List.length_cons, List.length_replicate]
      omega
    · rw [← List.singleton_append, nibbles_append, nibbles_append, pair, nibbles_blank, blank,
        List.replicate_succ, ← spelled]
      simp

/-- The code is written inside its eight bytes: its first sixteen digits, in order, and then `F`. -/
theorem formatUserCode_eq (code : String) :
    ∃ bytes, formatUserCode code = .ok bytes ∧ bytes.length = 8 ∧
      nibbles bytes = (codeDigits code).take 16 ++
        List.replicate (16 - (codeDigits code).length) 0x0F := by
  have start : PackState.start.Holds [] := .whole [] (by decide) rfl
  obtain ⟨s, ran, packed⟩ := start.addAll code.toList (by decide)
  have few : ((codeDigits code).take 16).length ≤ 16 := by
    rw [List.length_take]
    omega
  obtain ⟨length, spelled⟩ := packed.nibbles_eq few
  refine ⟨s.bcdCode, ?_, length, ?_⟩
  · rw [formatUserCode, ran]
    rfl
  · have rest : 16 - ((codeDigits code).take 16).length = 16 - (codeDigits code).length := by
      rw [List.length_take]
      omega
    rw [← rest]
    exact spelled

end Packing

section Masks

lemma bitSet_shift {bit bit' : Nat} (h : bit < 8) (h' : bit' < 8) :
    bitSet ((0 : UInt8) ||| (1 : UInt8) <<< UInt8.ofNat bit) bit' = true ↔ bit' = bit := by
  have all : ∀ a b : Fin 8,
      bitSet ((0 : UInt8) ||| (1 : UInt8) <<< UInt8.ofNat a) b = true ↔ b = a := by
    decide
  have this_bit := all ⟨bit, h⟩ ⟨bit', h'⟩
  rw [Fin.mk.injEq] at this_bit
  exact this_bit

/-- The mask has one bit, that of the object. -/
theorem objectMask_eq {len : Nat} {id : UInt16} (positive : 1 ≤ id)
    (inside : id.toNat ≤ 8 * len) :
    ∃ mask, objectMask len id = .ok mask ∧ mask.length = len ∧
      ∀ i, i < 8 * len → (maskBit mask i = true ↔ i = id.toNat - 1) := by
  have low : 1 ≤ id.toNat := UInt16.le_iff_toNat_le.mp positive
  have idx : (id - 1).toNat = id.toNat - 1 := by
    rw [UInt16.toNat_sub_of_le _ _ positive]
    rfl
  have room : (id.toNat - 1) / 8 < len := by omega
  refine ⟨(List.replicate len 0).set ((id.toNat - 1) / 8)
    ((0 : UInt8) ||| (1 : UInt8) <<< UInt8.ofNat ((id.toNat - 1) % 8)), ?_, by simp, ?_⟩
  · rw [objectMask, idx, index_of_lt _ _ (by simpa using room), ok_bind,
      store_of_lt (by simpa using room), List.getElem_replicate]
  · intro i hi
    have byte : i / 8 < len := by omega
    rw [maskBit, List.getD_eq_getElem?_getD, List.getElem?_set]
    by_cases same : (id.toNat - 1) / 8 = i / 8
    · simp only [same, if_true, List.length_replicate, byte, Option.getD_some]
      rw [bitSet_shift (Nat.mod_lt _ (by decide)) (Nat.mod_lt _ (by decide))]
      omega
    · simp only [same, if_false, List.getElem?_replicate, byte, if_true, Option.getD_some]
      have clear : bitSet 0 (i % 8) = false := by simp [bitSet]
      rw [clear]
      constructor
      · intro h
        cases h
      · rintro rfl
        exact absurd rfl same

end Masks
end SatelIntegra
