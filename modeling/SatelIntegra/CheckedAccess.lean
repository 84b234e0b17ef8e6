import Mathlib.Algebra.Group.Nat.Defs
import Mathlib.Data.List.Basic
import Mathlib.Tactic.Common

/-!
# Computations that may panic

Indexing and slicing outside a sequence and overflowing a fixed width are the
panics of the modelled language. `Except Panic` keeps them apart from the errors
a function returns as values, which sit in an `ExceptT` above it.
-/

namespace CheckedAccess

universe u v

inductive Panic where
  | indexOutOfBounds
  | arithmeticOverflow
  | unwrapNone
  deriving DecidableEq, Repr

/-- A result or an error value, unless the computation panics. -/
abbrev Fallible (ε : Type u) (α : Type u) := ExceptT ε (Except Panic) α

variable {ε α β : Type u}

/-- A computation that returns no error value, inside one that may. -/
def checked (x : Except Panic α) : Fallible ε α := ExceptT.lift x

def index (xs : List α) (i : Nat) : Except Panic α :=
  match xs[i]? with
  | some x => .ok x
  | none => .error .indexOutOfBounds

/-- `xs[i] = x` -/
def store (xs : List α) (i : Nat) (x : α) : Except Panic (List α) :=
  if i < xs.length then .ok (xs.set i x) else .error .indexOutOfBounds

/-- `xs[lo..]` -/
def sliceFrom (xs : List α) (lo : Nat) : Except Panic (List α) :=
  if lo ≤ xs.length then .ok (xs.drop lo) else .error .indexOutOfBounds

/-- `xs[lo..hi]` -/
def slice (xs : List α) (lo hi : Nat) : Except Panic (List α) :=
  if lo ≤ hi ∧ hi ≤ xs.length then .ok ((xs.drop lo).take (hi - lo))
  else .error .indexOutOfBounds

def addU8 (a b : UInt8) : Except Panic UInt8 :=
  if a.toNat + b.toNat < UInt8.size then .ok (a + b) else .error .arithmeticOverflow

def mulU8 (a b : UInt8) : Except Panic UInt8 :=
  if a.toNat * b.toNat < UInt8.size then .ok (a * b) else .error .arithmeticOverflow

def addU16 (a b : UInt16) : Except Panic UInt16 :=
  if a.toNat + b.toNat < UInt16.size then .ok (a + b) else .error .arithmeticOverflow

def mulU64 (a b : UInt64) : Except Panic UInt64 :=
  if a.toNat * b.toNat < UInt64.size then .ok (a * b) else .error .arithmeticOverflow

/-- `base.pow(exp)` -/
def powU64 (base : UInt64) (exp : UInt32) : Except Panic UInt64 :=
  if base.toNat.pow exp.toNat < UInt64.size then .ok (.ofNat (base.toNat.pow exp.toNat))
  else .error .arithmeticOverflow

/-- The result of an operation in a type whose values are below `size`. -/
def fit (size n : Nat) : Except Panic Nat :=
  if n < size then .ok n else .error .arithmeticOverflow

/-- A `usize` has at least 16 bits, so that what fits here overflows on no target. -/
def usizeBound : Nat := 2 ^ 16

def i32Bound : Nat := 2 ^ 31

def u64Bound : Nat := 2 ^ 64

/-- The computation ends in a value. -/
def NoPanic (x : Except Panic α) : Prop := ∃ a, x = .ok a

lemma noPanic_ok (a : α) : NoPanic (.ok a) := ⟨a, rfl⟩

lemma not_noPanic_error (p : Panic) : ¬ NoPanic (.error p : Except Panic α) := by
  rintro ⟨a, h⟩
  cases h

lemma fit_of_lt {size n : Nat} (h : n < size) : fit size n = .ok n := if_pos h

lemma fit_usize {n : Nat} (h : n < 65536) : fit usizeBound n = .ok n := fit_of_lt h

lemma fit_noPanic {size n : Nat} : NoPanic (fit size n) ↔ n < size := by
  constructor
  · intro ⟨a, h⟩
    by_contra big
    rw [fit, if_neg big] at h
    cases h
  · intro h
    exact ⟨n, fit_of_lt h⟩

lemma index_of_lt (xs : List α) (i : Nat) (h : i < xs.length) : index xs i = .ok xs[i] := by
  simp [index, h]

lemma index_getD [Inhabited α] (xs : List α) (i : Nat) (h : i < xs.length) :
    index xs i = .ok (xs.getD i default) := by
  simp [index, h]

lemma store_of_lt {xs : List α} {i : Nat} (h : i < xs.length) (x : α) :
    store xs i x = .ok (xs.set i x) := if_pos h

@[simp] lemma index_cons_zero (x : α) (xs : List α) : index (x :: xs) 0 = .ok x := rfl

@[simp] lemma index_nil (i : Nat) : index ([] : List α) i = .error .indexOutOfBounds := rfl

@[simp] lemma sliceFrom_cons_one (x : α) (xs : List α) : sliceFrom (x :: xs) 1 = .ok xs := by
  simp [sliceFrom]

lemma slice_of_le (xs : List α) (lo hi : Nat) (h : lo ≤ hi) (hi_le : hi ≤ xs.length) :
    slice xs lo hi = .ok ((xs.drop lo).take (hi - lo)) := by
  simp [slice, h, hi_le]

@[simp] lemma checked_ok_bind (a : α) (f : α → Fallible ε β) :
    checked (.ok a) >>= f = f a := rfl

lemma ok_bind (a : α) (f : α → Except Panic β) : (Except.ok a >>= f) = f a := rfl

lemma bind_eq_ok {x : Except Panic α} {f : α → Except Panic β} {b : β} :
    x >>= f = .ok b ↔ ∃ a, x = .ok a ∧ f a = .ok b := by
  constructor
  · intro h
    cases x with
    | error p => cases h
    | ok a => exact ⟨a, rfl, h⟩
  · rintro ⟨a, rfl, h⟩
    exact h

lemma NoPanic.bind {x : Except Panic α} {f : α → Except Panic β} (hx : NoPanic x)
    (hf : ∀ a, NoPanic (f a)) : NoPanic (x >>= f) := by
  obtain ⟨a, rfl⟩ := hx
  exact hf a

/-- A loop none of whose steps panics. -/
lemma mapM_ok {f : α → Except Panic β} {g : α → β} (xs : List α)
    (h : ∀ x ∈ xs, f x = .ok (g x)) : xs.mapM f = .ok (xs.map g) := by
  induction xs with
  | nil => rfl
  | cons x xs ih =>
    have head := h x List.mem_cons_self
    have tail := ih fun y hy => h y (List.mem_cons_of_mem x hy)
    rw [List.mapM_cons, head, tail]
    rfl

end CheckedAccess
