import Mathlib.Data.List.Chain
import Mathlib.Data.List.Count

/-!
# Paths of a state diagram

A machine that reports every state it enters leaves a log. The log is a path of the
diagram `R` if each report is a successor of the one before it. Paths compose, and a
state that is entered from one other state only is not seen more often than that one.
-/

namespace StatePaths

variable {α : Type*} {R : α → α → Prop} {a b c : α} {l l' : List α}

/-- From `a`, the states of `l` are entered one after another along `R`, and `b` is the last. -/
structure Path (R : α → α → Prop) (a : α) (l : List α) (b : α) : Prop where
  chain : List.IsChain R (a :: l)
  last : l.getLastD a = b

namespace Path

lemma nil (a : α) : Path R a [] a := ⟨List.isChain_singleton a, rfl⟩

lemma single (h : R a b) : Path R a [b] b :=
  ⟨List.isChain_cons_cons.mpr ⟨h, List.isChain_singleton b⟩, rfl⟩

lemma cons (h : R a b) (p : Path R b l c) : Path R a (b :: l) c where
  chain := List.isChain_cons_cons.mpr ⟨h, p.chain⟩
  last := by
    rw [List.getLastD_cons]
    exact p.last

lemma cons_iff : Path R a (b :: l) c ↔ R a b ∧ Path R b l c := by
  constructor
  · rintro ⟨chain, last⟩
    obtain ⟨first, rest⟩ := List.isChain_cons_cons.mp chain
    rw [List.getLastD_cons] at last
    exact ⟨first, rest, last⟩
  · rintro ⟨first, rest⟩
    exact rest.cons first

lemma append (p : Path R a l b) (p' : Path R b l' c) : Path R a (l ++ l') c := by
  induction l generalizing a with
  | nil =>
    obtain rfl : a = b := p.last
    exact p'
  | cons x l ih =>
    obtain ⟨first, rest⟩ := cons_iff.mp p
    exact (ih rest).cons first

/-- A state entered from `x` only is seen at most as often as `x`. -/
lemma count_le [DecidableEq α] {x y : α} (only : ∀ u, R u y → u = x) (p : Path R a l b) :
    l.count y ≤ (a :: l).count x := by
  induction l generalizing a with
  | nil => exact Nat.zero_le _
  | cons z l ih =>
    obtain ⟨first, rest⟩ := cons_iff.mp p
    have later := ih rest
    by_cases same : z = y
    · subst same
      obtain rfl := only a first
      rw [List.count_cons_self, List.count_cons_self]
      exact Nat.succ_le_succ later
    · rw [List.count_cons_of_ne same]
      rw [List.count_cons]
      omega

end Path
end StatePaths
