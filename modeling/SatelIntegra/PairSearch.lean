import Mathlib.Data.List.Infix
import Mathlib.Tactic.Common

/-!
# Searching a list for two adjacent elements

`pairPosition a b l` is the index of the first place where `a` is directly
followed by `b`. A framed byte stream is cut at such places, so what matters is
how the answer behaves when the list grows at its end and when a part of it is
already known to hold no such pair.
-/

namespace PairSearch

universe u
variable {α : Type u} [DecidableEq α]

def pairPosition (a b : α) : List α → Option Nat
  | x :: y :: rest =>
    if x = a ∧ y = b then some 0 else (pairPosition a b (y :: rest)).map (· + 1)
  | _ => none

@[simp] lemma pairPosition_nil (a b : α) : pairPosition a b [] = none := rfl

@[simp] lemma pairPosition_singleton (a b x : α) : pairPosition a b [x] = none := rfl

lemma pairPosition_cons_cons (a b x y : α) (rest : List α) :
    pairPosition a b (x :: y :: rest) =
      if x = a ∧ y = b then some 0 else (pairPosition a b (y :: rest)).map (· + 1) := rfl

@[simp] lemma pairPosition_hit (a b : α) (rest : List α) :
    pairPosition a b (a :: b :: rest) = some 0 := by
  simp [pairPosition_cons_cons]

lemma pairPosition_cons_of_ne {a x : α} (b : α) (hx : x ≠ a) (rest : List α) :
    pairPosition a b (x :: rest) = (pairPosition a b rest).map (· + 1) := by
  cases rest with
  | nil => rfl
  | cons y rest => simp [pairPosition_cons_cons, hx]

lemma pairPosition_cons_cons_of_ne {b y : α} (a x : α) (hy : y ≠ b) (rest : List α) :
    pairPosition a b (x :: y :: rest) = (pairPosition a b (y :: rest)).map (· + 1) := by
  simp [pairPosition_cons_cons, hy]

/-- A found pair stays where it is when the list grows. -/
lemma pairPosition_append {a b : α} {l : List α} {i : Nat}
    (h : pairPosition a b l = some i) (r : List α) :
    pairPosition a b (l ++ r) = some i := by
  induction l generalizing i with
  | nil => cases h
  | cons x t ih =>
    cases t with
    | nil => cases h
    | cons y t =>
      by_cases hit : x = a ∧ y = b
      · simpa [pairPosition_cons_cons, hit] using h
      · simp only [pairPosition_cons_cons, if_neg hit, Option.map_eq_some_iff] at h
        obtain ⟨j, hj, rfl⟩ := h
        have tail := ih hj
        simp only [List.cons_append] at tail ⊢
        simp only [pairPosition_cons_cons, if_neg hit, tail, Option.map_some]

lemma pairPosition_lt {a b : α} {l : List α} {i : Nat}
    (h : pairPosition a b l = some i) : i + 1 < l.length := by
  induction l generalizing i with
  | nil => cases h
  | cons x t ih =>
    cases t with
    | nil => cases h
    | cons y t =>
      by_cases hit : x = a ∧ y = b
      · simp only [pairPosition_cons_cons, if_pos hit, Option.some.injEq] at h
        subst h
        simp
      · simp only [pairPosition_cons_cons, if_neg hit, Option.map_eq_some_iff] at h
        obtain ⟨j, hj, rfl⟩ := h
        have tail := ih hj
        simp only [List.length_cons] at tail ⊢
        omega

/-- From the position found on, the list starts with the pair. -/
lemma drop_pairPosition {a b : α} {l : List α} {i : Nat}
    (h : pairPosition a b l = some i) : ∃ rest, l.drop i = a :: b :: rest := by
  induction l generalizing i with
  | nil => cases h
  | cons x t ih =>
    cases t with
    | nil => cases h
    | cons y t =>
      by_cases hit : x = a ∧ y = b
      · simp only [pairPosition_cons_cons, if_pos hit, Option.some.injEq] at h
        subst h
        exact ⟨t, by simp [hit.1, hit.2]⟩
      · simp only [pairPosition_cons_cons, if_neg hit, Option.map_eq_some_iff] at h
        obtain ⟨j, hj, rfl⟩ := h
        simpa using ih hj

/-- A part without the pair, whose last element cannot start one either, only
shifts the position. -/
lemma pairPosition_append_of_none {a b : α} {l : List α}
    (h : pairPosition a b l = none) (last : l.getLast? ≠ some a) (r : List α) :
    pairPosition a b (l ++ r) = (pairPosition a b r).map (· + l.length) := by
  induction l with
  | nil => simp
  | cons x t ih =>
    cases t with
    | nil =>
      have hx : x ≠ a := fun e => last (by simp [e])
      simpa using pairPosition_cons_of_ne b hx r
    | cons y t =>
      by_cases hit : x = a ∧ y = b
      · simp [hit] at h
      · simp only [pairPosition_cons_cons, if_neg hit, Option.map_eq_none_iff] at h
        have tail := ih h (by simpa using last)
        simp only [List.cons_append] at tail ⊢
        simp only [pairPosition_cons_cons, if_neg hit, tail, Option.map_map, List.length_cons]
        congr 1

/-- A part without the pair that ends in `a` leaves only that element to search on. -/
lemma pairPosition_append_of_none_getLast {a b : α} {l : List α}
    (h : pairPosition a b l = none) (last : l.getLast? = some a) (r : List α) :
    pairPosition a b (l ++ r) = (pairPosition a b (a :: r)).map (· + (l.length - 1)) := by
  induction l with
  | nil => cases last
  | cons x t ih =>
    cases t with
    | nil =>
      have hx : x = a := by simpa using last
      simp [hx]
    | cons y t =>
      by_cases hit : x = a ∧ y = b
      · simp [hit] at h
      · simp only [pairPosition_cons_cons, if_neg hit, Option.map_eq_none_iff] at h
        have tail := ih h (by simpa using last)
        simp only [List.cons_append] at tail ⊢
        simp only [pairPosition_cons_cons, if_neg hit, tail, Option.map_map, List.length_cons]
        congr 1

lemma pairPosition_none_of_append {a b : α} {l r : List α}
    (h : pairPosition a b (l ++ r) = none) : pairPosition a b l = none := by
  cases hl : pairPosition a b l with
  | none => rfl
  | some i => rw [pairPosition_append hl] at h; cases h

lemma pairPosition_eq_none_iff {a b : α} {l : List α} :
    pairPosition a b l = none ↔ ¬ [a, b] <:+: l := by
  constructor
  · rintro h ⟨s, t, rfl⟩
    induction s with
    | nil => simp at h
    | cons x s ih =>
      apply ih
      cases hs : pairPosition a b (s ++ [a, b] ++ t) with
      | none => rfl
      | some i =>
        have longer : pairPosition a b (x :: (s ++ [a, b] ++ t)) ≠ none := by
          cases hl : s ++ [a, b] ++ t with
          | nil => simp at hl
          | cons y rest =>
            rw [hl] at hs
            by_cases hit : x = a ∧ y = b
            · simp [hit]
            · simp [pairPosition_cons_cons, hit, hs]
        exact absurd h longer
  · intro h
    cases hl : pairPosition a b l with
    | none => rfl
    | some i =>
      obtain ⟨rest, hrest⟩ := drop_pairPosition hl
      refine absurd ⟨l.take i, rest, ?_⟩ h
      calc l.take i ++ [a, b] ++ rest = l.take i ++ l.drop i := by simp [hrest]
        _ = l := List.take_append_drop i l

end PairSearch
