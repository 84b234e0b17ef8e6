import Mathlib.Data.List.Basic
import Mathlib.Tactic.Common

/-!
# Splitting a growing buffer into items

A splitter takes a complete item off the front of a buffer when there is one. It
must consume something, and an item it has found must not change when more input
arrives. These two laws are enough to make the sequence of items independent of
the chunks in which the input came, also for a reader that throws away input
which can no longer belong to an item.
-/

namespace IncrementalSplit

universe u v
variable {α : Type u} {β : Type v}

structure Splitter (α : Type u) (β : Type v) where
  split : List α → Option (β × List α)
  shorter : ∀ {l x r}, split l = some (x, r) → r.length < l.length
  extend : ∀ {l x r}, split l = some (x, r) → ∀ m, split (l ++ m) = some (x, r ++ m)

namespace Splitter
variable (S : Splitter α β)

/-- All items of a buffer and the part behind the last complete one. -/
def splitAll (l : List α) : List β × List α :=
  match h : S.split l with
  | none => ([], l)
  | some (x, r) =>
    have : r.length < l.length := S.shorter h
    let tail := splitAll r
    (x :: tail.1, tail.2)
termination_by l.length

def items (l : List α) : List β := (S.splitAll l).1

def rest (l : List α) : List α := (S.splitAll l).2

variable {S}

lemma splitAll_of_none {l : List α} (h : S.split l = none) : S.splitAll l = ([], l) := by
  rw [splitAll]
  split
  · rfl
  · next heq => rw [h] at heq; cases heq

lemma splitAll_of_some {l : List α} {x : β} {r : List α} (h : S.split l = some (x, r)) :
    S.splitAll l = (x :: (S.splitAll r).1, (S.splitAll r).2) := by
  rw [splitAll]
  split
  · next heq => rw [h] at heq; cases heq
  · next heq =>
    rw [h] at heq
    cases heq
    rfl

lemma items_of_none {l : List α} (h : S.split l = none) : S.items l = [] := by
  simp [items, splitAll_of_none h]

lemma rest_of_none {l : List α} (h : S.split l = none) : S.rest l = l := by
  simp [rest, splitAll_of_none h]

lemma items_of_some {l : List α} {x : β} {r : List α} (h : S.split l = some (x, r)) :
    S.items l = x :: S.items r := by
  simp [items, splitAll_of_some h]

lemma rest_of_some {l : List α} {x : β} {r : List α} (h : S.split l = some (x, r)) :
    S.rest l = S.rest r := by
  simp [rest, splitAll_of_some h]

lemma items_congr {l l' : List α} (h : S.split l = S.split l') : S.items l = S.items l' := by
  cases hs : S.split l with
  | none => rw [items_of_none hs, items_of_none (h ▸ hs)]
  | some p =>
    have hs' : S.split l' = some (p.1, p.2) := h ▸ hs
    rw [items_of_some hs, items_of_some hs']

/-- Induction along the items of a buffer. -/
theorem splitInduction {P : List α → Prop} (stop : ∀ l, S.split l = none → P l)
    (step : ∀ l x r, S.split l = some (x, r) → P r → P l) (l : List α) : P l := by
  induction hn : l.length using Nat.strongRecOn generalizing l with
  | ind n ih =>
    cases hs : S.split l with
    | none => exact stop l hs
    | some p =>
      obtain ⟨x, r⟩ := p
      exact step l x r hs (ih r.length (hn ▸ S.shorter hs) r rfl)

/-- Nothing complete is left behind. -/
theorem split_rest (l : List α) : S.split (S.rest l) = none := by
  induction l using splitInduction (S := S) with
  | stop l h => rw [rest_of_none h]; exact h
  | step l x r h ih => rw [rest_of_some h]; exact ih

theorem items_append (l m : List α) :
    S.items (l ++ m) = S.items l ++ S.items (S.rest l ++ m) := by
  induction l using splitInduction (S := S) with
  | stop l h => simp [items_of_none h, rest_of_none h]
  | step l x r h ih =>
    rw [items_of_some (S.extend h m), items_of_some h, rest_of_some h, ih]
    rfl

theorem rest_append (l m : List α) : S.rest (l ++ m) = S.rest (S.rest l ++ m) := by
  induction l using splitInduction (S := S) with
  | stop l h => rw [rest_of_none h]
  | step l x r h ih => rw [rest_of_some (S.extend h m), rest_of_some h, ih]

variable (S) in
/-- Two buffers that no further input can tell apart. -/
def Interchangeable (l l' : List α) : Prop :=
  ∀ m, S.items (l ++ m) = S.items (l' ++ m)

/-- A reader that reports the items of its buffer and keeps an interchangeable
buffer goes on to report exactly the items that are still missing. -/
theorem Interchangeable.items_append {l kept : List α}
    (h : S.Interchangeable kept (S.rest l)) (m : List α) :
    S.items (l ++ m) = S.items l ++ S.items (kept ++ m) := by
  rw [Splitter.items_append, h m]

end Splitter
end IncrementalSplit
