import Mathlib.Data.List.Basic
import Mathlib.Tactic.Common

/-!
# Cells that report what changes

A cell remembers a value and when it was read. An observation is reported when it
is the first, when it differs from the remembered value, or when reporting is
forced; only then is the cell written. Whatever is reported, the cell then holds
the last observation, and so does a reader that follows the reports alone.
-/

namespace ObservedCell

universe u v
variable {β : Type u} {τ : Type v} [DecidableEq β]

structure Cell (β : Type u) (τ : Type v) where
  value : β
  readAt : Option τ

/-- The report is due. -/
def due (force : Bool) (cell : Cell β τ) (observed : β) : Bool :=
  force || cell.readAt.isNone || cell.value != observed

def observe (force : Bool) (time : τ) (cell : Cell β τ) (observed : β) : Cell β τ × Option β :=
  if due force cell observed then (⟨observed, some time⟩, some observed) else (cell, none)

lemma observe_of_due {force : Bool} {cell : Cell β τ} {observed : β}
    (h : due force cell observed = true) (time : τ) :
    observe force time cell observed = (⟨observed, some time⟩, some observed) := by
  simp [observe, h]

lemma observe_of_not_due {force : Bool} {cell : Cell β τ} {observed : β}
    (h : due force cell observed = false) (time : τ) :
    observe force time cell observed = (cell, none) := by
  simp [observe, h]

lemma observe_value (force : Bool) (time : τ) (cell : Cell β τ) (observed : β) :
    (observe force time cell observed).1.value = observed := by
  cases h : due force cell observed with
  | true => rw [observe_of_due h]
  | false =>
    have same : cell.value = observed := by
      simp only [due, Bool.or_eq_false_iff, bne_eq_false_iff_eq] at h
      exact h.2
    rw [observe_of_not_due h, same]

lemma observe_read (force : Bool) (time : τ) (cell : Cell β τ) (observed : β) :
    (observe force time cell observed).1.readAt.isSome = true := by
  cases h : due force cell observed with
  | true => simp [observe_of_due h]
  | false =>
    rw [observe_of_not_due h]
    simp only [due, Bool.or_eq_false_iff, Option.isNone_eq_false_iff] at h
    exact h.1.2

/-- The cell after the observations `history`, of which `log` were reported. -/
structure Follows (initial : β) (cell : Cell β τ) (history log : List β) : Prop where
  value : cell.value = history.getLastD initial
  read : cell.readAt.isSome = !history.isEmpty
  replay : cell.value = log.getLastD initial

omit [DecidableEq β] in
lemma follows_nil (initial : β) : Follows (τ := τ) initial ⟨initial, none⟩ [] [] :=
  ⟨rfl, rfl, rfl⟩

omit [DecidableEq β] in
lemma getLastD_snoc (xs : List β) (x d : β) : (xs ++ [x]).getLastD d = x := by
  simp

/-- When an observation is reported, in terms of the earlier ones. -/
lemma Follows.due_eq {initial : β} {cell : Cell β τ} {history log : List β}
    (h : Follows initial cell history log) (force : Bool) (observed : β) :
    due force cell observed =
      (force || history.isEmpty || history.getLastD initial != observed) := by
  have hnone : cell.readAt.isNone = history.isEmpty := by
    have := h.read
    cases hc : cell.readAt <;> simp_all
  rw [due, hnone, h.value]

theorem Follows.observe {initial : β} {cell : Cell β τ} {history log : List β}
    (h : Follows initial cell history log) (force : Bool) (time : τ) (observed : β) :
    Follows initial (observe force time cell observed).1 (history ++ [observed])
      (log ++ (ObservedCell.observe force time cell observed).2.toList) := by
  refine ⟨?_, ?_, ?_⟩
  · rw [observe_value, getLastD_snoc]
  · rw [observe_read]
    simp
  · cases hd : due force cell observed with
    | true =>
      rw [observe_of_due hd]
      simp
    | false =>
      rw [observe_of_not_due hd]
      simpa using h.replay

end ObservedCell
