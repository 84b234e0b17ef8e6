import Mathlib.Data.List.Basic
import Mathlib.Logic.Function.Basic
import Mathlib.Tactic.Common

/-!
# A keyed store whose writes are announced

A write puts a value under a key and is announced when it changes what the key
reads, or when announcing is forced. What becomes of a key depends on the writes
of that key alone; if every key is written by the batches of one owner only, it
depends on that owner's batches alone, in whatever order the others come.
-/

namespace KeyedWrites

universe u v w x

structure Write (K : Type u) (V : Type v) where
  key : K
  value : V
  forced : Bool

variable {K : Type u} {V : Type v} [DecidableEq K] [DecidableEq V]

def put (store : K → Option V) (w : Write K V) : K → Option V :=
  Function.update store w.key (some w.value)

/-- What the key reads; an absent key reads as blank. -/
def reading (blank : V) (store : K → Option V) (key : K) : V := (store key).getD blank

def announced (blank : V) (store : K → Option V) (w : Write K V) : List (K × V) :=
  if reading blank store w.key != w.value || w.forced then [(w.key, w.value)] else []

def final (store : K → Option V) (writes : List (Write K V)) : K → Option V :=
  writes.foldl put store

def announcements (blank : V) : (K → Option V) → List (Write K V) → List (K × V)
  | _, [] => []
  | store, w :: writes => announced blank store w ++ announcements blank (put store w) writes

omit [DecidableEq V] in
lemma final_append (store : K → Option V) (writes writes' : List (Write K V)) :
    final store (writes ++ writes') = final (final store writes) writes' :=
  List.foldl_append

lemma announcements_append (blank : V) (store : K → Option V) (writes writes' : List (Write K V)) :
    announcements blank store (writes ++ writes') =
      announcements blank store writes ++ announcements blank (final store writes) writes' := by
  induction writes generalizing store with
  | nil => rfl
  | cons w writes ih =>
    rw [List.cons_append, announcements, announcements, ih, List.append_assoc]
    rfl

section OneKey

def writesOf (key : K) (writes : List (Write K V)) : List (Write K V) :=
  writes.filter fun w => w.key = key

def announcedOf (key : K) (events : List (K × V)) : List V :=
  (events.filter fun event => event.1 = key).map Prod.snd

omit [DecidableEq V] in
lemma put_of_ne {w : Write K V} {key : K} (h : w.key ≠ key) (store : K → Option V) :
    put store w key = store key :=
  Function.update_of_ne (Ne.symm h) _ _

omit [DecidableEq V] in
lemma put_congr {store store' : K → Option V} {key : K} (same : store key = store' key)
    (w : Write K V) : put store w key = put store' w key := by
  by_cases h : w.key = key
  · rw [put, put, h, Function.update_self, Function.update_self]
  · rw [put_of_ne h, put_of_ne h, same]

lemma announcedOf_announced (blank : V) {w : Write K V} {key : K} (store : K → Option V) :
    announcedOf key (announced blank store w) =
      if w.key = key ∧ (reading blank store key != w.value || w.forced) = true then [w.value]
      else [] := by
  by_cases h : w.key = key
  · subst h
    by_cases due : (reading blank store w.key != w.value || w.forced) = true
    · rw [announced, if_pos due, if_pos ⟨rfl, due⟩]
      simp [announcedOf]
    · rw [announced, if_neg due, if_neg fun c => due c.2]
      rfl
  · rw [if_neg fun c => h c.1, announced]
    split <;> simp [announcedOf, h]

/-- A key's value and its announcements come from the key's own writes. -/
theorem only_own_writes (blank : V) (key : K) (writes : List (Write K V)) :
    ∀ store store' : K → Option V, store key = store' key →
      final store writes key = final store' (writesOf key writes) key ∧
        announcedOf key (announcements blank store writes) =
          announcedOf key (announcements blank store' (writesOf key writes)) := by
  induction writes with
  | nil =>
    intro store store' same
    exact ⟨same, rfl⟩
  | cons w writes ih =>
    intro store store' same
    have split (l l' : List (K × V)) :
        announcedOf key (l ++ l') = announcedOf key l ++ announcedOf key l' := by
      simp [announcedOf]
    by_cases h : w.key = key
    · have keep : writesOf key (w :: writes) = w :: writesOf key writes := by simp [writesOf, h]
      obtain ⟨value, events⟩ := ih (put store w) (put store' w) (put_congr same w)
      rw [keep]
      refine ⟨value, ?_⟩
      have reads : reading blank store key = reading blank store' key := by rw [reading, same, reading]
      rw [announcements, announcements, split, split, events, announcedOf_announced,
        announcedOf_announced, reads]
    · have drop : writesOf key (w :: writes) = writesOf key writes := by simp [writesOf, h]
      obtain ⟨value, events⟩ := ih (put store w) store' ((put_of_ne h store).trans same)
      rw [drop]
      refine ⟨value, ?_⟩
      rw [announcements, split, announcedOf_announced, if_neg fun c => h c.1, List.nil_append]
      exact events

/-- Two lists with the same writes of a key leave the same value and announce the same. -/
theorem same_own_writes (blank : V) (store : K → Option V) {key : K} {writes writes' : List (Write K V)}
    (same : writesOf key writes = writesOf key writes') :
    final store writes key = final store writes' key ∧
      announcedOf key (announcements blank store writes) =
        announcedOf key (announcements blank store writes') := by
  obtain ⟨value, events⟩ := only_own_writes blank key writes store store rfl
  obtain ⟨value', events'⟩ := only_own_writes blank key writes' store store rfl
  rw [same] at value events
  exact ⟨value.trans value'.symm, events.trans events'.symm⟩

omit [DecidableEq V] in
lemma final_of_not_mem {key : K} {writes : List (Write K V)} (h : key ∉ writes.map Write.key)
    (store : K → Option V) : final store writes key = store key := by
  induction writes generalizing store with
  | nil => rfl
  | cons w writes ih =>
    obtain ⟨other, absent⟩ := not_or.mp fun inside => h (List.mem_cons.mpr inside)
    exact (ih absent (put store w)).trans (put_of_ne (Ne.symm other) store)

omit [DecidableEq V] in
/-- Of writes to different keys, each is there at the end. -/
lemma final_of_mem {writes : List (Write K V)} (once : (writes.map Write.key).Nodup)
    {w : Write K V} (h : w ∈ writes) (store : K → Option V) :
    final store writes w.key = some w.value := by
  induction writes generalizing store with
  | nil => cases h
  | cons first writes ih =>
    obtain ⟨fresh, rest⟩ := List.nodup_cons.mp once
    rcases List.mem_cons.mp h with rfl | later
    · exact (final_of_not_mem fresh (put store w)).trans (Function.update_self ..)
    · exact ih rest later (put store first)

omit [DecidableEq V] in
/-- What is under a key was written, or was there before. -/
lemma final_origin {key : K} {value : V} {writes : List (Write K V)} {store : K → Option V}
    (h : final store writes key = some value) :
    (∃ w ∈ writes, w.key = key ∧ w.value = value) ∨ store key = some value := by
  induction writes generalizing store with
  | nil => exact .inr h
  | cons first writes ih =>
    rcases @ih (put store first) h with ⟨w, hw, written⟩ | before
    · exact .inl ⟨w, List.mem_cons_of_mem first hw, written⟩
    by_cases own : first.key = key
    · subst own
      rw [put, Function.update_self] at before
      exact .inl ⟨first, List.mem_cons_self, rfl, Option.some.inj before⟩
    · rw [put_of_ne own] at before
      exact .inr before

end OneKey

section Owners
variable {B : Type w} {C : Type x} [DecidableEq C]
  {owner : B → C} {writes : B → List (Write K V)}

omit [DecidableEq V] in
/-- The writes of a key are those of its owner's batches. -/
lemma writesOf_owner {home : K → C} (owned : ∀ b, ∀ w ∈ writes b, home w.key = owner b) (key : K)
    (batches : List B) :
    writesOf key (batches.flatMap writes) =
      writesOf key ((batches.filter fun b => owner b = home key).flatMap writes) := by
  induction batches with
  | nil => rfl
  | cons b batches ih =>
    rw [List.flatMap_cons, List.filter_cons]
    have split (l l' : List (Write K V)) : writesOf key (l ++ l') = writesOf key l ++ writesOf key l' :=
      List.filter_append ..
    by_cases h : owner b = home key
    · simp only [h, decide_true, if_true, List.flatMap_cons, split, ih]
    · have none_here : writesOf key (writes b) = [] := by
        refine List.filter_eq_nil_iff.mpr ?_
        intro w hw
        have := owned b w hw
        simp only [decide_eq_true_eq]
        rintro rfl
        exact h this.symm
      rw [split, none_here, List.nil_append, ih]
      simp [h]

/-- What becomes of a key depends on the batches of its owner alone. -/
theorem same_owned_batches {home : K → C} (owned : ∀ b, ∀ w ∈ writes b, home w.key = owner b)
    (blank : V) (store : K → Option V) {key : K} {batches batches' : List B}
    (same : (batches.filter fun b => owner b = home key) =
      batches'.filter fun b => owner b = home key) :
    final store (batches.flatMap writes) key = final store (batches'.flatMap writes) key ∧
      announcedOf key (announcements blank store (batches.flatMap writes)) =
        announcedOf key (announcements blank store (batches'.flatMap writes)) := by
  apply same_own_writes
  rw [writesOf_owner owned key batches, writesOf_owner owned key batches', same]

end Owners

/-! ### Replaying the announcements -/

/-- A reader that starts from a map and follows the announcements. -/
def follow (view : K → V) (events : List (K × V)) : K → V :=
  events.foldl (fun view event => Function.update view event.1 event.2) view

omit [DecidableEq V] in
lemma reading_put (blank : V) (store : K → Option V) (w : Write K V) :
    reading blank (put store w) = Function.update (reading blank store) w.key w.value := by
  funext key
  by_cases h : key = w.key
  · subst h
    rw [reading, put, Function.update_self, Function.update_self]
    rfl
  · rw [reading, put, Function.update_of_ne h, Function.update_of_ne h]
    rfl

/-- The announcements alone tell a reader what every key reads. -/
theorem follow_announcements (blank : V) (writes : List (Write K V)) (store : K → Option V) :
    follow (reading blank store) (announcements blank store writes) =
      reading blank (final store writes) := by
  induction writes generalizing store with
  | nil => rfl
  | cons w writes ih =>
    have one : follow (reading blank store) (announced blank store w) =
        reading blank (put store w) := by
      rw [reading_put]
      by_cases due : (reading blank store w.key != w.value || w.forced) = true
      · rw [announced, if_pos due]
        rfl
      · rw [announced, if_neg due]
        -- an unannounced write repeats what the key reads
        have same : reading blank store w.key = w.value := by
          simp only [Bool.or_eq_true, bne_iff_ne, not_or, not_not] at due
          exact due.1
        rw [← same, Function.update_eq_self]
        rfl
    calc follow (reading blank store) (announcements blank store (w :: writes))
        = follow (follow (reading blank store) (announced blank store w))
            (announcements blank (put store w) writes) := List.foldl_append
      _ = reading blank (final (put store w) writes) := by rw [one, ih]

/-- A reader that has followed so far goes on with the next announcements. -/
lemma follow_append {blank : V} {view : K → V} {events : List (K × V)} {store : K → Option V}
    (h : follow view events = reading blank store) (writes : List (Write K V)) :
    follow view (events ++ announcements blank store writes) =
      reading blank (final store writes) := by
  have split : follow view (events ++ announcements blank store writes) =
      follow (follow view events) (announcements blank store writes) := List.foldl_append
  rw [split, h]
  exact follow_announcements blank writes store

end KeyedWrites
