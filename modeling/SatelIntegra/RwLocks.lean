import Mathlib.Data.List.Basic
import Mathlib.Data.Set.Basic
import Mathlib.Logic.Function.Basic
import Mathlib.Tactic.Common

/-!
# Threads over reader-writer locks

A thread is a list of lock and unlock operations; guards are dropped in the opposite
order of their acquisition. Readers share a lock, a writer excludes everyone, and a
reader may be kept waiting as soon as a writer waits. A set of threads is deadlocked
when each of them waits for another one of the set.

Deadlocks are excluded by a level for every lock. The level has to rise along nested
acquisitions, with one exception: read guards of one lock may be held across any
acquisition, as long as no writer of that lock waits in the meantime.
-/

namespace RwLocks

universe u v

inductive Mode where
  | read
  | write
  deriving DecidableEq, Repr

structure Guard (L : Type u) where
  mode : Mode
  lock : L
  deriving DecidableEq, Repr

inductive Op (L : Type u) where
  | lock (guard : Guard L)
  | unlock
  deriving DecidableEq, Repr

/-- `waiting` says that the lock operation in front of `todo` has been called. -/
structure Thread (L : Type u) where
  held : List (Guard L)
  waiting : Bool
  todo : List (Op L)
  deriving DecidableEq, Repr

variable {L : Type u} {ι : Type v}

namespace Thread

def wants (t : Thread L) : Option (Guard L) :=
  match t.waiting, t.todo with
  | true, .lock guard :: _ => some guard
  | _, _ => none

lemma wants_eq_some {t : Thread L} {guard : Guard L} :
    t.wants = some guard ↔ t.waiting = true ∧ ∃ rest, t.todo = .lock guard :: rest := by
  unfold wants
  split
  · rename_i hw ht
    simp [hw, ht]
  · rename_i h
    constructor
    · nofun
    · rintro ⟨hw, rest, ht⟩
      exact absurd ht (h guard rest hw)

end Thread

def Guard.Conflicts (held wanted : Guard L) : Prop :=
  held.lock = wanted.lock ∧ (held.mode = .write ∨ wanted.mode = .write)

instance [DecidableEq L] (held wanted : Guard L) : Decidable (held.Conflicts wanted) :=
  inferInstanceAs (Decidable (_ ∧ _))

abbrev System (ι : Type v) (L : Type u) := ι → Thread L

/-- No thread holds a guard that excludes this one. -/
def Free (s : System ι L) (wanted : Guard L) : Prop :=
  ∀ t, ∀ guard ∈ (s t).held, ¬ guard.Conflicts wanted

inductive Action (ι : Type v) where
  | call (t : ι)
  | take (t : ι)
  | drop (t : ι)

section Steps
variable [DecidableEq ι]

inductive Step : System ι L → Action ι → System ι L → Prop where
  | call {s : System ι L} {t : ι} {guard : Guard L} {rest : List (Op L)}
      (ready : (s t).waiting = false) (next : (s t).todo = .lock guard :: rest) :
      Step s (.call t) (Function.update s t { s t with waiting := true })
  | take {s : System ι L} {t : ι} {guard : Guard L} {rest : List (Op L)}
      (called : (s t).waiting = true) (next : (s t).todo = .lock guard :: rest)
      (free : Free s guard) :
      Step s (.take t) (Function.update s t ⟨guard :: (s t).held, false, rest⟩)
  | drop {s : System ι L} {t : ι} {guard : Guard L} {held : List (Guard L)} {rest : List (Op L)}
      (ready : (s t).waiting = false) (next : (s t).todo = .unlock :: rest)
      (top : (s t).held = guard :: held) :
      Step s (.drop t) (Function.update s t ⟨held, false, rest⟩)

/-- The systems reached by steps that are allowed where they are taken. -/
inductive Run (allowed : System ι L → Action ι → Prop) (start : System ι L) :
    System ι L → Prop where
  | refl : Run allowed start start
  | step {s s' : System ι L} {a : Action ι} (before : Run allowed start s)
      (ok : allowed s a) (step : Step s a s') : Run allowed start s'

lemma Run.invariant {allowed : System ι L → Action ι → Prop} {start s : System ι L}
    {P : System ι L → Prop} (run : Run allowed start s) (init : P start)
    (kept : ∀ s a s', P s → allowed s a → Step s a s' → P s') : P s := by
  induction run with
  | refl => exact init
  | step _ ok step ih => exact kept _ _ _ ih ok step

end Steps

/-- `t` waits for a lock that `u` holds, or reads a lock whose writer `u` waits for it. -/
def WaitsFor (s : System ι L) (t u : ι) : Prop :=
  ∃ wanted, (s t).wants = some wanted ∧
    ((∃ guard ∈ (s u).held, guard.Conflicts wanted) ∨
      (wanted.mode = .read ∧ (s u).wants = some ⟨.write, wanted.lock⟩))

def Deadlocked (s : System ι L) (D : Set ι) : Prop :=
  D.Nonempty ∧ ∀ t ∈ D, ∃ u ∈ D, WaitsFor s t u

lemma WaitsFor.waiting {s : System ι L} {t u : ι} (h : WaitsFor s t u) :
    (s t).waiting = true := by
  obtain ⟨wanted, hwanted, -⟩ := h
  exact (Thread.wants_eq_some.mp hwanted).1

/-- A rank that rises along waiting and is bounded excludes deadlocks. -/
theorem not_deadlocked_of_rank {s : System ι L} (rank : ι → Nat) (bound : Nat)
    (rises : ∀ t u, WaitsFor s t u → (∃ v, WaitsFor s u v) → rank t < rank u)
    (bounded : ∀ t, rank t ≤ bound) (D : Set ι) : ¬ Deadlocked s D := by
  rintro ⟨⟨t₀, ht₀⟩, blocked⟩
  -- from every member of the set a longer and longer chain rises
  have climb : ∀ n, ∃ t ∈ D, n ≤ rank t := by
    intro n
    induction n with
    | zero => exact ⟨t₀, ht₀, Nat.zero_le _⟩
    | succ n ih =>
      obtain ⟨t, ht, hn⟩ := ih
      obtain ⟨u, hu, hwaits⟩ := blocked t ht
      obtain ⟨v, -, hnext⟩ := blocked u hu
      exact ⟨u, hu, Nat.lt_of_le_of_lt hn (rises t u hwaits ⟨v, hnext⟩)⟩
  obtain ⟨t, -, ht⟩ := climb (bound + 1)
  exact absurd (bounded t) (by omega)

/-- The lock lets no reader pass a waiting writer. -/
def WritersFirst (s : System ι L) : Action ι → Prop
  | .take t => ∀ l, (s t).wants = some ⟨.read, l⟩ → ∀ u, (s u).wants ≠ some ⟨.write, l⟩
  | _ => True

section Forever
variable [DecidableEq ι]

/-- No member of a deadlocked set takes a step. -/
lemma Deadlocked.step {s s' : System ι L} {a : Action ι} {D : Set ι} (h : Deadlocked s D)
    (policy : WritersFirst s a) (step : Step s a s') : Deadlocked s' D := by
  have outside : ∃ t x, t ∉ D ∧ s' = Function.update s t x := by
    cases step with
    | @call t _ _ ready next =>
      refine ⟨t, _, fun ht => ?_, rfl⟩
      obtain ⟨u, -, hwaits⟩ := h.2 t ht
      rw [hwaits.waiting] at ready
      cases ready
    | @drop t _ _ _ ready next top =>
      refine ⟨t, _, fun ht => ?_, rfl⟩
      obtain ⟨u, -, hwaits⟩ := h.2 t ht
      rw [hwaits.waiting] at ready
      cases ready
    | @take t guard rest called next free =>
      refine ⟨t, _, fun ht => ?_, rfl⟩
      have wants : (s t).wants = some guard := Thread.wants_eq_some.mpr ⟨called, rest, next⟩
      obtain ⟨u, -, wanted, hwanted, hblocks⟩ := h.2 t ht
      obtain rfl : guard = wanted := Option.some.inj (wants.symm.trans hwanted)
      rcases hblocks with ⟨held, hheld, hconflict⟩ | ⟨hread, hwriter⟩
      · exact free u held hheld hconflict
      · refine policy guard.lock ?_ u hwriter
        rw [wants, ← hread]
  obtain ⟨t₀, x, ht₀, rfl⟩ := outside
  have same : ∀ t ∈ D, Function.update s t₀ x t = s t := by
    intro t ht
    have hne : t ≠ t₀ := by
      rintro rfl
      exact ht₀ ht
    exact Function.update_of_ne hne x s
  refine ⟨h.1, fun t ht => ?_⟩
  obtain ⟨u, hu, hwaits⟩ := h.2 t ht
  refine ⟨u, hu, ?_⟩
  unfold WaitsFor
  rw [same t ht, same u hu]
  exact hwaits

/-- A deadlock lasts forever if the locks let no reader pass a waiting writer. -/
theorem Deadlocked.forever {s s' : System ι L} {D : Set ι} (h : Deadlocked s D)
    (run : Run WritersFirst s s') : Deadlocked s' D :=
  run.invariant (P := fun s => Deadlocked s D) h fun _ _ _ h ok step => h.step ok step

end Forever

/-- `rule` holds of the guards held and the guard taken, at every lock operation to come. -/
def Follows (rule : List (Guard L) → Guard L → Prop) : List (Guard L) → List (Op L) → Prop
  | held, .lock guard :: rest => rule held guard ∧ Follows rule (guard :: held) rest
  | held, .unlock :: rest => Follows rule held.tail rest
  | _, [] => True

def Disciplined (rule : List (Guard L) → Guard L → Prop) (s : System ι L) : Prop :=
  ∀ t, Follows rule (s t).held (s t).todo

/-- Operations that keep to the rule and give back what they take. -/
def Fits (rule : List (Guard L) → Guard L → Prop) (held : List (Guard L))
    (ops : List (Op L)) : Prop :=
  ∀ rest, Follows rule held rest → Follows rule held (ops ++ rest)

/-- A guard that lives to the end of its block. -/
def withGuard (mode : Mode) (lock : L) (body : List (Op L)) : List (Op L) :=
  .lock ⟨mode, lock⟩ :: (body ++ [.unlock])

section Fits
variable {rule : List (Guard L) → Guard L → Prop} {held : List (Guard L)}

lemma fits_nil : Fits rule held [] := fun _ h => h

lemma Fits.append {ops ops' : List (Op L)} (h : Fits rule held ops) (h' : Fits rule held ops') :
    Fits rule held (ops ++ ops') := by
  intro rest after
  rw [List.append_assoc]
  exact h _ (h' _ after)

lemma Fits.ite {ops ops' : List (Op L)} {b : Bool} (h : b = true → Fits rule held ops)
    (h' : Fits rule held ops') : Fits rule held (if b then ops else ops') := by
  cases b with
  | false => exact h'
  | true => exact h rfl

lemma fits_flatten {parts : List (List (Op L))} (h : ∀ ops ∈ parts, Fits rule held ops) :
    Fits rule held parts.flatten := by
  induction parts with
  | nil => exact fits_nil
  | cons ops parts ih =>
    rw [List.flatten_cons]
    exact (h ops List.mem_cons_self).append (ih fun ops' hops => h ops' (List.mem_cons_of_mem _ hops))

lemma fits_withGuard {mode : Mode} {lock : L} {body : List (Op L)}
    (outer : rule held ⟨mode, lock⟩) (inner : Fits rule (⟨mode, lock⟩ :: held) body) :
    Fits rule held (withGuard mode lock body) := by
  intro rest after
  have inside : Follows rule (⟨mode, lock⟩ :: held) (body ++ (.unlock :: rest)) := inner _ after
  simpa [withGuard, Follows] using ⟨outer, inside⟩

lemma Fits.follows {ops : List (Op L)} (h : Fits rule held ops) : Follows rule held ops := by
  have done : Follows rule held [] := by cases held <;> trivial
  simpa using h [] done

end Fits

/-- Guards of `l` are still held when the thread takes its next lock. -/
def HeldAcross (l : L) : List (Guard L) → List (Op L) → Prop
  | held, .lock _ :: _ => ∃ guard ∈ held, guard.lock = l
  | _ :: held, .unlock :: rest => HeldAcross l held rest
  | _, _ => False

lemma HeldAcross.of_lock {l : L} {held : List (Guard L)} {guard : Guard L} {rest : List (Op L)}
    (h : ∃ g ∈ held, g.lock = l) : HeldAcross l held (.lock guard :: rest) := by
  cases held <;> exact h

lemma HeldAcross.held {l : L} {held : List (Guard L)} {todo : List (Op L)}
    (h : HeldAcross l held todo) : ∃ guard ∈ held, guard.lock = l := by
  induction todo generalizing held with
  | nil => cases held <;> exact h.elim
  | cons op todo ih =>
    cases op with
    | lock guard => simpa [HeldAcross] using h
    | unlock =>
      cases held with
      | nil => exact h.elim
      | cons top held =>
        obtain ⟨guard, hguard, hl⟩ := ih h
        exact ⟨guard, List.mem_cons_of_mem top hguard, hl⟩

/-- No writer of `l` waits while a guard of `l` is held across an acquisition. -/
def Apart (l : L) (s : System ι L) : Prop :=
  ∀ t u, (s t).wants = some ⟨.write, l⟩ → ¬ HeldAcross l (s u).held (s u).todo

/-- The step keeps writers of `l` apart from guards of `l` held across an acquisition. -/
def KeepsApart (l : L) (s : System ι L) : Action ι → Prop
  | .call t => ∀ rest, (s t).todo = .lock ⟨.write, l⟩ :: rest →
      ∀ u, ¬ HeldAcross l (s u).held (s u).todo
  | .take t => ∀ mode rest, (s t).todo = .lock ⟨mode, l⟩ :: rest →
      HeldAcross l (⟨mode, l⟩ :: (s t).held) rest →
      ∀ u, u ≠ t → (s u).wants ≠ some ⟨.write, l⟩
  | .drop _ => True

section Discipline
variable [DecidableEq ι]

lemma Disciplined.step {rule : List (Guard L) → Guard L → Prop} {s s' : System ι L}
    {a : Action ι} (h : Disciplined rule s) (step : Step s a s') : Disciplined rule s' := by
  intro u
  cases step with
  | @call t guard rest ready next =>
    by_cases hu : u = t
    · subst hu
      simpa using h u
    · simpa [hu] using h u
  | @take t guard rest called next free =>
    by_cases hu : u = t
    · subst hu
      have follows := h u
      rw [next] at follows
      simpa using follows.2
    · simpa [hu] using h u
  | @drop t guard held rest ready next top =>
    by_cases hu : u = t
    · subst hu
      have follows := h u
      rw [next, top] at follows
      simpa [Follows] using follows
    · simpa [hu] using h u

lemma Apart.step {l : L} {s s' : System ι L} {a : Action ι} (h : Apart l s)
    (ok : KeepsApart l s a) (step : Step s a s') : Apart l s' := by
  intro t' u hwants hacross
  cases step with
  | @call t guard rest ready next =>
    have across : HeldAcross l (s u).held (s u).todo := by
      by_cases hu : u = t
      · subst hu
        simpa using hacross
      · simpa [hu] using hacross
    by_cases ht : t' = t
    · subst ht
      obtain ⟨-, rest', hrest⟩ := Thread.wants_eq_some.mp hwants
      exact ok rest' (by simpa using hrest) u across
    · exact h t' u (by simpa [ht] using hwants) across
  | @take t guard rest called next free =>
    have ht : t' ≠ t := by
      rintro rfl
      simp [Thread.wants] at hwants
    have waits : (s t').wants = some ⟨.write, l⟩ := by simpa [ht] using hwants
    by_cases hu : u = t
    · subst hu
      have across : HeldAcross l (guard :: (s u).held) rest := by simpa using hacross
      obtain ⟨held, hheld, hl⟩ := across.held
      rcases List.mem_cons.mp hheld with rfl | hheld
      · subst hl
        exact ok held.mode rest next across t' ht waits
      · refine h t' u waits ?_
        rw [next]
        exact HeldAcross.of_lock ⟨held, hheld, hl⟩
    · exact h t' u waits (by simpa [hu] using hacross)
  | @drop t guard held rest ready next top =>
    have ht : t' ≠ t := by
      rintro rfl
      simp [Thread.wants] at hwants
    refine h t' u (by simpa [ht] using hwants) ?_
    by_cases hu : u = t
    · subst hu
      rw [next, top]
      simpa [HeldAcross] using hacross
    · simpa [hu] using hacross

end Discipline

lemma HeldAcross.of_follows {l : L} {held : List (Guard L)} {todo : List (Op L)}
    (follows : Follows (fun held _ => ∀ g ∈ held, g.lock ≠ l) held todo) :
    ¬ HeldAcross l held todo := by
  intro h
  induction todo generalizing held with
  | nil => cases held <;> exact h
  | cons op todo ih =>
    cases held with
    | nil =>
      obtain ⟨guard, hguard, -⟩ := h.held
      cases hguard
    | cons top held =>
      cases op with
      | unlock => exact ih follows h
      | lock guard =>
        obtain ⟨held', hheld', hl⟩ := h
        exact follows.1 held' hheld' hl

lemma apart_of_releases {l : L} {s : System ι L}
    (h : Disciplined (fun held _ => ∀ g ∈ held, g.lock ≠ l) s) : Apart l s :=
  fun _ u _ => HeldAcross.of_follows (h u)

lemma apart_of_no_writer {l : L} {s : System ι L}
    (h : Disciplined (fun _ guard => guard ≠ ⟨.write, l⟩) s) : Apart l s := by
  intro t u hwants
  obtain ⟨-, rest, hrest⟩ := Thread.wants_eq_some.mp hwants
  have follows := h t
  rw [hrest] at follows
  exact absurd rfl follows.1

/-- Nested acquisitions rise in level, past read guards of `l`. -/
def Rises (level : L → Nat) (l : L) (held : List (Guard L)) (guard : Guard L) : Prop :=
  ∀ h ∈ held, level h.lock < level guard.lock ∨ h = ⟨.read, l⟩

/-- Readers of a lock rank below its writers, and these below the next level. -/
def Guard.rank (level : L → Nat) (guard : Guard L) : Nat :=
  2 * level guard.lock + (if guard.mode = .write then 1 else 0)

lemma Guard.rank_le {level : L → Nat} {bound : Nat} (bounded : ∀ l, level l ≤ bound)
    (guard : Guard L) : guard.rank level ≤ 2 * bound + 1 := by
  have := bounded guard.lock
  unfold Guard.rank
  split <;> omega

lemma Guard.rank_lt {level : L → Nat} {guard wanted : Guard L}
    (h : level guard.lock < level wanted.lock) : guard.rank level < wanted.rank level := by
  unfold Guard.rank
  split <;> split <;> omega

/-- What blocks a thread ranks above what the thread waits for. -/
lemma rank_rises {s : System ι L} {level : L → Nat} {l : L}
    (disciplined : Disciplined (Rises level l) s) (apart : Apart l s) {t u : ι}
    (h : WaitsFor s t u) {wanted next : Guard L} (hwanted : (s t).wants = some wanted)
    (hnext : (s u).wants = some next) : wanted.rank level < next.rank level := by
  obtain ⟨wanted', hwanted', hblocks⟩ := h
  obtain rfl : wanted' = wanted := Option.some.inj (hwanted'.symm.trans hwanted)
  obtain ⟨-, rest, hrest⟩ := Thread.wants_eq_some.mp hnext
  rcases hblocks with ⟨guard, hguard, hlock, hmode⟩ | ⟨hread, hwriter⟩
  · have follows := disciplined u
    rw [hrest] at follows
    rcases follows.1 guard hguard with hlevel | rfl
    · exact Guard.rank_lt (hlock ▸ hlevel)
    · -- `u` holds its guard across `next`, so no writer of that lock waits
      have hwrite : wanted' = ⟨.write, l⟩ := by
        cases wanted'
        simp_all
      refine absurd ?_ (apart t u (hwanted.trans (congrArg some hwrite)))
      rw [hrest]
      exact HeldAcross.of_lock ⟨_, hguard, rfl⟩
  · obtain rfl : next = ⟨.write, wanted'.lock⟩ := Option.some.inj (hnext.symm.trans hwriter)
    simp [Guard.rank, hread]

theorem not_deadlocked {s : System ι L} {level : L → Nat} {l : L} (bound : Nat)
    (bounded : ∀ l, level l ≤ bound) (disciplined : Disciplined (Rises level l) s)
    (apart : Apart l s) (D : Set ι) : ¬ Deadlocked s D := by
  refine not_deadlocked_of_rank (fun t => ((s t).wants.map (Guard.rank level)).getD 0)
    (2 * bound + 1) ?_ ?_ D
  · intro t u hwaits ⟨v, hnext⟩
    obtain ⟨wanted, hwanted, -⟩ := id hwaits
    obtain ⟨next, hnext, -⟩ := hnext
    simpa [hwanted, hnext] using rank_rises disciplined apart hwaits hwanted hnext
  · intro t
    cases (s t).wants with
    | none => exact Nat.zero_le _
    | some wanted => exact wanted.rank_le bounded

end RwLocks
