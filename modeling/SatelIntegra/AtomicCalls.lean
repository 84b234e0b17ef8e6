import Mathlib.Logic.Function.Basic
import Mathlib.Logic.Relation
import Mathlib.Tactic.Common

/-!
# Calls made of atomic operations

A call is a tree of operations on shared data, each chosen by the answers to the
ones before it. `run` performs a call alone. In a `Pool` the calls of several tasks
take turns, one operation at a time; `Safe` is what a call must satisfy there,
whatever the other tasks do between two of its operations.
-/

namespace AtomicCalls

universe u v w

inductive CallTree (Op : Type u) (Res : Op → Type u) (ε α : Type u) : Type u where
  | done (a : α)
  | failed (e : ε)
  | step (op : Op) (next : Res op → CallTree Op Res ε α)

/-- What an operation answers, and what it makes of the shared data. -/
abbrev Exec (Op : Type u) (Res : Op → Type u) (σ : Type v) :=
  (op : Op) → σ → Res op × σ

namespace CallTree
variable {Op : Type u} {Res : Op → Type u} {ε α β : Type u} {σ : Type v}

def bind : CallTree Op Res ε α → (α → CallTree Op Res ε β) → CallTree Op Res ε β
  | done a, f => f a
  | failed e, _ => failed e
  | step op next, f => step op fun answer => bind (next answer) f

def handle : CallTree Op Res ε α → (ε → CallTree Op Res ε α) → CallTree Op Res ε α
  | done a, _ => done a
  | failed e, f => f e
  | step op next, f => step op fun answer => handle (next answer) f

instance : Monad (CallTree Op Res ε) where
  pure := done
  bind := bind

instance : MonadExcept ε (CallTree Op Res ε) where
  throw := failed
  tryCatch := handle

def perform (op : Op) : CallTree Op Res ε (Res op) := step op done

def run (exec : Exec Op Res σ) : CallTree Op Res ε α → σ → Except ε α × σ
  | done a, s => (.ok a, s)
  | failed e, s => (.error e, s)
  | step op next, s => run exec (next (exec op s).1) (exec op s).2

section Run
variable {exec : Exec Op Res σ} {s : σ}

@[simp] lemma run_pure (a : α) : run exec (pure a : CallTree Op Res ε α) s = (.ok a, s) := rfl

@[simp] lemma run_throw (e : ε) : run exec (throw e : CallTree Op Res ε α) s = (.error e, s) := rfl

@[simp] lemma run_perform (op : Op) :
    run exec (perform op : CallTree Op Res ε (Res op)) s = (.ok (exec op s).1, (exec op s).2) := rfl

/-- A call goes on with the value of its first part, or fails with it. -/
lemma run_bind (c : CallTree Op Res ε α) (f : α → CallTree Op Res ε β) :
    run exec (c >>= f) s =
      match run exec c s with
      | (.ok a, s') => run exec (f a) s'
      | (.error e, s') => (.error e, s') := by
  induction c generalizing s with
  | done a => rfl
  | failed e => rfl
  | step op next ih => exact ih (exec op s).1

lemma run_bind_ok {c : CallTree Op Res ε α} {f : α → CallTree Op Res ε β} {a : α} {s' : σ}
    (h : run exec c s = (.ok a, s')) : run exec (c >>= f) s = run exec (f a) s' := by
  rw [run_bind, h]

lemma run_bind_error {c : CallTree Op Res ε α} {f : α → CallTree Op Res ε β} {e : ε} {s' : σ}
    (h : run exec c s = (.error e, s')) : run exec (c >>= f) s = (.error e, s') := by
  rw [run_bind, h]

@[simp] lemma run_perform_bind (op : Op) (f : Res op → CallTree Op Res ε α) :
    run exec (perform op >>= f) s = run exec (f (exec op s).1) (exec op s).2 := rfl

@[simp] lemma run_pure_bind (a : β) (f : β → CallTree Op Res ε α) :
    run exec ((pure a : CallTree Op Res ε β) >>= f) s = run exec (f a) s := rfl

@[simp] lemma run_throw_bind (e : ε) (f : β → CallTree Op Res ε α) :
    run exec ((throw e : CallTree Op Res ε β) >>= f) s = (.error e, s) := rfl

@[simp] lemma run_ite (c : Prop) [Decidable c] (x y : CallTree Op Res ε α) :
    run exec (if c then x else y) s = if c then run exec x s else run exec y s := by
  split <;> rfl

end Run

/-- What a property of states needs to survive a call: that every operation keeps it. -/
lemma run_invariant {exec : Exec Op Res σ} {I : σ → Prop}
    (keep : ∀ op s, I s → I (exec op s).2) (c : CallTree Op Res ε α) {s : σ} (h : I s) :
    I (run exec c s).2 := by
  induction c generalizing s with
  | done a => exact h
  | failed e => exact h
  | step op next ih => exact ih _ (keep op s h)

/-- Whatever the answers, the call performs only operations of this kind. -/
def Only (P : Op → Prop) : CallTree Op Res ε α → Prop
  | done _ => True
  | failed _ => True
  | step op next => P op ∧ ∀ answer, Only P (next answer)

section Only
variable {P : Op → Prop}

@[simp] lemma only_pure (a : α) : Only P (pure a : CallTree Op Res ε α) := trivial

@[simp] lemma only_throw (e : ε) : Only P (throw e : CallTree Op Res ε α) := trivial

@[simp] lemma only_perform (op : Op) :
    Only P (perform op : CallTree Op Res ε (Res op)) ↔ P op :=
  ⟨And.left, fun h => ⟨h, fun _ => trivial⟩⟩

@[simp] lemma only_perform_bind (op : Op) (f : Res op → CallTree Op Res ε α) :
    Only P (perform op >>= f) ↔ P op ∧ ∀ answer, Only P (f answer) := Iff.rfl

@[simp] lemma only_pure_bind (a : β) (f : β → CallTree Op Res ε α) :
    Only P ((pure a : CallTree Op Res ε β) >>= f) ↔ Only P (f a) := Iff.rfl

@[simp] lemma only_throw_bind (e : ε) (f : β → CallTree Op Res ε α) :
    Only P ((throw e : CallTree Op Res ε β) >>= f) := trivial

lemma Only.bind {c : CallTree Op Res ε α} {f : α → CallTree Op Res ε β} (h : Only P c)
    (rest : ∀ a, Only P (f a)) : Only P (c >>= f) := by
  induction c with
  | done a => exact rest a
  | failed e => exact trivial
  | step op next ih => exact ⟨h.1, fun answer => ih answer (h.2 answer)⟩

@[simp] lemma only_ite (c : Prop) [Decidable c] (x y : CallTree Op Res ε α) :
    Only P (if c then x else y) ↔ (c → Only P x) ∧ (¬ c → Only P y) := by
  split <;> simp_all

end Only

/-- The state after a call has been made so many times. -/
def times (exec : Exec Op Res σ) (c : CallTree Op Res ε α) : Nat → σ → σ
  | 0, s => s
  | k + 1, s => (run exec c (times exec c k s)).2

lemma times_succ (exec : Exec Op Res σ) (c : CallTree Op Res ε α) (k : Nat) (s : σ) :
    times exec c (k + 1) s = times exec c k (run exec c s).2 := by
  induction k with
  | zero => rfl
  | succ k ih => exact congrArg (fun s => (run exec c s).2) ih

end CallTree

open CallTree

/-- An operation a task has performed, and the answer it got. -/
structure Event (ι : Type w) (Op : Type u) (Res : Op → Type u) where
  task : ι
  op : Op
  answer : Res op

/-- The shared data, and what has happened to it, the latest first. -/
structure Moment (ι : Type w) (Op : Type u) (Res : Op → Type u) (σ : Type v) where
  shared : σ
  trace : List (Event ι Op Res)

section Pool
variable {ι : Type w} {Op : Type u} {Res : Op → Type u} {ε α β : Type u} {σ : Type v}

def Moment.perform (exec : Exec Op Res σ) (i : ι) (op : Op) (m : Moment ι Op Res σ) :
    Moment ι Op Res σ where
  shared := (exec op m.shared).2
  trace := ⟨i, op, (exec op m.shared).1⟩ :: m.trace

structure Pool (ι : Type w) (Op : Type u) (Res : Op → Type u) (ε α : Type u) (σ : Type v) where
  moment : Moment ι Op Res σ
  tasks : ι → Option (CallTree Op Res ε α)

def Pool.idle (s : σ) : Pool ι Op Res ε α σ := ⟨⟨s, []⟩, fun _ => none⟩

/-- Task `i` has the rest `c` of its call to perform. -/
def Pool.put [DecidableEq ι] (p : Pool ι Op Res ε α σ) (i : ι) (c : CallTree Op Res ε α)
    (m : Moment ι Op Res σ) : Pool ι Op Res ε α σ :=
  ⟨m, Function.update p.tasks i (some c)⟩

lemma Pool.tasks_put [DecidableEq ι] {p : Pool ι Op Res ε α σ} {i j : ι}
    {c c' : CallTree Op Res ε α} {m : Moment ι Op Res σ} (h : (p.put i c m).tasks j = some c') :
    j = i ∧ c = c' ∨ j ≠ i ∧ p.tasks j = some c' := by
  rcases eq_or_ne j i with rfl | ne
  · exact .inl ⟨rfl, by simpa [put] using h⟩
  · exact .inr ⟨ne, by simpa [put, Function.update_of_ne ne] using h⟩

/-- A task that has no operation left starts a call, or performs the next operation of its own. -/
inductive Pool.Step [DecidableEq ι] (exec : Exec Op Res σ) (starts : CallTree Op Res ε α → Prop)
    (allowed : Moment ι Op Res σ → ι → Op → Prop) :
    Pool ι Op Res ε α σ → Pool ι Op Res ε α σ → Prop where
  | start {p} (i : ι) (c : CallTree Op Res ε α) (begins : starts c)
      (free : ∀ op next, p.tasks i ≠ some (.step op next)) :
      Step exec starts allowed p (p.put i c p.moment)
  | perform {p} (i : ι) (op : Op) (next : Res op → CallTree Op Res ε α)
      (runs : p.tasks i = some (.step op next)) (permitted : allowed p.moment i op) :
      Step exec starts allowed p
        (p.put i (next (exec op p.moment.shared).1) (p.moment.perform exec i op))

def Pool.Reachable [DecidableEq ι] (exec : Exec Op Res σ) (starts : CallTree Op Res ε α → Prop)
    (allowed : Moment ι Op Res σ → ι → Op → Prop) (s : σ) (p : Pool ι Op Res ε α σ) : Prop :=
  Relation.ReflTransGen (Pool.Step exec starts allowed) (Pool.idle s) p

/-- Task `i` performs its next operation, if it has one. -/
def Pool.turn [DecidableEq ι] (exec : Exec Op Res σ) (i : ι) (p : Pool ι Op Res ε α σ) :
    Pool ι Op Res ε α σ :=
  match p.tasks i with
  | some (.step op next) =>
    p.put i (next (exec op p.moment.shared).1) (p.moment.perform exec i op)
  | _ => p

section Runs
variable [DecidableEq ι] {exec : Exec Op Res σ} {starts : CallTree Op Res ε α → Prop}
  {allowed : Moment ι Op Res σ → ι → Op → Prop} {s : σ} {p : Pool ι Op Res ε α σ}

lemma Pool.Reachable.start (h : p.Reachable exec starts allowed s) (i : ι) (c : CallTree Op Res ε α)
    (begins : starts c) (free : p.tasks i = none) :
    (p.put i c p.moment).Reachable exec starts allowed s := by
  refine h.tail (.start i c begins ?_)
  intro op next runs
  cases free.symm.trans runs

lemma Pool.Reachable.turn (h : p.Reachable exec starts allowed s) (i : ι)
    (permitted : ∀ op next, p.tasks i = some (.step op next) → allowed p.moment i op) :
    (p.turn exec i).Reachable exec starts allowed s := by
  unfold Pool.turn
  split
  · rename_i op next runs
    exact h.tail (.perform i op next runs (permitted op next runs))
  · exact h

/-- Tasks take turns in this order. -/
def Pool.turns (exec : Exec Op Res σ) : List ι → Pool ι Op Res ε α σ → Pool ι Op Res ε α σ
  | [], p => p
  | i :: later, p => turns exec later (p.turn exec i)

/-- Task `i` may perform its next operation, if it has one. -/
def Pool.MayTurn (allowed : Moment ι Op Res σ → ι → Op → Prop) (p : Pool ι Op Res ε α σ) (i : ι) :
    Prop :=
  match p.tasks i with
  | some (.step op _) => allowed p.moment i op
  | _ => True

def Pool.MayTakeTurns (exec : Exec Op Res σ) (allowed : Moment ι Op Res σ → ι → Op → Prop) :
    List ι → Pool ι Op Res ε α σ → Prop
  | [], _ => True
  | i :: later, p => p.MayTurn allowed i ∧ MayTakeTurns exec allowed later (p.turn exec i)

section Deciding
variable [∀ m i op, Decidable (allowed m i op)]

instance (p : Pool ι Op Res ε α σ) (i : ι) : Decidable (p.MayTurn allowed i) := by
  unfold Pool.MayTurn
  split <;> infer_instance

instance decidableMayTakeTurns : (schedule : List ι) → (p : Pool ι Op Res ε α σ) →
    Decidable (Pool.MayTakeTurns exec allowed schedule p)
  | [], _ => isTrue trivial
  | i :: later, p =>
    have := decidableMayTakeTurns later (p.turn exec i)
    inferInstanceAs (Decidable (_ ∧ _))

end Deciding

/-- The schedule of a run is a list, so that its conditions can be decided. -/
lemma Pool.Reachable.turns (h : p.Reachable exec starts allowed s) (schedule : List ι)
    (may : Pool.MayTakeTurns exec allowed schedule p) :
    (Pool.turns exec schedule p).Reachable exec starts allowed s := by
  induction schedule generalizing p with
  | nil => exact h
  | cons i later ih =>
    refine ih (h.turn i ?_) may.2
    intro op next runs
    have allowed := may.1
    rw [Pool.MayTurn, runs] at allowed
    exact allowed

end Runs

/-- What the operations of a pool keep, and what each of them promises to the other tasks. -/
structure Contract (ι : Type w) (Op : Type u) (Res : Op → Type u) (σ : Type v) where
  exec : Exec Op Res σ
  allowed : Moment ι Op Res σ → ι → Op → Prop
  Inv : Moment ι Op Res σ → Prop
  promise : Moment ι Op Res σ → ι → Op → Prop

namespace Contract
variable (C : Contract ι Op Res σ) {i : ι}

/-- Other tasks perform one operation. -/
def Other (i : ι) (m m' : Moment ι Op Res σ) : Prop :=
  ∃ j op, j ≠ i ∧ C.Inv m ∧ C.promise m j op ∧ m' = m.perform C.exec j op

abbrev Others (i : ι) : Moment ι Op Res σ → Moment ι Op Res σ → Prop :=
  Relation.ReflTransGen (C.Other i)

/-- Whatever the other tasks do as promised, each operation of the call keeps the invariant and
its own promise, and the call ends with `Q`. -/
def Safe (i : ι) (Q : Except ε α → Moment ι Op Res σ → Prop) :
    CallTree Op Res ε α → Moment ι Op Res σ → Prop
  | .done a, m => Q (.ok a) m
  | .failed e, m => Q (.error e) m
  | .step op next, m => ∀ m', C.Others i m m' → C.Inv m' → C.allowed m' i op →
      C.promise m' i op ∧ C.Inv (m'.perform C.exec i op) ∧
        Safe i Q (next (C.exec op m'.shared).1) (m'.perform C.exec i op)

/-- An assertion the operations of other tasks leave true. -/
def Stable (i : ι) (P : Moment ι Op Res σ → Prop) : Prop :=
  ∀ m j op, j ≠ i → C.Inv m → C.promise m j op → P m → P (m.perform C.exec j op)

variable {C}

lemma Stable.others {P : Moment ι Op Res σ → Prop} (stable : C.Stable i P)
    {m m' : Moment ι Op Res σ} (h : C.Others i m m') (hP : P m) : P m' := by
  induction h with
  | refl => exact hP
  | tail _ other ih =>
    obtain ⟨j, op, ne, inv, promised, rfl⟩ := other
    exact stable _ j op ne inv promised ih

section Rules
variable {Q R : Except ε α → Moment ι Op Res σ → Prop} {m : Moment ι Op Res σ}

@[simp] lemma safe_pure (a : α) : C.Safe i Q (pure a) m ↔ Q (.ok a) m := Iff.rfl

@[simp] lemma safe_throw (e : ε) : C.Safe i Q (throw e : CallTree Op Res ε α) m ↔ Q (.error e) m :=
  Iff.rfl

@[simp] lemma safe_pure_bind (a : β) (f : β → CallTree Op Res ε α) :
    C.Safe i Q ((pure a : CallTree Op Res ε β) >>= f) m ↔ C.Safe i Q (f a) m := Iff.rfl

lemma Safe.imp {c : CallTree Op Res ε α} (h : C.Safe i Q c m) (imp : ∀ r m', Q r m' → R r m') :
    C.Safe i R c m := by
  induction c generalizing m with
  | done a => exact imp _ _ h
  | failed e => exact imp _ _ h
  | step op next ih =>
    intro m' others inv permitted
    obtain ⟨promised, kept, later⟩ := h m' others inv permitted
    exact ⟨promised, kept, ih _ later⟩

lemma Safe.bind {c : CallTree Op Res ε β} {f : β → CallTree Op Res ε α}
    (h : C.Safe i (fun r m' =>
      match r with
      | .ok b => C.Safe i Q (f b) m'
      | .error e => Q (.error e) m') c m) : C.Safe i Q (c >>= f) m := by
  induction c generalizing m with
  | done b => exact h
  | failed e => exact h
  | step op next ih =>
    intro m' others inv permitted
    obtain ⟨promised, kept, later⟩ := h m' others inv permitted
    exact ⟨promised, kept, ih _ later⟩

lemma Safe.andThen {c : CallTree Op Res ε β} {f : β → CallTree Op Res ε α}
    (h : C.Safe i (fun _ _ => True) c m) (rest : ∀ b m', C.Safe i (fun _ _ => True) (f b) m') :
    C.Safe i (fun _ _ => True) (c >>= f) m := by
  refine Safe.bind (h.imp ?_)
  intro r m' _
  cases r with
  | ok b => exact rest b m'
  | error e => exact trivial

/-- One operation, then the rest of the call. -/
lemma safe_perform_bind {op : Op} {f : Res op → CallTree Op Res ε α} :
    C.Safe i Q (perform op >>= f) m ↔
      ∀ m', C.Others i m m' → C.Inv m' → C.allowed m' i op →
        C.promise m' i op ∧ C.Inv (m'.perform C.exec i op) ∧
          C.Safe i Q (f (C.exec op m'.shared).1) (m'.perform C.exec i op) := Iff.rfl

/-- A call of operations that each keep the invariant and the promise. -/
lemma safe_of_only {P : Op → Prop}
    (keep : ∀ m op, P op → C.Inv m → C.allowed m i op →
      C.promise m i op ∧ C.Inv (m.perform C.exec i op))
    {c : CallTree Op Res ε α} (h : c.Only P) : C.Safe i (fun _ _ => True) c m := by
  induction c generalizing m with
  | done a => exact trivial
  | failed e => exact trivial
  | step op next ih =>
    intro m' _ inv permitted
    obtain ⟨promised, kept⟩ := keep m' op h.1 inv permitted
    exact ⟨promised, kept, ih _ (h.2 _)⟩

/-- What other tasks do before the call is part of what they may do. -/
lemma Safe.others {c : CallTree Op Res ε α} (h : C.Safe i (fun _ _ => True) c m)
    {m' : Moment ι Op Res σ} (others : C.Others i m m') : C.Safe i (fun _ _ => True) c m' := by
  cases c with
  | done a => exact trivial
  | failed e => exact trivial
  | step op next =>
    intro m'' others' inv permitted
    exact h m'' (others.trans others') inv permitted

end Rules

/-- A call that may be started in any state that has the invariant. -/
def Starts (C : Contract ι Op Res σ) (c : CallTree Op Res ε α) : Prop :=
  ∀ i m, C.Inv m → C.Safe i (fun _ _ => True) c m

section Pools
variable [DecidableEq ι] {starts : CallTree Op Res ε α → Prop} {p p' : Pool ι Op Res ε α σ}

lemma safe_step (safe : ∀ c, starts c → C.Starts c)
    (h : Pool.Step C.exec starts C.allowed p p') (inv : C.Inv p.moment)
    (running : ∀ i c, p.tasks i = some c → C.Safe i (fun _ _ => True) c p.moment) :
    C.Inv p'.moment ∧
      ∀ i c, p'.tasks i = some c → C.Safe i (fun _ _ => True) c p'.moment := by
  cases h with
  | start i c begins free =>
    refine ⟨inv, ?_⟩
    intro j c' hc'
    rcases Pool.tasks_put hc' with ⟨rfl, rfl⟩ | ⟨-, runs⟩
    · exact safe c begins j p.moment inv
    · exact running j c' runs
  | perform i op next runs permitted =>
    obtain ⟨promised, kept, later⟩ := running i _ runs p.moment .refl inv permitted
    refine ⟨kept, ?_⟩
    intro j c' hc'
    rcases Pool.tasks_put hc' with ⟨rfl, rfl⟩ | ⟨ne, runs'⟩
    · exact later
    · exact (running j c' runs').others (.single ⟨i, op, ne.symm, inv, promised, rfl⟩)

/-- Where every call that is started is safe, the invariant holds in every state reached. -/
theorem invariant (safe : ∀ c, starts c → C.Starts c) {s : σ} (first : C.Inv ⟨s, []⟩)
    (h : p.Reachable C.exec starts C.allowed s) : C.Inv p.moment := by
  suffices C.Inv p.moment ∧
      ∀ i c, p.tasks i = some c → C.Safe i (fun _ _ => True) c p.moment from this.1
  induction h with
  | refl =>
    refine ⟨first, ?_⟩
    intro i c hc
    cases hc
  | tail _ step ih => exact safe_step safe step ih.1 ih.2

end Pools
end Contract
end Pool
end AtomicCalls
