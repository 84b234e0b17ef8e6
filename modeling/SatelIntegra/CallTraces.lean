import SatelIntegra.AtomicCalls

/-!
# What a call performs, whatever the answers

`run` performs a call on data that nobody else touches. A call among others gets
answers it cannot foresee: its runs are all lists of operations and answers that
agree with the call, so a property of every run holds of every order of turns.
-/

namespace AtomicCalls

universe u v w

structure Performed (Op : Type u) (Res : Op → Type u) where
  op : Op
  answer : Res op

namespace CallTree
variable {Op : Type u} {Res : Op → Type u} {ε α β : Type u}

/-- With these answers, whoever gave them, the call performs these operations and ends in `r`. -/
inductive Runs : CallTree Op Res ε α → List (Performed Op Res) → Except ε α → Prop where
  | done (a : α) : Runs (.done a) [] (.ok a)
  | failed (e : ε) : Runs (.failed e) [] (.error e)
  | step (op : Op) (answer : Res op) {next : Res op → CallTree Op Res ε α}
      {trace : List (Performed Op Res)} {r : Except ε α} (later : Runs (next answer) trace r) :
      Runs (.step op next) (⟨op, answer⟩ :: trace) r

variable {c : CallTree Op Res ε α} {f : α → CallTree Op Res ε β}
  {trace : List (Performed Op Res)}

@[simp] lemma runs_pure {a : α} {r : Except ε α} :
    Runs (pure a : CallTree Op Res ε α) trace r ↔ trace = [] ∧ r = .ok a := by
  constructor
  · intro run
    cases run
    exact ⟨rfl, rfl⟩
  · rintro ⟨rfl, rfl⟩
    exact .done a

@[simp] lemma runs_throw {e : ε} {r : Except ε α} :
    Runs (throw e : CallTree Op Res ε α) trace r ↔ trace = [] ∧ r = .error e := by
  constructor
  · intro run
    cases run
    exact ⟨rfl, rfl⟩
  · rintro ⟨rfl, rfl⟩
    exact .failed e

lemma runs_step {op : Op} {next : Res op → CallTree Op Res ε α} {r : Except ε α} :
    Runs (.step op next) trace r ↔
      ∃ answer later, trace = ⟨op, answer⟩ :: later ∧ Runs (next answer) later r := by
  constructor
  · intro run
    cases run with
    | step op answer later => exact ⟨answer, _, rfl, later⟩
  · rintro ⟨answer, later, rfl, run⟩
    exact .step op answer run

lemma runs_perform_bind {op : Op} {next : Res op → CallTree Op Res ε α} {r : Except ε α} :
    Runs (perform op >>= next) trace r ↔
      ∃ answer later, trace = ⟨op, answer⟩ :: later ∧ Runs (next answer) later r :=
  runs_step

@[simp] lemma runs_pure_bind {a : α} {r : Except ε β} :
    Runs ((pure a : CallTree Op Res ε α) >>= f) trace r ↔ Runs (f a) trace r := Iff.rfl

@[simp] lemma runs_throw_bind {e : ε} {r : Except ε β} :
    Runs ((throw e : CallTree Op Res ε α) >>= f) trace r ↔ trace = [] ∧ r = .error e :=
  runs_throw

/-- The runs of both parts one after the other, or of a first part that fails. -/
lemma runs_bind {r : Except ε β} :
    Runs (c >>= f) trace r ↔
      (∃ e, r = .error e ∧ Runs c trace (.error e)) ∨
      ∃ before a after, trace = before ++ after ∧ Runs c before (.ok a) ∧ Runs (f a) after r := by
  induction c generalizing trace with
  | done a =>
    constructor
    · intro run
      exact .inr ⟨[], a, trace, rfl, .done a, run⟩
    · rintro (⟨e, -, run⟩ | ⟨before, a', after, rfl, run, run'⟩)
      · cases run
      · cases run
        exact run'
  | failed e =>
    constructor
    · intro run
      obtain ⟨rfl, rfl⟩ := runs_throw.mp run
      exact .inl ⟨e, rfl, .failed e⟩
    · rintro (⟨e', rfl, run⟩ | ⟨before, a', after, rfl, run, -⟩)
      · cases run
        exact .failed e
      · cases run
  | step op next ih =>
    constructor
    · intro run
      obtain ⟨answer, later, rfl, rest⟩ := runs_step.mp run
      rcases (ih answer).mp rest with ⟨e, rfl, first⟩ | ⟨before, a, after, rfl, first, last⟩
      · exact .inl ⟨e, rfl, .step op answer first⟩
      · exact .inr ⟨⟨op, answer⟩ :: before, a, after, rfl, .step op answer first, last⟩
    · rintro (⟨e, rfl, run⟩ | ⟨before, a, after, rfl, run, last⟩)
      · obtain ⟨answer, later, rfl, first⟩ := runs_step.mp run
        exact .step op answer ((ih answer).mpr (.inl ⟨e, rfl, first⟩))
      · obtain ⟨answer, later, rfl, first⟩ := runs_step.mp run
        exact .step op answer ((ih answer).mpr (.inr ⟨later, a, after, rfl, first, last⟩))

lemma bind_bind {γ : Type u} (g : β → CallTree Op Res ε γ) :
    (c >>= f) >>= g = c >>= fun a => f a >>= g := by
  induction c with
  | done a => rfl
  | failed e => rfl
  | step op next ih => exact congrArg (CallTree.step op) (funext ih)

/-- A call of operations of one kind performs no others. -/
lemma Runs.only {P : Op → Prop} {r : Except ε α} (run : Runs c trace r) (h : Only P c) :
    ∀ p ∈ trace, P p.op := by
  induction run with
  | done a => simp
  | failed e => simp
  | step op answer later ih =>
    intro p hp
    rcases List.mem_cons.mp hp with rfl | hp
    · exact h.1
    · exact ih (h.2 answer) p hp

/-- Whatever the answers, the call ends with `Q`. -/
def Yields (Q : Except ε α → Prop) : CallTree Op Res ε α → Prop
  | done a => Q (.ok a)
  | failed e => Q (.error e)
  | step _ next => ∀ answer, Yields Q (next answer)

section Yields
variable {Q : Except ε α → Prop} {Q' : Except ε β → Prop}

@[simp] lemma yields_pure (a : α) : Yields Q (pure a : CallTree Op Res ε α) ↔ Q (.ok a) := Iff.rfl

@[simp] lemma yields_throw (e : ε) : Yields Q (throw e : CallTree Op Res ε α) ↔ Q (.error e) :=
  Iff.rfl

@[simp] lemma yields_perform_bind (op : Op) (next : Res op → CallTree Op Res ε α) :
    Yields Q (perform op >>= next) ↔ ∀ answer, Yields Q (next answer) := Iff.rfl

@[simp] lemma yields_pure_bind (a : α) :
    Yields Q' ((pure a : CallTree Op Res ε α) >>= f) ↔ Yields Q' (f a) := Iff.rfl

@[simp] lemma yields_throw_bind (e : ε) :
    Yields Q' ((throw e : CallTree Op Res ε α) >>= f) ↔ Q' (.error e) := Iff.rfl

@[simp] lemma yields_ite (b : Prop) [Decidable b] (x y : CallTree Op Res ε α) :
    Yields Q (if b then x else y) ↔ (b → Yields Q x) ∧ (¬ b → Yields Q y) := by
  split <;> simp_all

lemma Yields.bind (h : Yields Q c) (fails : ∀ e, Q (.error e) → Q' (.error e))
    (rest : ∀ a, Q (.ok a) → Yields Q' (f a)) : Yields Q' (c >>= f) := by
  induction c with
  | done a => exact rest a h
  | failed e => exact fails e h
  | step op next ih => exact fun answer => ih answer (h answer)

end Yields

section Loop
variable {ι τ : Type u}

/-- A loop over `xs` that carries a value. -/
def forEach (body : ι → τ → CallTree Op Res ε τ) : List ι → τ → CallTree Op Res ε τ
  | [], t => pure t
  | x :: xs, t => body x t >>= forEach body xs

/-- Where every run of the body is a `round`, a run of the loop is one round for each item. -/
lemma runs_forEach {ρ : Type w} {body : ι → τ → CallTree Op Res ε τ} {item : ρ → ι}
    {did : ρ → Prop} {performs : ρ → List (Performed Op Res)} {count : τ → ρ → τ}
    (round : ∀ x t trace r, Runs (body x t) trace r →
      ∃ p, item p = x ∧ did p ∧ trace = performs p ∧ r = .ok (count t p))
    {xs : List ι} {t : τ} {r : Except ε τ} (run : Runs (forEach body xs t) trace r) :
    ∃ rounds : List ρ, rounds.map item = xs ∧ (∀ p ∈ rounds, did p) ∧ trace = rounds.flatMap performs ∧
      r = .ok (rounds.foldl count t) := by
  induction xs generalizing t trace with
  | nil =>
    obtain ⟨rfl, rfl⟩ := runs_pure.mp run
    exact ⟨[], rfl, by simp, rfl, rfl⟩
  | cons x xs ih =>
    rcases runs_bind.mp run with ⟨e, rfl, first⟩ | ⟨before, t', after, rfl, first, rest⟩
    · obtain ⟨p, -, -, -, hr⟩ := round x t _ _ first
      cases hr
    · obtain ⟨p, rfl, hp, rfl, hr⟩ := round x t _ _ first
      cases hr
      obtain ⟨rounds, rfl, each, rfl, rfl⟩ := ih rest
      refine ⟨p :: rounds, rfl, ?_, rfl, rfl⟩
      intro q hq
      rcases List.mem_cons.mp hq with rfl | hq
      · exact hp
      · exact each q hq

end Loop

section Alone
variable {σ : Type v} (exec : Exec Op Res σ)

/-- What a call alone performs. -/
def traceOf : CallTree Op Res ε α → σ → List (Performed Op Res)
  | done _, _ => []
  | failed _, _ => []
  | step op next, s => ⟨op, (exec op s).1⟩ :: traceOf (next (exec op s).1) (exec op s).2

lemma traceOf_bind_ok {exec : Exec Op Res σ} {c : CallTree Op Res ε α} {f : α → CallTree Op Res ε β}
    {s s' : σ} {a : α} (h : run exec c s = (.ok a, s')) :
    traceOf exec (c >>= f) s = traceOf exec c s ++ traceOf exec (f a) s' := by
  induction c generalizing s with
  | done b =>
    cases h
    rfl
  | failed e => cases h
  | step op next ih => exact congrArg (List.cons _) (ih _ h)

lemma run_runs (c : CallTree Op Res ε α) (s : σ) : Runs c (traceOf exec c s) (run exec c s).1 := by
  induction c generalizing s with
  | done a => exact .done a
  | failed e => exact .failed e
  | step op next ih => exact .step op _ (ih _ _)

/-- What operations of one kind keep, a call of such operations keeps. -/
lemma run_only {exec} {I : σ → Prop} {P : Op → Prop}
    (keep : ∀ op s, P op → I s → I (exec op s).2)
    {c : CallTree Op Res ε α} (only : Only P c) {s : σ} (h : I s) : I (run exec c s).2 := by
  induction c generalizing s with
  | done a => exact h
  | failed e => exact h
  | step op next ih => exact ih _ (only.2 _) (keep op s only.1 h)

/-- Two runs agree where the operations of the call cannot tell their states apart. -/
lemma run_related {exec} {R : σ → σ → Prop} {P : Op → Prop}
    (sim : ∀ op s s', P op → R s s' →
      (exec op s).1 = (exec op s').1 ∧ R (exec op s).2 (exec op s').2)
    {c : CallTree Op Res ε α} (only : Only P c) {s s' : σ} (h : R s s') :
    (run exec c s).1 = (run exec c s').1 ∧ R (run exec c s).2 (run exec c s').2 := by
  induction c generalizing s s' with
  | done a => exact ⟨rfl, h⟩
  | failed e => exact ⟨rfl, h⟩
  | step op next ih =>
    obtain ⟨same, related⟩ := sim op s s' only.1 h
    rw [run, run, ← same]
    exact ih _ (only.2 _) related

end Alone
end CallTree
end AtomicCalls
