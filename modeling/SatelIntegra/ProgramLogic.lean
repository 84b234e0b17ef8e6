import Mathlib.Tactic.Common

/-!
# Weakest preconditions for programs with state and failures

A program reads and writes a state and ends in a value or in a failure. `wp` is
what must hold before it for every way out to be as wanted; `Preserves` is the
case of an invariant, where a failed program ends its task and has nothing left
to keep; `Moves` is that of a relation between the states before and after, and
`Returns` that of a property of the value. Rules follow the constructors a `do`
block unfolds to.
-/

namespace ProgramLogic

universe u
variable {σ ε α β : Type u}

abbrev Program (σ ε α : Type u) := StateT σ (Except ε) α

/-- `x` from `s` ends in a value and a state with `Q`, or fails as `E` allows. -/
def wp (x : Program σ ε α) (Q : α → σ → Prop) (E : ε → Prop) (s : σ) : Prop :=
  match x.run s with
  | .ok (a, s') => Q a s'
  | .error e => E e

/-- `x` does not fail, and ends with `Q`. -/
abbrev Ends (x : Program σ ε α) (Q : α → σ → Prop) (s : σ) : Prop :=
  wp x Q (fun _ => False) s

/-- Where `x` does not fail, it ends with `Q`. -/
abbrev IfEnds (x : Program σ ε α) (Q : α → σ → Prop) (s : σ) : Prop :=
  wp x Q (fun _ => True) s

section Rules
variable {Q R : α → σ → Prop} {E F : ε → Prop} {s : σ}

@[simp] lemma wp_pure (a : α) : wp (pure a : Program σ ε α) Q E s ↔ Q a s := Iff.rfl

@[simp] lemma wp_bind (x : Program σ ε β) (f : β → Program σ ε α) :
    wp (x >>= f) Q E s ↔ wp x (fun b s' => wp (f b) Q E s') E s := by
  unfold wp
  rw [StateT.run_bind]
  cases x.run s with
  | error e => exact Iff.rfl
  | ok out => exact Iff.rfl

@[simp] lemma wp_map (x : Program σ ε β) (f : β → α) :
    wp (f <$> x) Q E s ↔ wp x (fun b s' => Q (f b) s') E s := by
  rw [map_eq_pure_bind, wp_bind]
  rfl

@[simp] lemma wp_get {Q : σ → σ → Prop} :
    wp (get : Program σ ε σ) Q E s ↔ Q s s := Iff.rfl

@[simp] lemma wp_modify {Q : PUnit → σ → Prop} (f : σ → σ) :
    wp (modify f : Program σ ε PUnit) Q E s ↔ Q ⟨⟩ (f s) := Iff.rfl

@[simp] lemma wp_throw (e : ε) : wp (throw e : Program σ ε α) Q E s ↔ E e := Iff.rfl

@[simp] lemma wp_lift_ok (a : α) : wp (StateT.lift (.ok a) : Program σ ε α) Q E s ↔ Q a s :=
  Iff.rfl

@[simp] lemma wp_lift_error (e : ε) :
    wp (StateT.lift (.error e) : Program σ ε α) Q E s ↔ E e := Iff.rfl

@[simp] lemma wp_ite (c : Prop) [Decidable c] (x y : Program σ ε α) :
    wp (if c then x else y) Q E s ↔ (c → wp x Q E s) ∧ (¬ c → wp y Q E s) := by
  by_cases h : c <;> simp [h]

lemma wp_mono {x : Program σ ε α} (h : wp x Q E s) (hQ : ∀ a s', Q a s' → R a s')
    (hE : ∀ e, E e → F e) : wp x R F s := by
  unfold wp at h ⊢
  cases hrun : x.run s with
  | error e => rw [hrun] at h; exact hE e h
  | ok out => rw [hrun] at h; exact hQ out.1 out.2 h

/-- The rule of consequence for the value only. -/
lemma wp_imp {x : Program σ ε α} (h : wp x Q E s) (hQ : ∀ a s', Q a s' → R a s') :
    wp x R E s := wp_mono h hQ fun _ he => he

/-- A failure that cannot happen may be allowed. -/
lemma Ends.ifEnds {x : Program σ ε α} (h : Ends x Q s) : IfEnds x Q s :=
  wp_mono h (fun _ _ hq => hq) fun _ _ => trivial

/-- Of a value nothing has to be known. -/
lemma wp_trivial (x : Program σ ε α) : IfEnds x (fun _ _ => True) s := by
  unfold IfEnds wp
  cases x.run s with
  | error e => exact trivial
  | ok out => exact trivial

lemma wp_and {x : Program σ ε α} (h : wp x Q E s) (h' : wp x R F s) :
    wp x (fun a s' => Q a s' ∧ R a s') (fun e => E e ∧ F e) s := by
  unfold wp at h h' ⊢
  cases hrun : x.run s with
  | error e => rw [hrun] at h h'; exact ⟨h, h'⟩
  | ok out => rw [hrun] at h h'; exact ⟨h, h'⟩

lemma ifEnds_and {x : Program σ ε α} (h : IfEnds x Q s) (h' : IfEnds x R s) :
    IfEnds x (fun a s' => Q a s' ∧ R a s') s :=
  wp_mono (wp_and h h') (fun _ _ both => both) fun _ _ => trivial

/-- What holds wherever the program ends holds where it is known to end. -/
lemma Ends.and {x : Program σ ε α} (h : Ends x Q s) (h' : IfEnds x R s) :
    Ends x (fun a s' => Q a s' ∧ R a s') s :=
  wp_mono (wp_and h h') (fun _ _ both => both) fun _ fails => fails.1

lemma ends_iff {x : Program σ ε α} :
    Ends x Q s ↔ ∃ a s', x.run s = .ok (a, s') ∧ Q a s' := by
  unfold Ends wp
  cases hrun : x.run s with
  | error e => simp
  | ok out => simp [Prod.ext_iff]

lemma ifEnds_iff {x : Program σ ε α} :
    IfEnds x Q s ↔ ∀ a s', x.run s = .ok (a, s') → Q a s' := by
  unfold IfEnds wp
  cases hrun : x.run s with
  | error e => simp
  | ok out => simp [Prod.ext_iff]

lemma wp_of_ok {x : Program σ ε α} {a : α} {s' : σ} (hrun : x.run s = .ok (a, s')) :
    wp x Q E s ↔ Q a s' := by
  unfold wp
  rw [hrun]

lemma wp_of_error {x : Program σ ε α} {e : ε} (hrun : x.run s = .error e) :
    wp x Q E s ↔ E e := by
  unfold wp
  rw [hrun]

/-- Running the program decides how it ends. -/
instance decidableWp (x : Program σ ε α) [∀ a s', Decidable (Q a s')] [∀ e, Decidable (E e)] :
    Decidable (wp x Q E s) :=
  match hrun : x.run s with
  | .ok out => decidable_of_iff (Q out.1 out.2) (wp_of_ok hrun).symm
  | .error e => decidable_of_iff (E e) (wp_of_error hrun).symm

end Rules

/-- Every value of `x` leaves `I` as it was. -/
def Preserves (I : σ → Prop) (x : Program σ ε α) : Prop :=
  ∀ s, I s → IfEnds x (fun _ s' => I s') s

section Invariants
variable {I : σ → Prop}

lemma preserves_pure (a : α) : Preserves I (pure a : Program σ ε α) := fun _ h => h

lemma preserves_get : Preserves I (get : Program σ ε σ) := fun _ h => h

lemma preserves_modify {f : σ → σ} (hf : ∀ s, I s → I (f s)) :
    Preserves I (modify f : Program σ ε PUnit) := fun s h => hf s h

lemma preserves_lift (x : Except ε α) : Preserves I (StateT.lift x : Program σ ε α) := by
  intro s h
  cases x with
  | error e => exact trivial
  | ok a => exact h

lemma Preserves.bind {x : Program σ ε β} {f : β → Program σ ε α} (hx : Preserves I x)
    (hf : ∀ b, Preserves I (f b)) : Preserves I (x >>= f) := by
  intro s h
  rw [IfEnds, wp_bind]
  exact wp_imp (hx s h) fun b s' h' => hf b s' h'

lemma Preserves.ite {c : Prop} [Decidable c] {x y : Program σ ε α} (hx : Preserves I x)
    (hy : Preserves I y) : Preserves I (if c then x else y) := by
  by_cases h : c
  · simpa [h] using hx
  · simpa [h] using hy

end Invariants

/-- Every value of `x` is reached along `R`. -/
def Moves (R : σ → σ → Prop) (x : Program σ ε α) : Prop :=
  ∀ s, IfEnds x (fun _ s' => R s s') s

section Relations
variable {R : σ → σ → Prop}

lemma Moves.bind (trans : ∀ s s' s'', R s s' → R s' s'' → R s s'') {x : Program σ ε β}
    {f : β → Program σ ε α} (hx : Moves R x) (hf : ∀ b, Moves R (f b)) : Moves R (x >>= f) := by
  intro s
  rw [IfEnds, wp_bind]
  refine wp_imp (hx s) fun b s' h => ?_
  exact wp_imp (hf b s') fun _ s'' h' => trans s s' s'' h h'

lemma Moves.ite {c : Prop} [Decidable c] {x y : Program σ ε α} (hx : Moves R x)
    (hy : Moves R y) : Moves R (if c then x else y) := by
  by_cases h : c
  · simpa [h] using hx
  · simpa [h] using hy

end Relations

/-- Every value of `x` is as `p` says. -/
def Returns (p : α → Prop) (x : Program σ ε α) : Prop :=
  ∀ s, IfEnds x (fun a _ => p a) s

section Values
variable {p : α → Prop}

lemma returns_pure {a : α} (h : p a) : Returns p (pure a : Program σ ε α) := fun _ => h

/-- The value is that of the last piece. -/
lemma Returns.last {x : Program σ ε β} {f : β → Program σ ε α} (hf : ∀ b, Returns p (f b)) :
    Returns p (x >>= f) := by
  intro s
  rw [IfEnds, wp_bind]
  exact wp_imp (wp_trivial x) fun b s' _ => hf b s'

lemma Returns.ite {c : Prop} [Decidable c] {x y : Program σ ε α} (hx : Returns p x)
    (hy : Returns p y) : Returns p (if c then x else y) := by
  by_cases h : c
  · simpa [h] using hx
  · simpa [h] using hy

end Values
end ProgramLogic
