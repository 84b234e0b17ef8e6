import Mathlib.Tactic.Common

/-!
# A breaker with two failure counters

Attempts that fail raise one of two counters, and a counter at its limit blocks
further attempts. Blocked calls are counted, and after as many as the patience
allows one release lowers the counters at their limits. How many attempts a run of
calls can make follows from what raises and lowers the counters; how soon the next
attempt comes, from how far above their limits they are.
-/

namespace CircuitBreaker

structure Limits where
  first : Nat
  second : Nat
  patience : Option Nat

structure Breaker where
  first : Nat
  second : Nat
  waited : Nat
  tripped : Bool

def Breaker.fresh : Breaker := ⟨0, 0, 0, false⟩

variable (L : Limits)

def Blocked (b : Breaker) : Prop := b.tripped = true ∨ L.first ≤ b.first ∨ L.second ≤ b.second

instance (b : Breaker) : Decidable (Blocked L b) := inferInstanceAs (Decidable (_ ∨ _ ∨ _))

/-- One less, for a counter at its limit. -/
def lower (limit counter : Nat) : Nat := if limit ≤ counter then counter - 1 else counter

def release (b : Breaker) : Breaker := ⟨lower L.first b.first, lower L.second b.second, 0, false⟩

/-- A call that makes no attempt. Without patience nobody looks at the count. -/
inductive Idle : Breaker → Breaker → Prop where
  | wait {b : Breaker} (blocked : Blocked L b) (waited : Nat)
      (short : ∀ n ∈ L.patience, waited = b.waited + 1 ∧ waited < n) :
      Idle b { b with waited := waited, tripped := true }
  | release {b : Breaker} (blocked : Blocked L b) {n : Nat} (patience : L.patience = some n)
      (long : n ≤ b.waited + 1) : Idle b (release L b)

/-- An attempt that fails in one of the two ways, and may reach a limit. -/
inductive Failed : Breaker → Breaker → Prop where
  | first {b : Breaker} (free : ¬ Blocked L b) :
      Failed b
        { b with
          first := b.first + 1
          waited := if L.first ≤ b.first + 1 then 0 else b.waited
          tripped := L.first ≤ b.first + 1 }
  | second {b : Breaker} (free : ¬ Blocked L b) :
      Failed b
        { b with
          second := b.second + 1
          waited := if L.second ≤ b.second + 1 then 0 else b.waited
          tripped := L.second ≤ b.second + 1 }

/-- Calls from the fresh breaker, with the number of calls and of attempts. -/
inductive Calls : Nat → Nat → Breaker → Prop where
  | none : Calls 0 0 .fresh
  | idle {k q : Nat} {b b' : Breaker} : Calls k q b → Idle L b b' → Calls (k + 1) q b'
  | failed {k q : Nat} {b b' : Breaker} : Calls k q b → Failed L b b' → Calls (k + 1) (q + 1) b'

/-! ### How many attempts -/

/-- Attempts raise the counters and `released` lowered them; between two releases lie the waits
and at least one attempt. -/
structure Account (k q : Nat) (b : Breaker) (released : Nat) : Prop where
  balance : q = b.first + b.second + released
  below : b.first + b.second < L.first + L.second
  first : b.first ≤ L.first
  second : b.second ≤ L.second
  tripped : b.tripped = true → L.first ≤ b.first ∨ L.second ≤ b.second
  patient : ∀ n ∈ L.patience, released * (n + 1) + b.waited ≤ k
  blocked : ∀ n ∈ L.patience, Blocked L b → released * (n + 1) + b.waited + 1 ≤ k
  restless : ∀ n ∈ L.patience, ¬ Blocked L b → b.waited = 0
  never : L.patience = none → released = 0

variable {L}

lemma Account.atLimit {k q released : Nat} {b : Breaker} (h : Account L k q b released)
    (blocked : Blocked L b) : L.first ≤ b.first ∨ L.second ≤ b.second := by
  rcases blocked with tripped | full
  · exact h.tripped tripped
  · exact full

lemma Account.idle {k q released : Nat} {b b' : Breaker} (hfirst : 0 < L.first)
    (hsecond : 0 < L.second) (h : Account L k q b released) (step : Idle L b b') :
    ∃ released', Account L (k + 1) q b' released' := by
  have below := h.below
  have first := h.first
  have second := h.second
  cases step with
  | wait blocked waited short =>
    have full := h.atLimit blocked
    refine ⟨released, h.balance, below, first, second, fun _ => full, ?_, ?_, ?_, h.never⟩
    · intro n hn
      have := h.blocked n hn blocked
      obtain ⟨rfl, -⟩ := short n hn
      simp only
      omega
    · intro n hn _
      have := h.blocked n hn blocked
      obtain ⟨rfl, -⟩ := short n hn
      simp only
      omega
    · intro n _ free
      exact absurd (.inl rfl) free
  | release blocked patience long =>
    rename_i n
    have full := h.atLimit blocked
    have balance := h.balance
    have paid := h.blocked n patience blocked
    have more : (released + 1) * (n + 1) = released * (n + 1) + (n + 1) := Nat.succ_mul _ _
    -- exactly one counter is at its limit, and it is lowered by one
    have fewer : lower L.first b.first + lower L.second b.second + 1 = b.first + b.second ∧
        lower L.first b.first < L.first ∧ lower L.second b.second < L.second := by
      unfold lower
      split <;> split <;> omega
    have free : ¬ Blocked L (release L b) := by
      simp only [Blocked, release, Bool.false_eq_true, false_or]
      omega
    refine ⟨released + 1, ?_, ?_, ?_, ?_, ?_, ?_, ?_, ?_, ?_⟩
    · simp only [release]
      omega
    · simp only [release]
      omega
    · exact Nat.le_of_lt fewer.2.1
    · exact Nat.le_of_lt fewer.2.2
    · intro tripped
      cases tripped
    · intro n' hn'
      obtain rfl : n = n' := Option.some.inj (patience.symm.trans hn')
      simp only [release]
      omega
    · intro _ _ blocked'
      exact absurd blocked' free
    · intro _ _ _
      rfl
    · intro none
      rw [none] at patience
      cases patience

lemma not_blocked_iff {b : Breaker} :
    ¬ Blocked L b ↔ b.tripped = false ∧ b.first < L.first ∧ b.second < L.second := by
  simp only [Blocked, not_or, Bool.not_eq_true, Nat.not_le]

/-- What holds after any failed attempt holds once the counters are as an attempt leaves them. -/
lemma Account.attempted {k q released : Nat} {b b' : Breaker} (h : Account L k q b released)
    (free : ¬ Blocked L b) (raised : b'.first + b'.second = b.first + b.second + 1)
    (first : b'.first ≤ L.first) (second : b'.second ≤ L.second)
    (tripped : b'.tripped = true ↔ L.first ≤ b'.first ∨ L.second ≤ b'.second)
    (waited : b'.waited = 0 ∨ b'.waited = b.waited) :
    Account L (k + 1) (q + 1) b' released := by
  obtain ⟨-, low, low'⟩ := not_blocked_iff.mp free
  have balance := h.balance
  have rest : ∀ n ∈ L.patience, b'.waited = 0 := by
    intro n hn
    rcases waited with zero | same
    · exact zero
    · rw [same]
      exact h.restless n hn free
  refine ⟨by omega, by omega, first, second, tripped.mp, ?_, ?_, fun n hn _ => rest n hn, h.never⟩
  · intro n hn
    have := h.patient n hn
    have := rest n hn
    omega
  · intro n hn _
    have := h.patient n hn
    have := rest n hn
    omega

lemma Account.failed {k q released : Nat} {b b' : Breaker} (h : Account L k q b released)
    (step : Failed L b b') : Account L (k + 1) (q + 1) b' released := by
  cases step with
  | first free =>
    obtain ⟨-, low, low'⟩ := not_blocked_iff.mp free
    refine h.attempted free (Nat.add_right_comm _ _ _) low (Nat.le_of_lt low') ?_ ?_
    · simp only [decide_eq_true_eq]
      omega
    · simp only
      split
      · exact .inl rfl
      · exact .inr rfl
  | second free =>
    obtain ⟨-, low, low'⟩ := not_blocked_iff.mp free
    refine h.attempted free (Nat.add_assoc _ _ _).symm (Nat.le_of_lt low) low' ?_ ?_
    · simp only [decide_eq_true_eq]
      omega
    · simp only
      split
      · exact .inl rfl
      · exact .inr rfl

lemma account_fresh (hfirst : 0 < L.first) (hsecond : 0 < L.second) :
    Account L 0 0 .fresh 0 := by
  have free : ¬ Blocked L .fresh := not_blocked_iff.mpr ⟨rfl, hfirst, hsecond⟩
  refine ⟨rfl, ?_, Nat.zero_le _, Nat.zero_le _, ?_, ?_, ?_, fun _ _ _ => rfl, fun _ => rfl⟩
  · exact Nat.lt_of_lt_of_le hfirst (Nat.le_add_right _ _)
  · intro tripped
    cases tripped
  · intro n _
    exact Nat.le_of_eq (Nat.zero_mul _)
  · intro n _ blocked
    exact absurd blocked free

lemma Calls.account {k q : Nat} {b : Breaker} (hfirst : 0 < L.first) (hsecond : 0 < L.second)
    (h : Calls L k q b) : ∃ released, Account L k q b released := by
  induction h with
  | none => exact ⟨0, account_fresh hfirst hsecond⟩
  | idle _ step ih =>
    obtain ⟨released, account⟩ := ih
    exact account.idle hfirst hsecond step
  | failed _ step ih =>
    obtain ⟨released, account⟩ := ih
    exact ⟨released, account.failed step⟩

lemma Idle.waited_lt {b b' : Breaker} (step : Idle L b b') :
    ∀ n ∈ L.patience, b'.waited = 0 ∨ b'.waited < n := by
  intro n hn
  cases step with
  | wait blocked waited short => exact .inr (short n hn).2
  | release blocked patience long => exact .inl rfl

/-- The count stays below the patience. -/
lemma Calls.waited_lt {k q : Nat} {b : Breaker} (h : Calls L k q b) :
    ∀ n ∈ L.patience, b.waited = 0 ∨ b.waited < n := by
  induction h with
  | none => exact fun _ _ => .inl rfl
  | idle _ step _ => exact step.waited_lt
  | failed _ step ih =>
    intro n hn
    cases step with
    | first free =>
      simp only
      split
      · exact .inl rfl
      · exact ih n hn
    | second free =>
      simp only
      split
      · exact .inl rfl
      · exact ih n hn

/-- With a limit of zero nothing is ever attempted. -/
lemma Calls.none_of_zero {k q : Nat} {b : Breaker} (zero : L.first = 0 ∨ L.second = 0)
    (h : Calls L k q b) : q = 0 := by
  have blocked (b : Breaker) : Blocked L b := by
    rcases zero with zero | zero
    · exact .inr (.inl (zero ▸ Nat.zero_le _))
    · exact .inr (.inr (zero ▸ Nat.zero_le _))
  induction h with
  | none => rfl
  | idle _ _ ih => exact ih
  | failed _ step _ =>
    cases step with
    | first free => exact absurd (blocked _) free
    | second free => exact absurd (blocked _) free

/-- Up to the limits attempts are free; each further one needs a release. -/
theorem Calls.attempts_le {k q : Nat} {b : Breaker} (h : Calls L k q b) :
    q ≤ (L.first + L.second - 1) + L.patience.elim 0 fun n => k / (n + 1) := by
  by_cases zero : L.first = 0 ∨ L.second = 0
  · rw [h.none_of_zero zero]
    exact Nat.zero_le _
  obtain ⟨hfirst, hsecond⟩ := not_or.mp zero
  obtain ⟨released, account⟩ := h.account (Nat.pos_of_ne_zero hfirst) (Nat.pos_of_ne_zero hsecond)
  have balance := account.balance
  have below := account.below
  cases patience : L.patience with
  | none =>
    have := account.never patience
    simp only [Option.elim_none]
    omega
  | some n =>
    have few : released ≤ k / (n + 1) := by
      rw [Nat.le_div_iff_mul_le (Nat.succ_pos n)]
      exact Nat.le_trans (Nat.le_add_right _ _) (account.patient n patience)
    simp only [Option.elim_some]
    omega

/-! ### How soon the next attempt -/

/-- One release is enough. -/
def Releasable (L : Limits) (b : Breaker) : Prop :=
  0 < L.first ∧ 0 < L.second ∧ b.first ≤ L.first ∧ b.second ≤ L.second

/-- Calls in a row that make no attempt. -/
inductive Idles (L : Limits) : Nat → Breaker → Breaker → Prop where
  | none {b : Breaker} : Idles L 0 b b
  | step {k : Nat} {b c d : Breaker} : Idle L b c → Idles L k c d → Idles L (k + 1) b d

lemma Idle.blocked {b c : Breaker} (h : Idle L b c) : Blocked L b := by
  cases h with
  | wait blocked _ _ => exact blocked
  | release blocked _ _ => exact blocked

lemma lower_lt {limit counter : Nat} (positive : 0 < limit) (le : counter ≤ limit) :
    lower limit counter < limit := by
  unfold lower
  split <;> omega

lemma Releasable.release_free {b : Breaker} (h : Releasable L b) : ¬ Blocked L (release L b) := by
  obtain ⟨hfirst, hsecond, first, second⟩ := h
  exact not_blocked_iff.mpr ⟨rfl, lower_lt hfirst first, lower_lt hsecond second⟩

/-- At most the waits that are left and the release. -/
lemma Idles.le {n k : Nat} (patience : L.patience = some n) {b c : Breaker}
    (h : Idles L k b c) (hb : Releasable L b) : k ≤ max 1 (n - b.waited) := by
  induction h with
  | none => exact Nat.zero_le _
  | step first rest ih =>
    cases first with
    | wait blocked waited short =>
      obtain ⟨rfl, more⟩ := short n patience
      have := ih hb
      simp only at this
      omega
    | release blocked patience' long =>
      cases rest with
      | none => exact Nat.le_max_left _ _
      | step next _ => exact absurd next.blocked hb.release_free

/-- Before the waits are over nothing else happens. -/
lemma Idles.waits {n k : Nat} (patience : L.patience = some n) {b c : Breaker}
    (h : Idles L k b c) (hb : Blocked L b) (early : k < max 1 (n - b.waited)) :
    Blocked L c ∧ c.first = b.first ∧ c.second = b.second := by
  induction h with
  | none => exact ⟨hb, rfl, rfl⟩
  | step first rest ih =>
    cases first with
    | wait blocked waited short =>
      obtain ⟨rfl, more⟩ := short n patience
      exact ih (.inl rfl) (by simp only; omega)
    | release blocked patience' long =>
      obtain rfl := Option.some.inj (patience.symm.trans patience')
      omega

/-- One release is not enough: a counter stays at its limit. -/
def Stuck (L : Limits) (b : Breaker) : Prop :=
  L.first = 0 ∨ L.second = 0 ∨ L.first < b.first ∨ L.second < b.second

lemma stuck_iff {b : Breaker} : Stuck L b ↔ ¬ Releasable L b := by
  unfold Stuck Releasable
  omega

lemma Stuck.release_blocked {b : Breaker} (h : Stuck L b) : Blocked L (release L b) := by
  refine .inr ?_
  simp only [release, lower]
  rcases h with zero | zero | above | above
  · exact .inl (zero ▸ Nat.zero_le _)
  · exact .inr (zero ▸ Nat.zero_le _)
  · rw [if_pos (Nat.le_of_lt above)]
    exact .inl (Nat.le_pred_of_lt above)
  · rw [if_pos (Nat.le_of_lt above)]
    exact .inr (Nat.le_pred_of_lt above)

/-- A stuck breaker makes its callers wait twice. -/
lemma Idles.stuck {n k : Nat} (patience : L.patience = some n) {b c : Breaker}
    (h : Idles L k b c) (hb : Blocked L b) (stuck : Stuck L b) (early : k ≤ n) :
    Blocked L c := by
  induction h with
  | none => exact hb
  | step first rest ih =>
    cases first with
    | wait blocked waited short => exact ih (.inl rfl) stuck (Nat.le_of_succ_le early)
    | release blocked patience' long =>
      refine (rest.waits patience stuck.release_blocked ?_).1
      simp only [release]
      omega

end CircuitBreaker
