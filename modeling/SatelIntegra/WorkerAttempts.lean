import Mathlib.Tactic.IntervalCases
import SatelIntegra.WorkerTelemetry

/-!
# When the worker starts a connection attempt

An iteration of the loop ends with a connection attempt or makes none: whatever
comes before the attempt, and whether one follows, is `beforeAttempt`. After a
disconnect none follows until a client asks for one, and the loop itself starts
one only from `ConnectionLost`, when reconnecting is enabled and the wait is over.
-/

namespace SatelIntegra

open CheckedAccess ProgramLogic SatelConnectionWorker

section Turns

/-- Whether a tick ends with an attempt, for the status it looked at. -/
def reconnectDue (shouldReconnect : Bool) (status : ConnectionStatus) : Task Bool := do
  if shouldReconnect ∧ status.state = .connectionLost then
    let elapsed ← elapsedSince status.lastEventAt
    if elapsed ≥ (← calculateBackoff) then
      countReconnectAttempt
      return true
    else return false
  else return false

/-- A tick up to its connection attempt. -/
def tickBeforeAttempt (shouldReconnect : Bool) : Task Bool := do
  let status := (← readTelemetry).status
  tickWatchdog status
  tickPushMask status
  tickPing status
  reconnectDue shouldReconnect status

/-- A branch up to its connection attempt; the result says whether there is one. -/
def branchBeforeAttempt (shouldReconnect enabled : Bool) : Branch → Task Bool
  | .message .connect => do
    let state ← getCurrentState
    return !(state == .connected || state == .connecting || state == .handshake)
  | .tick => tickBeforeAttempt shouldReconnect
  | branch => do
    runBranch shouldReconnect enabled branch
    return false

def attempt : Task Unit := do
  let _ ← connect

def beforeAttempt (turn : Turn) : Task Bool := do
  let (shouldReconnect, enabled) ← beforeBranch turn
  branchBeforeAttempt shouldReconnect enabled turn.branch

lemma ite_bind {α β : Type} (c : Prop) [Decidable c] (x y : Task α) (f : α → Task β) :
    (if c then x else y) >>= f = if c then x >>= f else y >>= f := by
  by_cases h : c <;> simp [h]

lemma pingIntervalTick_eq (shouldReconnect : Bool) :
    pingIntervalTick shouldReconnect =
      tickBeforeAttempt shouldReconnect >>= fun started => runIf started attempt := by
  simp only [pingIntervalTick, tickReconnect, tickBeforeAttempt, reconnectDue, bind_assoc, ite_bind, pure_bind,
    runIf, attempt, if_true, Bool.false_eq_true, if_false]

lemma runBranch_eq (shouldReconnect enabled : Bool) (branch : Branch) :
    runBranch shouldReconnect enabled branch =
      branchBeforeAttempt shouldReconnect enabled branch >>= fun started =>
        runIf started attempt := by
  have last (x : Task Unit) :
      (x >>= fun _ => pure false >>= fun started => runIf started attempt) = x := by
    simp [runIf]
  cases branch with
  | push => simp only [branchBeforeAttempt, bind_assoc, last]
  | tick => exact pingIntervalTick_eq shouldReconnect
  | message msg =>
    cases msg with
    | connect =>
      simp only [runBranch, handleMessageInternal, branchBeforeAttempt, bind_assoc, pure_bind]
      refine congrArg (getCurrentState >>= ·) (funext fun state => ?_)
      cases state <;> simp [runIf, attempt]
    | _ => simp only [branchBeforeAttempt, bind_assoc, last]

/-- An iteration is what comes before an attempt, and then the attempt if there is one. -/
theorem runLoopTurn_eq (turn : Turn) :
    runLoopTurn turn = beforeAttempt turn >>= fun started => runIf started attempt := by
  rw [runLoopTurn_eq_branch, beforeAttempt]
  simp only [bind_assoc, runBranch_eq]

end Turns

section Backoff

/-- `saturating_sub(1)` -/
def saturatingPred (n : UInt32) : UInt32 := if n = 0 then 0 else n - 1

/-- `calculate_backoff` in the arithmetic of the source, in milliseconds. -/
def backoffChecked (attempts : UInt32) : Except Panic UInt64 :=
  if attempts = 0 then .ok 500
  else do
    let doublings := min (saturatingPred attempts) 7
    let ms ← mulU64 500 (← powU64 2 doublings)
    return min ms 60000

lemma backoffMillis_mono {a b : UInt32} (h : a ≤ b) : backoffMillis a ≤ backoffMillis b := by
  have le : a.toNat ≤ b.toNat := UInt32.le_iff_toNat_le.mp h
  have steps : min (a.toNat - 1) 7 ≤ min (b.toNat - 1) 7 := by omega
  have powers : 2 ^ min (a.toNat - 1) 7 ≤ 2 ^ min (b.toNat - 1) 7 :=
    Nat.pow_le_pow_right (by decide) steps
  have one : 1 ≤ 2 ^ min (b.toNat - 1) 7 := Nat.one_le_two_pow
  by_cases ha : a = 0
  · by_cases hb : b = 0
    · simp [backoffMillis, ha, hb]
    · simp only [backoffMillis, ha, hb, if_true, if_false]
      omega
  · have hb : b ≠ 0 := by
      rintro rfl
      exact ha (UInt32.toNat_inj.mp (Nat.le_zero.mp le))
    simp only [backoffMillis, ha, hb, if_false]
    omega

lemma backoffMillis_bounds (attempts : UInt32) :
    500 ≤ backoffMillis attempts ∧ backoffMillis attempts ≤ 60000 := by
  have one : 1 ≤ 2 ^ min (attempts.toNat - 1) 7 := Nat.one_le_two_pow
  by_cases h : attempts = 0
  · simp [backoffMillis, h]
  · simp only [backoffMillis, h, if_false]
    omega

/-- No step overflows: the exponent is at most 7. -/
lemma backoffChecked_eq (attempts : UInt32) :
    backoffChecked attempts = .ok (.ofNat (backoffMillis attempts)) := by
  by_cases h : attempts = 0
  · subst h
    rfl
  · have positive : 1 ≤ attempts.toNat :=
      Nat.one_le_iff_ne_zero.mpr fun hz => h (UInt32.toNat_inj.mp hz)
    have pred : (saturatingPred attempts).toNat = attempts.toNat - 1 := by
      rw [saturatingPred, if_neg h]
      exact UInt32.toNat_sub_of_le _ _ (UInt32.le_iff_toNat_le.mpr positive)
    have doublings : min (saturatingPred attempts) 7 = .ofNat (min (attempts.toNat - 1) 7) := by
      apply UInt32.toNat_inj.mp
      rcases Nat.le_total (attempts.toNat - 1) 7 with few | many
      · have le : saturatingPred attempts ≤ 7 := UInt32.le_iff_toNat_le.mpr (pred ▸ few)
        have least : min (saturatingPred attempts) 7 = saturatingPred attempts := if_pos le
        rw [least, pred, Nat.min_eq_left few]
        exact (Nat.mod_eq_of_lt (by omega)).symm
      · have least : min (saturatingPred attempts) 7 = 7 := by
          by_cases le : saturatingPred attempts ≤ 7
          · have seven : attempts.toNat - 1 ≤ 7 := pred ▸ UInt32.le_iff_toNat_le.mp le
            apply UInt32.toNat_inj.mp
            rw [show min (saturatingPred attempts) 7 = saturatingPred attempts from if_pos le, pred]
            exact Nat.le_antisymm seven many
          · exact if_neg le
        rw [least, Nat.min_eq_right many]
        rfl
    have small : min (attempts.toNat - 1) 7 ≤ 7 := Nat.min_le_right _ _
    simp only [backoffChecked, backoffMillis, h, if_false, doublings]
    generalize min (attempts.toNat - 1) 7 = doublings at small
    interval_cases doublings <;> rfl

end Backoff

section Disconnected

/-- After a disconnect: no stream, and nothing reported since `log`. -/
structure Gone (log : Option (List StateWorkerMessage)) (w : World) : Prop where
  state : w.connectionState = .disconnected
  stream : w.stream = none
  log : w.stateWorkerTx = log

variable {log : Option (List StateWorkerMessage)} {w : World}

lemma Gone.interleave (h : Gone log w) : Gone log w.interleave where
  state := (Onward.interleave w).state_eq.trans h.state
  stream := by
    have attached := (steady_status fun _ a => a = false).interleave (w := w)
      (by simp [World.core, h.stream])
    simpa [World.core] using attached
  log := (interleave_stateWorkerTx w).trans h.log

lemma Gone.beforeBranch (turn : Turn) (h : Gone log w) :
    IfEnds (beforeBranch turn) (fun found w' => found.2 = false ∧ Gone log w') w := by
  have received : Gone log (w.receive turn).interleave :=
    Gone.interleave ⟨h.state, h.stream, h.log⟩
  simp only [SatelIntegra.beforeBranch, pushEnabled, runIf, IfEnds, wp_bind, wp_modify,
    wp_readConfig, wp_get, received.stream, Option.isSome_none, Bool.false_eq_true, if_false,
    wp_pure, Bool.false_and]
  exact ⟨trivial, received⟩

lemma Gone.tick (shouldReconnect : Bool) (h : Gone log w) :
    IfEnds (tickBeforeAttempt shouldReconnect) (fun started w' => started = false ∧ Gone log w')
      w := by
  have looked := h.interleave
  have state : w.interleave.telemetry.status.state = .disconnected := looked.state
  simp only [tickBeforeAttempt, tickWatchdog, tickPushMask, tickPing, reconnectDue, IfEnds, wp_bind,
    wp_readTelemetry, state, reduceCtorEq, or_self, and_false, if_false, wp_pure]
  exact ⟨trivial, looked.interleave⟩

/-- Until a client asks for a connection, every message finds the worker disconnected. -/
lemma Gone.branch (shouldReconnect : Bool) {branch : Branch} (hbranch : branch ≠ .message .connect)
    (h : Gone log w) :
    IfEnds (branchBeforeAttempt shouldReconnect false branch)
      (fun started w' => started = false ∧ Gone log w') w := by
  have looked := h.interleave
  have state : w.interleave.telemetry.status.state = .disconnected := looked.state
  cases branch with
  | push => exact ⟨rfl, h⟩
  | tick => exact h.tick shouldReconnect
  | message msg =>
    cases msg with
    | connect => exact absurd rfl hbranch
    | _ =>
      simp only [branchBeforeAttempt, runBranch, handleMessageInternal, getCurrentState, IfEnds,
        wp_bind, wp_readTelemetry, wp_pure, state, ne_eq, reduceCtorEq, not_false_eq_true, true_or,
        if_true]
      exact ⟨trivial, looked⟩

lemma Gone.beforeAttempt {turn : Turn} (hturn : turn.branch ≠ .message .connect) (h : Gone log w) :
    IfEnds (beforeAttempt turn) (fun started w' => started = false ∧ Gone log w') w := by
  rw [SatelIntegra.beforeAttempt, IfEnds, wp_bind]
  refine wp_imp (h.beforeBranch turn) ?_
  rintro ⟨shouldReconnect, enabled⟩ w₁ ⟨rfl, h₁⟩
  exact h₁.branch shouldReconnect hturn

lemma Gone.turn {turn : Turn} (hturn : turn.branch ≠ .message .connect) (h : Gone log w) :
    IfEnds (runLoopTurn turn) (fun _ w' => Gone log w') w := by
  rw [runLoopTurn_eq, IfEnds, wp_bind]
  refine wp_imp (h.beforeAttempt hturn) ?_
  rintro started w₁ ⟨rfl, h₁⟩
  exact h₁

lemma Gone.runLoop {turns : List Turn} (hturns : ∀ turn ∈ turns, turn.branch ≠ .message .connect)
    (h : Gone log w) : IfEnds (runLoop turns) (fun _ w' => Gone log w') w := by
  induction turns generalizing w with
  | nil => exact h
  | cons turn turns ih =>
    rw [SatelIntegra.runLoop, IfEnds, wp_bind]
    refine wp_imp (h.turn (hturns turn (by simp))) fun _ w₁ h₁ => ?_
    exact ih (fun t ht => hturns t (List.mem_cons_of_mem _ ht)) h₁

/-- A disconnect leaves nothing open, whatever state it finds. -/
lemma gone_of_disconnect {turn : Turn} (hturn : turn.branch = .message .disconnect)
    (attached : Attached w.connectionState w.stream.isSome) :
    IfEnds (runLoopTurn turn) (fun _ w' => ∃ log, Gone log w') w := by
  rw [runLoopTurn_eq_branch, IfEnds, wp_bind, hturn]
  refine wp_imp (stable_attached.toSteady.beforeBranch turn w attached) ?_
  rintro ⟨shouldReconnect, enabled⟩ w₁ ⟨attached₁, -⟩
  simp only [runBranch, handleMessageInternal, getCurrentState, wp_bind, wp_readTelemetry, wp_ite,
    wp_pure]
  constructor
  · intro state
    have attached₂ := stable_attached.toSteady.interleave attached₁
    exact ⟨_, state, by simpa [World.core] using attached₂.2 (.inl state), rfl⟩
  · intro _
    exact ⟨_, rfl, detached_stream w₁.interleave, rfl⟩

end Disconnected

section Automatic
variable {w : World}

/-- What lets the worker start an attempt of its own. -/
structure MayReconnect (autoReconnect : Bool) (w : World) : Prop where
  lost : w.connectionState = .connectionLost
  enabled : autoReconnect = true
  waited : millis (backoffMillis w.telemetry.status.failedAttempts) ≤
    w.clock - w.telemetry.status.lastEventAt

/-- Other tasks leave the status to the worker. -/
lemma steady_wholeStatus (status : ConnectionStatus) : Steady fun c => c.status = status where
  act w o h := by
    rw [core_act]
    cases o <;> exact h

lemma reconnectDue_mayReconnect (shouldReconnect : Bool) {status : ConnectionStatus}
    (same : status.state = .connectionLost → w.core.status = status) :
    IfEnds (reconnectDue shouldReconnect status)
      (fun started w' => started = true → MayReconnect shouldReconnect w') w := by
  rw [reconnectDue, IfEnds, wp_ite]
  constructor
  · rintro ⟨enabled, lost⟩
    rw [wp_bind, wp_elapsedSince]
    simp only [calculateBackoff, countReconnectAttempt, bind_assoc, pure_bind]
    rw [wp_bind, wp_readTelemetry]
    have steady := steady_wholeStatus status
    have read : w.interleave.core.status = status := steady.interleave (same lost)
    have counted : w.interleave.interleave.core.status = status := steady.interleave read
    rw [wp_ite]
    constructor
    · intro waited
      rw [wp_bind, wp_updateTelemetry, wp_pure]
      intro _
      refine ⟨?_, enabled, ?_⟩
      · exact (congrArg ConnectionStatus.state counted).trans lost
      · have backoff : w.interleave.telemetry.status = status := read
        rw [backoff] at waited
        change millis (backoffMillis w.interleave.interleave.core.status.failedAttempts) ≤
          w.interleave.interleave.clock - w.interleave.interleave.core.status.lastEventAt
        rw [counted, interleave_clock, interleave_clock]
        exact waited
    · intro _ started
      cases started
  · intro _ started
    cases started

/-- From `ConnectionLost` a tick goes straight to its last step, and the status it looked at
is still there. -/
lemma tick_mayReconnect (shouldReconnect : Bool) :
    IfEnds (tickBeforeAttempt shouldReconnect)
      (fun started w' => started = true → MayReconnect shouldReconnect w') w := by
  rw [tickBeforeAttempt, IfEnds, wp_bind, wp_readTelemetry]
  have looked : w.interleave.core.status = w.interleave.telemetry.status := rfl
  generalize w.interleave.telemetry.status = status at looked
  generalize w.interleave = w₁ at looked
  rw [wp_bind]
  by_cases lost : status.state = .connectionLost
  · simp only [tickWatchdog, tickPushMask, tickPing, lost, reduceCtorEq, or_self, if_false, wp_bind,
      wp_pure, wp_readTelemetry]
    exact reconnectDue_mayReconnect shouldReconnect fun _ =>
      (steady_wholeStatus status).interleave looked
  · refine wp_imp (wp_trivial _) fun _ w₂ _ => ?_
    rw [wp_bind]
    refine wp_imp (wp_trivial _) fun _ w₃ _ => ?_
    rw [wp_bind]
    refine wp_imp (wp_trivial _) fun _ w₄ _ => ?_
    exact reconnectDue_mayReconnect shouldReconnect fun h => absurd h lost

lemma branch_mayReconnect (shouldReconnect enabled : Bool) {branch : Branch}
    (hbranch : branch ≠ .message .connect) :
    IfEnds (branchBeforeAttempt shouldReconnect enabled branch)
      (fun started w' => started = true → MayReconnect shouldReconnect w') w := by
  have none (x : Task Unit) : IfEnds (x >>= fun _ => pure false)
      (fun started w' => started = true → MayReconnect shouldReconnect w') w := by
    rw [IfEnds, wp_bind]
    refine wp_imp (wp_trivial x) fun _ w₁ _ => ?_
    intro started
    cases started
  cases branch with
  | push => exact none _
  | tick => exact tick_mayReconnect shouldReconnect
  | message msg =>
    cases msg with
    | connect => exact absurd rfl hbranch
    | _ => exact none _

/-- An attempt no client asked for. -/
lemma attempt_mayReconnect {turn : Turn} (hturn : turn.branch ≠ .message .connect) (w : World) :
    IfEnds (beforeAttempt turn)
      (fun started w' =>
        started = true → MayReconnect (w.receive turn).interleave.config.autoReconnect w') w := by
  rw [beforeAttempt, IfEnds, wp_bind]
  have any : Steady fun _ => True := ⟨fun _ _ _ => trivial⟩
  refine wp_imp (any.beforeBranch turn w trivial) ?_
  rintro ⟨shouldReconnect, enabled⟩ w₁ ⟨-, rfl⟩
  exact branch_mayReconnect _ _ hturn

end Automatic

/-- How the worker goes about connection attempts from here, before a turn and after it. -/
structure SafeToReconnect (w : World) : Prop where
  staysDisconnected : ∀ turn : Turn, turn.branch = .message .disconnect → ∀ later : List Turn,
    (∀ t ∈ later, t.branch ≠ .message .connect) →
      IfEnds (runLoop (turn :: later))
        (fun _ u => u.connectionState = .disconnected ∧ u.stream = none ∧
          ∀ next : Turn, next.branch ≠ .message .connect →
            IfEnds (beforeAttempt next)
              (fun started u' => started = false ∧ u'.stateWorkerTx = u.stateWorkerTx) u) w
  automatic : ∀ turn : Turn, turn.branch ≠ .message .connect →
    IfEnds (beforeAttempt turn)
      (fun started u =>
        started = true → MayReconnect (w.receive turn).interleave.config.autoReconnect u) w

lemma safeToReconnect_of_attached {w : World}
    (attached : Attached w.connectionState w.stream.isSome) : SafeToReconnect w where
  staysDisconnected turn hturn later hlater := by
    rw [runLoop, IfEnds, wp_bind]
    refine wp_imp (gone_of_disconnect hturn attached) ?_
    rintro _ w₁ ⟨log, gone⟩
    refine wp_imp (gone.runLoop hlater) fun _ u h => ?_
    refine ⟨h.state, h.stream, fun next hnext => ?_⟩
    refine wp_imp (h.beforeAttempt hnext) ?_
    rintro started u' ⟨rfl, h'⟩
    exact ⟨rfl, h'.log.trans h.log.symm⟩
  automatic _ hturn := attempt_mayReconnect hturn w

/-- In every run no attempt follows a disconnect until a client asks for one, and the worker's
own attempts wait for the backoff, which is monotone, bounded and computed without overflow. -/
theorem automatic_reconnection_safe (first : Turn) (turns : List Turn) (config : Config)
    (clock : Instant) (wall : LocalTime) :
    (∀ turn, runLoopTurn turn = beforeAttempt turn >>= fun started => runIf started attempt) ∧
      IfEnds (run first turns) (fun _ w => SafeToReconnect w) (.new config clock wall) ∧
      (∀ a b : UInt32, a ≤ b → backoffMillis a ≤ backoffMillis b) ∧
      ∀ attempts : UInt32, 500 ≤ backoffMillis attempts ∧ backoffMillis attempts ≤ 60000 ∧
        backoffChecked attempts = .ok (.ofNat (backoffMillis attempts)) := by
  refine ⟨runLoopTurn_eq, ?_, fun _ _ => backoffMillis_mono, fun attempts => ?_⟩
  · refine wp_imp (atRest_run first turns config clock wall) fun _ w h => ?_
    exact safeToReconnect_of_attached h.2
  · obtain ⟨least, most⟩ := backoffMillis_bounds attempts
    exact ⟨least, most, backoffChecked_eq attempts⟩

end SatelIntegra
