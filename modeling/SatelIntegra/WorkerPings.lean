import SatelIntegra.WorkerAttempts
import SatelIntegra.WorkerLedger

/-!
# Which pings count as missed

A ping that times out is missed; missed pings are forgotten when a frame is heard or
a settled state is entered. The counter of the worker agrees with this count as long
as no push future is dropped with a frame in it: that frame is heard by nobody, and
the pings missed before it are not forgotten.
-/

namespace SatelIntegra

open CheckedAccess ProgramLogic SatelConnectionWorker

/-- Between `w` and `w'` no ping was missed. -/
def Recorded (w w' : World) : Prop := ∃ taken sent, Ledger taken sent w w'

section Pieces

lemma Recorded.trans {w w' w'' : World} (h : Recorded w w') (h' : Recorded w' w'') :
    Recorded w w'' := by
  obtain ⟨taken, sent, ledger⟩ := h
  obtain ⟨taken', sent', ledger'⟩ := h'
  exact ⟨_, _, ledger.trans ledger'⟩

lemma recorded_report {msg : StateWorkerMessage} (hstatus : msg.status? = none) :
    Moves Recorded (notifyStateWorker msg) := by
  refine fun w => ⟨[], [msg], ⟨rfl, rfl, ?_, ?_⟩, ?_⟩
  · simp [statuses, hstatus]
  · simp [statuses, hstatus]
  · simp [forgets, heard, statuses, hstatus]

lemma recorded_exchange (data : Frame) (expectedCmd : UInt8) (writeTimeout readTimeout : Duration)
    (isPing : Bool) :
    Moves Recorded (exchange data expectedCmd writeTimeout readTimeout isPing) := by
  refine fun w => wp_imp (exchange_ledger data expectedCmd writeTimeout readTimeout isPing w) ?_
  rintro r w' ⟨-, taken, sent, h⟩
  exact ⟨taken, sent, h.ledger⟩

instance traced_recorded : Traced Recorded where
  trans _ _ _ := Recorded.trans
  same h := ⟨_, _, .quiet h.account⟩
  report hstatus _ := recorded_report hstatus
  exchange := recorded_exchange

lemma recorded_connectionLost : Moves Recorded connectionLost := fun w => ⟨_, _, .lose w⟩

lemma recorded_queryVersion {ν : Type} (command : SatelCommand) (expectedCmd : UInt8)
    (process : Frame → LocalTime → Parsed ν) (message : ν → StateWorkerMessage)
    (hstatus : ∀ version, (message version).status? = none)
    (hframe : ∀ version, (message version).frame? = none) (connTimeout : Duration) :
    Moves Recorded (queryVersion command expectedCmd process message connTimeout) := by
  refine Traced.bind (Traced.exchange _ _ _ _ _) fun r => ?_
  cases r with
  | error e =>
    exact Traced.bind recorded_connectionLost fun _ => Traced.pure _
  | ok response =>
    refine Traced.bind Traced.localNow fun now => ?_
    refine Traced.bind (Traced.lift _) fun parsed => ?_
    cases parsed with
    | error e => exact Traced.pure _
    | ok version =>
      exact Traced.bind (Traced.report (hstatus version) (hframe version))
        fun _ => Traced.pure _

lemma recorded_connectHandshake (connTimeout : Duration) :
    Moves Recorded (connectHandshake connTimeout) := by
  refine Traced.bind (recorded_queryVersion _ _ _ _ (fun _ => rfl) (fun _ => rfl) _) ?_
  intro r
  cases r with
  | error e => exact Traced.pure _
  | ok _ =>
    refine Traced.bind (recorded_queryVersion _ _ _ _ (fun _ => rfl) (fun _ => rfl) _) ?_
    intro r
    cases r with
    | error e => exact Traced.pure _
    | ok _ => exact Traced.bind (Traced.sleep _) fun _ => Traced.pure _

lemma recorded_connectAutoReadIfEnabled (connTimeout : Duration) :
    Moves Recorded (connectAutoReadIfEnabled connTimeout) := by
  refine Traced.bind Traced.readConfig fun config => ?_
  refine Moves.ite (Traced.bind (Traced.sendPushMask _) fun r => ?_)
    (Traced.pure _)
  cases r with
  | ok _ => exact Traced.pure _
  | error e => exact Traced.bind recorded_connectionLost fun _ => Traced.pure _

lemma recorded_connectOpened (connTimeout : Duration) :
    Moves Recorded (connectOpened connTimeout) := by
  refine Traced.bind (recorded_connectHandshake connTimeout) fun r => ?_
  cases r with
  | error e => exact Traced.pure _
  | ok _ =>
    refine Traced.bind (recorded_connectAutoReadIfEnabled connTimeout) fun r => ?_
    cases r with
    | error e => exact Traced.pure _
    | ok _ =>
      refine Traced.bind (fun w => ?_) fun _ => Traced.pure _
      exact wp_imp (setStateConnected_ledger w) fun _ _ h => ⟨_, _, h⟩

lemma recorded_connect : Moves Recorded connect := by
  refine Traced.bind (fun w => ?_) fun _ => ?_
  · exact wp_imp (setStateConnecting_ledger w) fun _ _ h => ⟨_, _, h⟩
  refine Traced.bind Traced.readConfig fun config => ?_
  refine Traced.bind (Traced.swapAutoReadDirty false) fun _ => ?_
  refine Traced.bind (fun w => ?_) fun r => ?_
  · exact wp_imp (connectPhysical_account _ w) fun _ _ h => Traced.same h
  cases r with
  | error e => exact Traced.bind recorded_connectionLost fun _ => Traced.pure _
  | ok stream =>
    refine Traced.bind (fun w => ⟨_, _, .quiet rfl⟩) fun _ => ?_
    refine Traced.bind (fun w => ?_) fun _ => ?_
    · exact wp_imp (setStateHandshake_ledger w) fun _ _ h => ⟨_, _, h.1⟩
    exact Traced.bind (Traced.sleep _) fun _ => recorded_connectOpened _

lemma recorded_tickWatchdog (status : ConnectionStatus) : Moves Recorded (tickWatchdog status) :=
  Moves.ite
    (Traced.bind (Traced.elapsedSince _) fun _ =>
      Moves.ite recorded_connectionLost (Traced.pure _))
    (Traced.pure _)

lemma recorded_tickReconnect (shouldReconnect : Bool) (status : ConnectionStatus) :
    Moves Recorded (tickReconnect shouldReconnect status) := by
  refine Moves.ite (Traced.bind (Traced.elapsedSince _) fun _ => ?_)
    (Traced.pure _)
  refine Traced.bind
    (Traced.bind Traced.readTelemetry fun _ => Traced.pure _) fun _ => ?_
  refine Moves.ite (Traced.bind (Traced.count fun _ _ => rfl) fun _ => ?_)
    (Traced.pure _)
  exact Traced.bind recorded_connect fun _ => Traced.pure _

lemma recorded_handleMessage (msg : InternalMessage) : Moves Recorded (handleMessageInternal msg) := by
  cases msg with
  | exchangeStandard data writeTimeout readTimeout createdAt maxQueueTime =>
    exact Traced.exchangeStandard data writeTimeout readTimeout createdAt maxQueueTime
  | exchangePriority data writeTimeout readTimeout =>
    exact Traced.exchangePriority data writeTimeout readTimeout
  | connect =>
    refine Traced.bind Traced.getCurrentState fun _ =>
      Moves.ite (Traced.pure _) ?_
    exact Traced.bind recorded_connect fun _ => Traced.pure _
  | disconnect =>
    refine Traced.bind Traced.getCurrentState fun _ =>
      Moves.ite (Traced.pure _) ?_
    refine Traced.bind (fun w => ?_) fun _ => Traced.pure _
    exact wp_imp (disconnect_ledger w) fun _ _ h => ⟨_, _, h⟩

lemma recorded_pushBranch : Moves Recorded pushBranch := by
  intro w
  refine wp_imp (pushBranch_ledger w) ?_
  rintro _ w' ⟨taken, sent, ledger, -⟩
  exact ⟨taken, sent, ledger⟩

end Pieces

section Pings

/-- The ping of a tick; the result says whether it timed out. -/
def pingTimesOut (status : ConnectionStatus) : Task Bool := do
  let lastSend := (← readTelemetry).lastSendAt
  if status.state = .connected then
    if (← elapsedSince lastSend) ≥ secs 2 then
      match ← exchange [SatelCommand.integraVersion.toByte] 0x7E (millis 500) (millis 500)
          true with
      | .error .timeout => return true
      | _ => return false
    else return false
  else return false

/-- What an iteration still has to do after its ping. -/
structure AfterPing where
  timedOut : Bool
  reconnect : Option (Bool × ConnectionStatus)

/-- An iteration up to the end of its ping, if it sends one. -/
def beforePing (turn : Turn) : Task AfterPing := do
  let (shouldReconnect, enabled) ← beforeBranch turn
  match turn.branch with
  | .tick =>
    let status := (← readTelemetry).status
    tickWatchdog status
    tickPushMask status
    let timedOut ← pingTimesOut status
    return { timedOut := timedOut, reconnect := some (shouldReconnect, status) }
  | branch =>
    runBranch shouldReconnect enabled branch
    return { timedOut := false, reconnect := none }

/-- The connection is declared lost if the count of missed pings says so. -/
def missPing : Task Unit := do
  if ← handlePingTimeout then connectionLost

def reconnectAfter : Option (Bool × ConnectionStatus) → Task Unit
  | some (shouldReconnect, status) => tickReconnect shouldReconnect status
  | none => pure ()

def afterPing (after : AfterPing) : Task Unit := do
  runIf after.timedOut missPing
  reconnectAfter after.reconnect

lemma tickPing_eq (status : ConnectionStatus) :
    tickPing status = pingTimesOut status >>= fun timedOut => runIf timedOut missPing := by
  simp only [tickPing, pingTimesOut, bind_assoc, ite_bind, pure_bind]
  refine congrArg (readTelemetry >>= ·) (funext fun telemetry => ?_)
  refine if_congr Iff.rfl ?_ rfl
  refine congrArg (elapsedSince _ >>= ·) (funext fun elapsed => ?_)
  refine if_congr Iff.rfl ?_ rfl
  refine congrArg (exchange _ _ _ _ _ >>= ·) (funext fun r => ?_)
  rcases r with e | frame
  · cases e <;> rfl
  · rfl

/-- An iteration is what comes up to the end of its ping, and what the ping leaves to do. -/
theorem runLoopTurn_eq_ping (turn : Turn) : runLoopTurn turn = beforePing turn >>= afterPing := by
  rw [runLoopTurn_eq_branch, beforePing, bind_assoc]
  refine congrArg (beforeBranch turn >>= ·) (funext fun found => ?_)
  cases turn.branch with
  | tick =>
    simp only [runBranch, pingIntervalTick, tickPing_eq, afterPing, reconnectAfter, bind_assoc,
      pure_bind]
  | push => simp [afterPing, reconnectAfter, runIf]
  | message msg => simp [afterPing, reconnectAfter, runIf]

end Pings

section Counting

/-- What was taken off the transport between two moments of an iteration. -/
def World.takenSince (w u : World) : List (Answer ReadOutcome) :=
  w.reads.take (w.reads.length - u.reads.length)

/-- What was sent to the state worker between two moments. -/
def World.sentSince (w u : World) : List StateWorkerMessage :=
  (u.stateWorkerTx.getD []).drop (w.stateWorkerTx.getD []).length

/-- A frame was heard between `w` and `u`, or a settled state was entered. -/
def forgottenSince (w u : World) : Bool := forgets (w.takenSince u) (w.sentSince u)

/-- The pings missed up to the end of an iteration's ping, `n` of them before the iteration. -/
def missedAtPing (turn : Turn) (w u : World) (timedOut : Bool) (n : Nat) : Nat :=
  (if forgottenSince (w.receive turn) u then 0 else n) + timedOut.toNat

/-- The pings missed up to the end of an iteration. -/
def missedTurn (turn : Turn) (w : World) (n : Nat) : Nat :=
  match (beforePing turn).run w with
  | .error _ => n
  | .ok (after, u) =>
    match (afterPing after).run u with
    | .error _ => missedAtPing turn w u after.timedOut n
    | .ok (_, v) => if forgottenSince u v then 0 else missedAtPing turn w u after.timedOut n

def missedRun (first : Turn) (turns : List Turn) (w : World) : Nat :=
  match (runConnect first).run w with
  | .error _ => 0
  | .ok (_, w') => alongLoop missedTurn turns w' 0

/-- The counter of the worker stands at `n`, or as far as it can count. -/
structure PingsCounted (n : Nat) (w : World) : Prop where
  counter : w.consecutiveMissedPings.toNat = min n 0xFFFFFFFF
  log : w.stateWorkerTx.isSome

variable {n : Nat} {w u v : World}

lemma Reported.since {taken : List (Answer ReadOutcome)} {sent : List StateWorkerMessage}
    (h : Reported taken sent w u) (hlog : w.stateWorkerTx.isSome) :
    w.takenSince u = taken ∧ w.sentSince u = sent := by
  obtain ⟨log, hw⟩ := Option.isSome_iff_exists.mp hlog
  constructor
  · rw [World.takenSince, h.reads, List.length_append, Nat.add_sub_cancel]
    exact List.take_left
  · rw [World.sentSince, h.log, hw]
    exact List.drop_left

/-- While no ping is missed, the counter is kept or forgotten. -/
lemma PingsCounted.recorded (h : PingsCounted n w) (recorded : Recorded w u) :
    PingsCounted (if forgottenSince w u then 0 else n) u := by
  obtain ⟨taken, sent, ledger⟩ := recorded
  obtain ⟨hTaken, hSent⟩ := ledger.toReported.since h.log
  constructor
  · rw [forgottenSince, hTaken, hSent, ledger.pings]
    cases forgets taken sent with
    | true => rfl
    | false => exact h.counter
  · rw [ledger.log, Option.isSome_map]
    exact h.log

lemma saturatingSucc_toNat (k : UInt32) :
    (saturatingSucc k).toNat = min (k.toNat + 1) 0xFFFFFFFF := by
  have bound : k.toNat < 4294967296 := k.toNat_lt
  by_cases full : k = 0xFFFFFFFF
  · subst full
    rfl
  · have below : k.toNat ≠ 4294967295 := fun h => full (UInt32.toNat_inj.mp h)
    rw [saturatingSucc, if_neg full, UInt32.toNat_add]
    have one : (1 : UInt32).toNat = 1 := rfl
    rw [one, Nat.mod_eq_of_lt (by omega), Nat.min_eq_left (by omega)]

/-- A missed ping counts, and the connection is lost on its account exactly if the limit that is
read then is not zero and the count has reached it. -/
lemma PingsCounted.miss (h : PingsCounted n w) :
    IfEnds handlePingTimeout
      (fun declared v => PingsCounted (n + 1) v ∧
        (declared = true ↔ 0 < v.config.maxMissedPings.toNat ∧
          v.config.maxMissedPings.toNat ≤ n + 1) ∧
        v.reads = w.reads ∧ v.stateWorkerTx = w.stateWorkerTx) w := by
  let u : World := { w with consecutiveMissedPings := saturatingSucc w.consecutiveMissedPings }
  have account := interleave_account u
  simp only [World.account, Prod.mk.injEq] at account
  obtain ⟨reads, log, -, pings⟩ := account
  have counter : u.interleave.consecutiveMissedPings.toNat = min (n + 1) 0xFFFFFFFF := by
    rw [pings]
    change (saturatingSucc w.consecutiveMissedPings).toNat = _
    rw [saturatingSucc_toNat, h.counter]
    omega
  have limit : u.interleave.config.maxMissedPings.toNat < 4294967296 :=
    u.interleave.config.maxMissedPings.toNat_lt
  simp only [handlePingTimeout, IfEnds, wp_bind, wp_modify, wp_readConfig, wp_get, wp_pure]
  refine ⟨⟨counter, ?_⟩, ?_, reads, log⟩
  · rw [log]
    exact h.log
  · change (decide (u.interleave.config.maxMissedPings > 0) &&
      decide (u.interleave.consecutiveMissedPings ≥ u.interleave.config.maxMissedPings)) = true ↔ _
    simp only [Bool.and_eq_true, decide_eq_true_eq, gt_iff_lt, ge_iff_le, UInt32.lt_iff_toNat_lt,
      UInt32.le_iff_toNat_le, counter]
    have zero : (0 : UInt32).toNat = 0 := rfl
    change _ ↔ 0 < u.interleave.config.maxMissedPings.toNat ∧
      u.interleave.config.maxMissedPings.toNat ≤ n + 1
    rw [zero]
    omega

lemma recorded_pingTimesOut (status : ConnectionStatus) : Moves Recorded (pingTimesOut status) := by
  refine Traced.bind Traced.readTelemetry fun _ => ?_
  refine Moves.ite (Traced.bind (Traced.elapsedSince _) fun _ => ?_)
    (Traced.pure _)
  refine Moves.ite (Traced.bind (Traced.exchange _ _ _ _ _) fun r => ?_)
    (Traced.pure _)
  rcases r with e | frame
  · cases e <;> exact Traced.pure _
  · exact Traced.pure _

lemma recorded_beforePing {turn : Turn} (keeps : abandons turn w = false) :
    IfEnds (beforePing turn) (fun _ u => Recorded (w.receive turn) u) w := by
  have rest (shouldReconnect enabled : Bool) : Moves Recorded (match turn.branch with
      | .tick => do
        let status := (← readTelemetry).status
        tickWatchdog status
        tickPushMask status
        let timedOut ← pingTimesOut status
        return { timedOut := timedOut, reconnect := some (shouldReconnect, status) }
      | branch => do
        runBranch shouldReconnect enabled branch
        return { timedOut := false, reconnect := none : AfterPing }) := by
    cases turn.branch with
    | tick =>
      refine Traced.bind Traced.readTelemetry fun telemetry => ?_
      refine Traced.bind (recorded_tickWatchdog _) fun _ => ?_
      refine Traced.bind (Traced.tickPushMask _) fun _ => ?_
      exact Traced.bind (recorded_pingTimesOut _) fun _ => Traced.pure _
    | push =>
      refine Traced.bind ?_ fun _ => Traced.pure _
      exact Moves.ite recorded_pushBranch (Traced.pure _)
    | message msg =>
      refine Traced.bind ?_ fun _ => Traced.pure _
      exact Traced.bind (recorded_handleMessage msg) fun _ => Traced.pure _
  rw [beforePing, IfEnds, wp_bind]
  refine wp_imp (beforeBranch_account keeps) fun found w₁ h₁ => ?_
  refine wp_imp (rest found.1 found.2 w₁) fun _ u h => ?_
  exact Traced.trans _ _ _ (Traced.same h₁) h

lemma PingsCounted.beforePing {turn : Turn} (keeps : abandons turn w = false)
    (h : PingsCounted n w) :
    IfEnds (beforePing turn)
      (fun _ u => PingsCounted (if forgottenSince (w.receive turn) u then 0 else n) u) w := by
  have received : PingsCounted n (w.receive turn) := ⟨h.counter, h.log⟩
  exact wp_imp (recorded_beforePing keeps) fun _ u recorded => received.recorded recorded

lemma PingsCounted.afterPing (after : AfterPing) (h : PingsCounted n u) :
    IfEnds (afterPing after)
      (fun _ v => PingsCounted (if forgottenSince u v then 0 else n + after.timedOut.toNat) v) u := by
  obtain ⟨timedOut, reconnect⟩ := after
  have rest : Moves Recorded (reconnectAfter reconnect) := by
    cases reconnect with
    | none => exact Traced.pure _
    | some tick => exact recorded_tickReconnect tick.1 tick.2
  rw [SatelIntegra.afterPing, IfEnds, wp_bind]
  cases timedOut with
  | false =>
    simp only [runIf, Bool.false_eq_true, if_false, wp_pure]
    exact wp_imp (rest u) fun _ v recorded => h.recorded recorded
  | true =>
    simp only [runIf, if_true, missPing, wp_bind]
    refine wp_imp h.miss ?_
    rintro declared u₁ ⟨missed, -, reads, log⟩
    have same (v : World) : forgottenSince u v = forgottenSince u₁ v := by
      simp only [forgottenSince, World.takenSince, World.sentSince, reads, log]
    have lost : Moves Recorded (if declared then connectionLost else pure ()) :=
      Moves.ite recorded_connectionLost (Traced.pure _)
    refine wp_imp (lost u₁) fun _ u₂ h₂ => ?_
    refine wp_imp (rest u₂) fun _ v h₃ => ?_
    rw [same v]
    exact missed.recorded (Traced.trans _ _ _ h₂ h₃)

lemma PingsCounted.turn (turn : Turn) (w : World) (n : Nat) (keeps : abandons turn w = false)
    (h : PingsCounted n w) :
    IfEnds (runLoopTurn turn) (fun _ w' => PingsCounted (missedTurn turn w n) w') w := by
  have before := h.beforePing keeps
  rw [runLoopTurn_eq_ping, IfEnds, wp_bind]
  unfold missedTurn
  cases hrun : (SatelIntegra.beforePing turn).run w with
  | error panic => exact (wp_of_error hrun).mpr trivial
  | ok out =>
    obtain ⟨after, u⟩ := out
    have ended := ((wp_of_ok hrun).mp before).afterPing after
    refine (wp_of_ok hrun).mpr ?_
    cases hrest : (SatelIntegra.afterPing after).run u with
    | error panic => exact (wp_of_error hrest).mpr trivial
    | ok last =>
      have counted := (wp_of_ok hrest).mp ended
      refine (wp_of_ok hrest).mpr ?_
      simp only [hrest, missedAtPing]
      exact counted

/-- A ping that times out in this iteration costs the connection exactly if the limit read at
that moment is not zero and has been reached. -/
def DeclaresExactly (turn : Turn) (n : Nat) (w : World) : Prop :=
  IfEnds (beforePing turn)
    (fun after u => after.timedOut = true →
      IfEnds handlePingTimeout
        (fun declared v => declared = true ↔
          0 < v.config.maxMissedPings.toNat ∧
            v.config.maxMissedPings.toNat ≤ missedAtPing turn w u true n) u) w

lemma PingsCounted.declaresExactly {turn : Turn} (keeps : abandons turn w = false)
    (h : PingsCounted n w) : DeclaresExactly turn n w := by
  refine wp_imp (h.beforePing keeps) fun after u counted _ => ?_
  exact wp_imp counted.miss fun declared v missed => missed.2.1

/-- In a run that drops no push future with a frame in it, the worker gives up the connection on
account of a missed ping exactly if as many pings as the limit were missed in a row. -/
theorem missed_pings_counted (first : Turn) (turns : List Turn) (config : Config)
    (clock : Instant) (wall : LocalTime)
    (keeps : IfEnds (runConnect first)
      (fun _ w => EveryTurn (fun turn w => abandons turn w = false) turns w)
      (.new config clock wall)) :
    IfEnds (run first turns)
      (fun _ w => ∀ turn, abandons turn w = false →
        DeclaresExactly turn (missedRun first turns (.new config clock wall)) w)
      (.new config clock wall) := by
  let w₀ : World := .new config clock wall
  have fresh : PingsCounted 0 (w₀.receive first) := ⟨rfl, rfl⟩
  have connected : IfEnds (runConnect first) (fun _ w => PingsCounted 0 w) w₀ := by
    rw [runConnect, IfEnds, wp_bind, wp_modify, wp_bind]
    refine wp_imp (recorded_connect (w₀.receive first)) fun _ w recorded => ?_
    have counted := fresh.recorded recorded
    rwa [ite_self] at counted
  rw [run, IfEnds, wp_bind]
  unfold missedRun
  cases hrun : (runConnect first).run w₀ with
  | error panic => exact (wp_of_error hrun).mpr trivial
  | ok out =>
    have every := (wp_of_ok hrun).mp keeps
    have counted := (wp_of_ok hrun).mp connected
    refine (wp_of_ok hrun).mpr ?_
    refine wp_imp (runLoop_along PingsCounted.turn turns every counted) fun _ w h turn hturn => ?_
    exact h.declaresExactly hturn

/-- A tick that pings a panel which does not answer. -/
def pingTurn : Turn := { promptTurn .tick [.sent] [] with waited := secs 2 }

/-- A tick that finds a push future holding a frame. -/
def abandoningTurn : Turn :=
  { promptTurn .tick [] [.frame [0x17, 0x01]] with pushAbandoned := true }

lemma pingTurn_keeps (first : Turn) (w₀ : World) :
    IfEnds (runConnect first)
      (fun _ w => EveryTurn (fun turn w => abandons turn w = false) [pingTurn] w) w₀ := by
  have kept : pingTurn.pushAbandoned = false := rfl
  refine wp_imp (wp_trivial _) fun _ w _ => ⟨?_, fun _ _ => trivial⟩
  simp only [abandons, kept, Bool.and_false, Bool.false_and]

attribute [local irreducible] run

theorem missed_pings_counted_one :
    IfEnds (run connectingTurn [pingTurn])
      (fun _ w => ∀ turn, abandons turn w = false →
        DeclaresExactly turn
          (missedRun connectingTurn [pingTurn]
            (.new { maxMissedPings := 2 } 0 ⟨0, Nat.zero_le _⟩)) w)
      (.new { maxMissedPings := 2 } 0 ⟨0, Nat.zero_le _⟩) :=
  missed_pings_counted connectingTurn [pingTurn] { maxMissedPings := 2 } 0 ⟨0, Nat.zero_le _⟩
    (pingTurn_keeps _ _)

/-- The frame in the dropped future came between the two missed pings, yet both count. -/
theorem dropped_frame_not_heard :
    ¬ ∀ (first : Turn) (turns : List Turn) (config : Config) (clock : Instant) (wall : LocalTime),
      IfEnds (run first turns)
        (fun _ w => ∀ turn,
          DeclaresExactly turn (missedRun first turns (.new config clock wall)) w)
        (.new config clock wall) := by
  intro h
  have seen : Ends (run connectingTurn [pingTurn, abandoningTurn])
      (fun _ w => Ends (beforePing pingTurn)
        (fun after u => after.timedOut = true ∧ Ends handlePingTimeout
          (fun declared v => declared = true ∧ v.config.maxMissedPings.toNat = 2 ∧
            missedAtPing pingTurn w u true (missedRun connectingTurn [pingTurn, abandoningTurn]
              (.new { maxMissedPings := 2 } 0 ⟨0, Nat.zero_le _⟩)) = 1) u) w)
      (.new { maxMissedPings := 2 } 0 ⟨0, Nat.zero_le _⟩) := by decide +kernel
  obtain ⟨-, w, -, seen, declares⟩ := ends_iff.mp (seen.and
    (h connectingTurn [pingTurn, abandoningTurn] { maxMissedPings := 2 } 0 ⟨0, Nat.zero_le _⟩))
  obtain ⟨after, u, -, ⟨timedOut, seen⟩, declares⟩ := ends_iff.mp (seen.and (declares pingTurn))
  obtain ⟨declared, v, -, ⟨lost, limit, missed⟩, exactly⟩ :=
    ends_iff.mp (seen.and (declares timedOut))
  have two_le_one := (exactly.mp lost).2
  rw [limit, missed] at two_le_one
  exact absurd two_le_one (by decide)

end Counting

end SatelIntegra
