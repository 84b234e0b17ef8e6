import SatelIntegra.WorkerFailures
import SatelIntegra.WorkerPings

/-!
# What becomes of the frames that arrive

While the worker is connected a frame is the reply to a command or a push. Pushes go
to the state worker, once and in the order in which they came, unless `select!` drops
the future that holds one while it waits for room in the state worker's channel.
-/

namespace SatelIntegra

open CheckedAccess ProgramLogic SatelConnectionWorker

/-- The frames heard between `w` and `w'` are those of `replies`, and those passed on. -/
def PassedOn (replies : List Frame) (w w' : World) : Prop :=
  ∃ taken sent, Reported taken sent w w' ∧ Delivered (heard taken) replies (frames sent)

namespace PassedOn
variable {replies replies' : List Frame} {w w' w'' : World}

lemma trans (h : PassedOn replies w w') (h' : PassedOn replies' w' w'') :
    PassedOn (replies ++ replies') w w'' := by
  obtain ⟨taken, sent, reported, delivered⟩ := h
  obtain ⟨taken', sent', reported', delivered'⟩ := h'
  refine ⟨_, _, reported.trans reported', ?_⟩
  rw [heard_append, frames_append]
  exact delivered.append delivered'

lemma same (h : w'.account = w.account) : PassedOn [] w w' :=
  ⟨[], [], (Ledger.quiet h).toReported, .nil⟩

lemma trans_silent (h : PassedOn replies w w') (h' : PassedOn [] w' w'') :
    PassedOn replies w w'' := by
  simpa using h.trans h'

lemma lose (w : World) : PassedOn [] w w.lose :=
  ⟨[], [.statusChanged .connectionLost], (Ledger.lose w).toReported, .nil⟩

end PassedOn

section Replies

/-- `send_push_mask` up to its reply, with the length of the mask. -/
def maskExchange (connTimeout : Duration) : Task (Except SatelError Frame × Bool) := do
  let support14ByteMask :=
    ((← readState).ethmVersion.map (·.capabilities.support8TroublesGroups)).getD false
  let mask := connectBuildPushMask (← readConfig) support14ByteMask
  let r ← exchange (SatelCommand.listOfNewData.toByte :: mask) 0x7F connTimeout connTimeout false
  return (r, support14ByteMask)

/-- What `send_push_mask` does with its reply. -/
def reportMask : Except SatelError Frame × Bool → Task (Except SatelError Unit)
  | (.error e, _) => return .error e
  | (.ok response, support14ByteMask) => do
    let report ← StateT.lift
      (processAutoReadResponse (← readConfig) support14ByteMask response)
    notifyStateWorker (.autoReadReport report)
    return .ok ()

lemma sendPushMask_eq (connTimeout : Duration) :
    sendPushMask connTimeout = maskExchange connTimeout >>= reportMask := by
  simp only [sendPushMask, maskExchange, bind_assoc, pure_bind]
  refine congrArg (readState >>= ·) (funext fun state => ?_)
  refine congrArg (readConfig >>= ·) (funext fun config => ?_)
  refine congrArg (exchange _ _ _ _ _ >>= ·) (funext fun r => ?_)
  cases r <;> rfl

/-- The replies of a tick's push mask. -/
def maskReplies (status : ConnectionStatus) : Task (List Frame) := do
  if status.state = .connected then
    if ← swapAutoReadDirty false then
      let connTimeout := millis (← readConfig).readTimeoutMs.toNat
      let found ← maskExchange connTimeout
      match ← reportMask found with
      | .ok () => return replyOf found.1
      | .error _ =>
        let _ ← swapAutoReadDirty true
        return replyOf found.1
    else return []
  else return []

/-- The replies of a tick's ping. -/
def pingReplies (status : ConnectionStatus) : Task (List Frame) := do
  let lastSend := (← readTelemetry).lastSendAt
  if status.state = .connected then
    if (← elapsedSince lastSend) ≥ secs 2 then
      match ← exchange [SatelCommand.integraVersion.toByte] 0x7E (millis 500) (millis 500)
          true with
      | .error .timeout =>
        missPing
        return []
      | r => return replyOf r
    else return []
  else return []

/-- A branch with the replies its exchanges return, for a worker that makes no attempt. -/
def branchReplies (shouldReconnect enabled : Bool) : Branch → Task (List Frame)
  | .message msg => do
    match ← handleMessageInternal msg with
    | .exchanged r => return replyOf r
    | .done _ => return []
  | .push => do
    runBranch shouldReconnect enabled .push
    return []
  | .tick => do
    let status := (← readTelemetry).status
    tickWatchdog status
    let masks ← maskReplies status
    let pings ← pingReplies status
    tickReconnect shouldReconnect status
    return masks ++ pings

def turnReplies (turn : Turn) : Task (List Frame) := do
  let (shouldReconnect, enabled) ← beforeBranch turn
  branchReplies shouldReconnect enabled turn.branch

lemma tickPushMask_eq (status : ConnectionStatus) :
    tickPushMask status = maskReplies status >>= fun _ => pure () := by
  simp only [tickPushMask, maskReplies, sendPushMask_eq, bind_assoc, ite_bind, pure_bind]
  refine if_congr Iff.rfl ?_ rfl
  refine congrArg (swapAutoReadDirty false >>= ·) (funext fun dirty => ?_)
  refine if_congr Iff.rfl ?_ rfl
  refine congrArg (readConfig >>= ·) (funext fun config => ?_)
  refine congrArg (maskExchange _ >>= ·) (funext fun found => ?_)
  refine congrArg (reportMask found >>= ·) (funext fun r => ?_)
  cases r with
  | error e => simp only [bind_assoc, pure_bind]
  | ok _ => rfl

lemma tickPing_eq_replies (status : ConnectionStatus) :
    tickPing status = pingReplies status >>= fun _ => pure () := by
  simp only [tickPing, pingReplies, bind_assoc, ite_bind, pure_bind]
  refine congrArg (readTelemetry >>= ·) (funext fun telemetry => ?_)
  refine if_congr Iff.rfl ?_ rfl
  refine congrArg (elapsedSince _ >>= ·) (funext fun elapsed => ?_)
  refine if_congr Iff.rfl ?_ rfl
  refine congrArg (exchange _ _ _ _ _ >>= ·) (funext fun r => ?_)
  rcases r with e | frame
  · cases e with
    | timeout => simp only [missPing, bind_assoc, pure_bind, bind_pure_unit]
    | _ => rfl
  · rfl

/-- An iteration is its replies forgotten. -/
theorem runLoopTurn_eq_replies (turn : Turn) :
    runLoopTurn turn = turnReplies turn >>= fun _ => pure () := by
  rw [runLoopTurn_eq_branch, turnReplies, bind_assoc]
  refine congrArg (beforeBranch turn >>= ·) (funext fun found => ?_)
  cases turn.branch with
  | push => simp only [branchReplies, bind_assoc, pure_bind, bind_pure_unit]
  | tick =>
    simp only [runBranch, pingIntervalTick, branchReplies, tickPushMask_eq, tickPing_eq_replies,
      bind_assoc, pure_bind, bind_pure_unit]
  | message msg =>
    simp only [runBranch, branchReplies, bind_assoc]
    refine congrArg (handleMessageInternal msg >>= ·) (funext fun response => ?_)
    cases response <;> rfl

end Replies

section Deliveries
variable {w : World}

lemma passedOn_exchange (data : Frame) (expectedCmd : UInt8) (writeTimeout readTimeout : Duration)
    (isPing : Bool) (w : World) :
    IfEnds (exchange data expectedCmd writeTimeout readTimeout isPing)
      (fun r w' => PassedOn (replyOf r) w w') w := by
  refine wp_imp (exchange_ledger data expectedCmd writeTimeout readTimeout isPing w) ?_
  rintro r w' ⟨-, taken, sent, h⟩
  exact ⟨taken, sent, h.ledger.toReported, h.delivered⟩

lemma passedOn_maskExchange (connTimeout : Duration) (w : World) :
    IfEnds (maskExchange connTimeout) (fun found w' => PassedOn (replyOf found.1) w w') w := by
  have looked := (SameAccount.interleave w).trans (.interleave _)
  simp only [maskExchange, IfEnds, wp_bind, wp_readState, wp_readConfig]
  refine wp_imp (passedOn_exchange _ _ _ _ _ _) fun r w₁ h => ?_
  exact (PassedOn.same looked.account).trans h

lemma passedOn_reportMask (found : Except SatelError Frame × Bool) (w : World) :
    IfEnds (reportMask found) (fun _ w' => PassedOn [] w w') w := by
  obtain ⟨e | response, support14ByteMask⟩ := found
  · exact .same rfl
  · have looked := SameAccount.interleave w
    simp only [reportMask, IfEnds, wp_bind, wp_readConfig]
    cases processAutoReadResponse w.interleave.config support14ByteMask response with
    | error panic => exact trivial
    | ok report =>
      have sent : PassedOn [] w.interleave { w.interleave with
          stateWorkerTx := w.interleave.stateWorkerTx.map (· ++ [.autoReadReport report]) } :=
        ⟨[], [.autoReadReport report], ⟨rfl, rfl, rfl, rfl⟩, .nil⟩
      exact (PassedOn.same looked.account).trans sent

lemma passedOn_swapAutoReadDirty (dirty : Bool) (w : World) :
    IfEnds (swapAutoReadDirty dirty) (fun _ w' => PassedOn [] w w') w :=
  .same (interleave_account w)

lemma passedOn_maskReplies (status : ConnectionStatus) (w : World) :
    IfEnds (maskReplies status) (fun replies w' => PassedOn replies w w') w := by
  simp only [maskReplies, IfEnds, wp_bind, wp_ite, wp_pure]
  refine ⟨fun _ => ?_, fun _ => .same rfl⟩
  refine wp_imp (passedOn_swapAutoReadDirty false w) fun dirty w₁ h₁ => ?_
  refine ⟨fun _ => ?_, fun _ => h₁⟩
  rw [wp_readConfig]
  have looked := h₁.trans (.same (interleave_account w₁))
  refine wp_imp (passedOn_maskExchange _ _) fun found w₂ h₂ => ?_
  refine wp_imp (passedOn_reportMask found w₂) fun r w₃ h₃ => ?_
  have reported := (looked.trans h₂).trans_silent h₃
  cases r with
  | ok _ => exact reported
  | error e =>
    simp only [wp_bind, wp_pure]
    refine wp_imp (passedOn_swapAutoReadDirty true w₃) fun _ w₄ h₄ => ?_
    exact reported.trans_silent h₄

lemma passedOn_missPing (w : World) : IfEnds missPing (fun _ w' => PassedOn [] w w') w := by
  let u : World := { w with consecutiveMissedPings := saturatingSucc w.consecutiveMissedPings }
  have missed : PassedOn [] w u := ⟨[], [], ⟨rfl, by simp [u], rfl, rfl⟩, .nil⟩
  have counted : PassedOn [] w u.interleave := missed.trans (.same (interleave_account u))
  simp only [missPing, handlePingTimeout, IfEnds, wp_bind, wp_modify, wp_readConfig, wp_get,
    wp_pure, wp_ite, wp_connectionLost]
  exact ⟨fun _ => counted.trans (.lose u.interleave), fun _ => counted⟩

lemma passedOn_pingReplies (status : ConnectionStatus) (w : World) :
    IfEnds (pingReplies status) (fun replies w' => PassedOn replies w w') w := by
  have looked : PassedOn [] w w.interleave := .same (interleave_account w)
  simp only [pingReplies, IfEnds, wp_bind, wp_readTelemetry, wp_ite, wp_pure, wp_elapsedSince]
  refine ⟨fun _ => ⟨fun _ => ?_, fun _ => looked⟩, fun _ => looked⟩
  refine wp_imp (passedOn_exchange _ _ _ _ _ _) fun r w₁ h₁ => ?_
  rcases r with e | frame
  · cases e with
    | timeout =>
      simp only [wp_bind, wp_pure]
      refine wp_imp (passedOn_missPing w₁) fun _ w₂ h₂ => ?_
      exact (looked.trans h₁).trans h₂
    | _ => exact looked.trans h₁
  · exact looked.trans h₁

/-- What a client asks for while the worker is connected. -/
lemma passedOn_message (msg : InternalMessage) (connected : w.connectionState = .connected) :
    IfEnds (handleMessageInternal msg)
      (fun response w' =>
        PassedOn (match response with
          | .exchanged r => replyOf r
          | .done _ => []) w w') w := by
  have looked : PassedOn [] w w.interleave := .same (interleave_account w)
  have state : w.interleave.telemetry.status.state = .connected := by
    rw [interleave_status]
    exact connected
  cases msg with
  | exchangeStandard data writeTimeout readTimeout createdAt maxQueueTime =>
    simp only [handleMessageInternal, getCurrentState, IfEnds, wp_bind, wp_readTelemetry, wp_pure,
      wp_ite, wp_elapsedSince]
    refine ⟨fun _ => looked, fun _ => ⟨fun _ => looked, fun _ => ?_⟩⟩
    exact wp_imp (passedOn_exchange _ _ _ _ _ _) fun r w' h => looked.trans h
  | exchangePriority data writeTimeout readTimeout =>
    simp only [handleMessageInternal, getCurrentState, IfEnds, wp_bind, wp_readTelemetry, wp_pure,
      wp_ite]
    refine ⟨fun _ => looked, fun _ => ?_⟩
    exact wp_imp (passedOn_exchange _ _ _ _ _ _) fun r w' h => looked.trans h
  | connect =>
    simp only [handleMessageInternal, getCurrentState, IfEnds, wp_bind, wp_readTelemetry, wp_pure,
      wp_ite]
    refine ⟨fun _ => looked, fun idle => ?_⟩
    exact absurd (.inl state) idle
  | disconnect =>
    simp only [handleMessageInternal, getCurrentState, IfEnds, wp_bind, wp_readTelemetry, wp_pure,
      wp_ite]
    refine ⟨fun _ => looked, fun _ => ?_⟩
    refine wp_imp (disconnect_ledger w.interleave) fun _ w' entered => ?_
    exact looked.trans ⟨[], [.statusChanged .disconnected], entered.toReported, .nil⟩

/-- A push frame that looks like an acceptance but is longer. -/
def overlong (reads : List (Answer ReadOutcome)) : Bool :=
  match reads.head?.bind Answer.frame? with
  | some frame => accepts frame && frame != [0xEF, 0xFF]
  | none => false

lemma PushPassed.delivered {arrived passed : List Frame} (h : PushPassed w arrived passed)
    (short : overlong w.reads = false) : Delivered arrived [] passed := by
  cases h with
  | nothing => exact .nil
  | frame f first =>
    cases hf : accepts f with
    | false => exact Delivered.nil.push f
    | true =>
      have acceptance : f = [0xEF, 0xFF] := by
        simpa [overlong, first, hf] using short
      subst acceptance
      exact Delivered.nil.accepted

lemma passedOn_push (short : overlong w.reads = false) :
    IfEnds pushBranch (fun _ w' => PassedOn [] w w') w := by
  refine wp_imp (pushBranch_ledger w) ?_
  rintro _ w' ⟨taken, sent, ledger, passed⟩
  exact ⟨taken, sent, ledger.toReported, passed.delivered short⟩

lemma passedOn_tick (shouldReconnect enabled : Bool) (connected : w.connectionState = .connected) :
    IfEnds (branchReplies shouldReconnect enabled .tick)
      (fun replies w' => PassedOn replies w w') w := by
  have looked : PassedOn [] w w.interleave := .same (interleave_account w)
  have state : w.interleave.telemetry.status.state = .connected := by
    rw [interleave_status]
    exact connected
  have settled : w.interleave.telemetry.status.state.settled := by rw [state]; rfl
  have watchful : tickReconnect shouldReconnect w.interleave.telemetry.status = pure () := by
    refine if_neg ?_
    rintro ⟨-, lost⟩
    rw [state] at lost
    cases lost
  simp only [branchReplies, IfEnds, wp_bind, wp_readTelemetry, tickWatchdog_settled settled, wp_pure,
    watchful]
  refine wp_imp (passedOn_maskReplies _ _) fun masks w₁ h₁ => ?_
  refine wp_imp (passedOn_pingReplies _ _) fun pings w₂ h₂ => ?_
  exact (looked.trans h₁).trans h₂

/-- The worker is connected, and loses no frame to `select!` or to the acceptance check. -/
def keepsPushes (turn : Turn) (w : World) : Bool :=
  w.connectionState == .connected && !abandons turn w &&
    !(turn.branch == .push && overlong turn.reads)

lemma passedOn_turn {turn : Turn} (keeps : keepsPushes turn w) :
    IfEnds (turnReplies turn) (fun replies w' => PassedOn replies (w.receive turn) w') w := by
  simp only [keepsPushes, Bool.and_eq_true, beq_iff_eq, Bool.not_eq_true'] at keeps
  obtain ⟨⟨connected, kept⟩, short⟩ := keeps
  rw [turnReplies, IfEnds, wp_bind]
  refine wp_imp (beforeBranch_account kept) fun found w₁ looked => ?_
  have same : PassedOn [] (w.receive turn) w₁ := .same looked.account
  have account := looked.account
  simp only [World.account, Prod.mk.injEq] at account
  obtain ⟨reads, -, status, -⟩ := account
  have connected₁ : w₁.connectionState = .connected := by
    rw [World.connectionState, status]
    exact connected
  suffices IfEnds (branchReplies found.1 found.2 turn.branch)
      (fun replies w' => PassedOn replies w₁ w') w₁ by
    exact wp_imp this fun replies w' h => same.trans h
  cases hbranch : turn.branch with
  | message msg =>
    rw [branchReplies, IfEnds, wp_bind]
    refine wp_imp (passedOn_message msg connected₁) fun response w' h => ?_
    cases response with
    | exchanged r => exact h
    | done r => exact h
  | push =>
    have short₁ : overlong w₁.reads = false := by
      rw [reads]
      change overlong turn.reads = false
      simpa only [hbranch, beq_self_eq_true, Bool.true_and] using short
    simp only [branchReplies, runBranch, IfEnds, wp_bind, wp_ite, wp_pure]
    exact ⟨fun _ => passedOn_push short₁, fun _ => .same rfl⟩
  | tick => exact passedOn_tick found.1 found.2 connected₁

end Deliveries

section Runs

/-- The worker has a channel to the state worker. -/
def HasLog (w : World) : Prop := w.stateWorkerTx.isSome

variable {w w' : World}

lemma HasLog.reported {taken : List (Answer ReadOutcome)} {sent : List StateWorkerMessage}
    (h : HasLog w) (reported : Reported taken sent w w') : HasLog w' := by
  rw [HasLog, reported.log, Option.isSome_map]
  exact h

lemma hasLog_of_recorded {α : Type} {x : Task α} (hx : Moves Recorded x) :
    Preserves HasLog x := by
  intro w h
  refine wp_imp (hx w) ?_
  rintro _ w' ⟨taken, sent, ledger⟩
  exact h.reported ledger.toReported

lemma hasLog_missPing : Preserves HasLog missPing := by
  intro w h
  refine wp_imp (passedOn_missPing w) ?_
  rintro _ w' ⟨taken, sent, reported, -⟩
  exact h.reported reported

lemma hasLog_runBranch (shouldReconnect enabled : Bool) (branch : Branch) :
    Preserves HasLog (runBranch shouldReconnect enabled branch) := by
  cases branch with
  | message msg =>
    exact (hasLog_of_recorded (recorded_handleMessage msg)).bind fun _ => preserves_pure _
  | push => exact Preserves.ite (hasLog_of_recorded recorded_pushBranch) (preserves_pure _)
  | tick =>
    refine (hasLog_of_recorded Traced.readTelemetry).bind fun telemetry => ?_
    refine (hasLog_of_recorded (recorded_tickWatchdog _)).bind fun _ => ?_
    refine (hasLog_of_recorded (Traced.tickPushMask _)).bind fun _ => ?_
    refine Preserves.bind ?_ fun _ => hasLog_of_recorded (recorded_tickReconnect _ _)
    rw [tickPing_eq]
    refine (hasLog_of_recorded (recorded_pingTimesOut _)).bind fun timedOut => ?_
    exact Preserves.ite hasLog_missPing (preserves_pure _)

lemma hasLog_runLoopTurn (turn : Turn) : Preserves HasLog (runLoopTurn turn) := by
  intro w h
  rw [runLoopTurn_eq_branch, IfEnds, wp_bind]
  refine wp_imp (beforeBranch_reports turn w) ?_
  rintro found w₁ ⟨⟨taken, sent, reported, -⟩, -⟩
  have received : HasLog (w.receive turn) := h
  exact hasLog_runBranch found.1 found.2 turn.branch w₁ (received.reported reported)

lemma hasLog_runLoop (turns : List Turn) : Preserves HasLog (runLoop turns) := by
  induction turns with
  | nil => exact preserves_pure _
  | cons turn turns ih => exact (hasLog_runLoopTurn turn).bind fun _ => ih

lemma hasLog_run (first : Turn) (turns : List Turn) (h : HasLog w) :
    IfEnds (run first turns) (fun _ w' => HasLog w') w := by
  simp only [run, runConnect, IfEnds, wp_bind, wp_modify, wp_pure]
  refine wp_imp (hasLog_of_recorded recorded_connect (w.receive first) h) fun _ w₁ h₁ => ?_
  exact hasLog_runLoop turns w₁ h₁

/-- The frames that came so far, and those that answered a command. -/
structure Traffic where
  arrivals : List Frame
  replies : List Frame
  deriving DecidableEq

/-- What an iteration adds to the traffic. -/
def trafficTurn (turn : Turn) (w : World) (traffic : Traffic) : Traffic :=
  match (turnReplies turn).run w with
  | .error _ => traffic
  | .ok (replies, w') =>
    { arrivals := traffic.arrivals ++ heard ((w.receive turn).takenSince w')
      replies := traffic.replies ++ replies }

/-- The traffic of a stretch of the run that starts at `w`. -/
def traffic (turns : List Turn) (w : World) : Traffic := alongLoop trafficTurn turns w ⟨[], []⟩

/-- Since `w₀` the pushes of the traffic went to the state worker. -/
structure Carried (w₀ : World) (traffic : Traffic) (w : World) : Prop where
  log : ∃ sent, w.stateWorkerTx = w₀.stateWorkerTx.map (· ++ sent) ∧
    Delivered traffic.arrivals traffic.replies (frames sent)
  attached : HasLog w

lemma Carried.turn (w₀ : World) (turn : Turn) (w : World) (before : Traffic)
    (keeps : keepsPushes turn w = true) (h : Carried w₀ before w) :
    IfEnds (runLoopTurn turn) (fun _ w' => Carried w₀ (trafficTurn turn w before) w') w := by
  have passed := passedOn_turn keeps
  rw [runLoopTurn_eq_replies, IfEnds, wp_bind]
  unfold trafficTurn
  cases hrun : (turnReplies turn).run w with
  | error panic => exact (wp_of_error hrun).mpr trivial
  | ok out =>
    obtain ⟨replies, w'⟩ := out
    obtain ⟨taken, sent, reported, delivered⟩ := (wp_of_ok hrun).mp passed
    obtain ⟨sent₀, log, delivered₀⟩ := h.log
    have received : HasLog (w.receive turn) := h.attached
    obtain ⟨hTaken, -⟩ := reported.since received
    refine (wp_of_ok hrun).mpr ⟨⟨sent₀ ++ sent, ?_, ?_⟩, received.reported reported⟩
    · have grown : w'.stateWorkerTx = w.stateWorkerTx.map (· ++ sent) := reported.log
      rw [grown, log, Option.map_map]
      refine congrArg (Option.map · w₀.stateWorkerTx) (funext fun sofar => ?_)
      exact List.append_assoc sofar sent₀ sent
    · simp only [hTaken, frames_append]
      exact delivered₀.append delivered

/-- While the worker stays connected and `select!` drops no push future with a frame in it, every
push goes to the state worker once and in the order in which it came. -/
theorem pushes_delivered (first : Turn) (before turns : List Turn) (config : Config)
    (clock : Instant) (wall : LocalTime)
    (keeps : IfEnds (run first before)
      (fun _ w => EveryTurn (fun turn w => keepsPushes turn w = true) turns w)
      (.new config clock wall)) :
    IfEnds (run first before)
      (fun _ w => IfEnds (runLoop turns)
        (fun _ w' => Delivered (traffic turns w).arrivals (traffic turns w).replies
          (frames (w.sentSince w'))) w)
      (.new config clock wall) := by
  have fresh : HasLog (.new config clock wall) := rfl
  refine wp_imp (ifEnds_and keeps (hasLog_run first before fresh)) ?_
  rintro _ w ⟨every, attached⟩
  have start : Carried w ⟨[], []⟩ w := by
    refine ⟨⟨[], ?_, .nil⟩, attached⟩
    simp
  refine wp_imp (runLoop_along (Carried.turn w) turns every start) fun _ w' h => ?_
  obtain ⟨sent, log, delivered⟩ := h.log
  obtain ⟨sofar, hw⟩ := Option.isSome_iff_exists.mp attached
  have since : w.sentSince w' = sent := by
    rw [World.sentSince, log, hw]
    exact List.drop_left
  rw [since]
  exact delivered

/-- An iteration in which a push comes. -/
def pushTurn : Turn := promptTurn .push [] [.frame [0x17, 0x01]]

/-- Only acceptances are neither replies nor passed on. -/
lemma Delivered.acceptances {arrivals : List Frame} (h : Delivered arrivals [] []) :
    ∀ frame ∈ arrivals, frame = [0xEF, 0xFF] := by
  induction arrivals with
  | nil => exact nofun
  | cons frame later ih =>
    cases h with
    | accepted h => exact List.forall_mem_cons.mpr ⟨rfl, ih h⟩

attribute [local irreducible] run

theorem pushes_delivered_one :
    IfEnds (run connectingTurn [])
      (fun _ w => IfEnds (runLoop [pushTurn])
        (fun _ w' => Delivered (traffic [pushTurn] w).arrivals (traffic [pushTurn] w).replies
          (frames (w.sentSince w'))) w)
      (.new {} 0 ⟨0, Nat.zero_le _⟩) := by
  have keeps : IfEnds (run connectingTurn [])
      (fun _ w => EveryTurn (fun turn w => keepsPushes turn w = true) [pushTurn] w)
      (.new {} 0 ⟨0, Nat.zero_le _⟩) := by decide +kernel
  exact pushes_delivered connectingTurn [] [pushTurn] {} 0 ⟨0, Nat.zero_le _⟩ keeps

/-- The tick comes while the future that took the frame waits for room in the channel. -/
theorem abandoned_push_lost :
    ¬ ∀ (first : Turn) (before turns : List Turn) (config : Config) (clock : Instant)
      (wall : LocalTime),
      IfEnds (run first before)
        (fun _ w => EveryTurn (fun _ w => w.connectionState = .connected) turns w)
        (.new config clock wall) →
      IfEnds (run first before)
        (fun _ w => IfEnds (runLoop turns)
          (fun _ w' => Delivered (traffic turns w).arrivals (traffic turns w).replies
            (frames (w.sentSince w'))) w)
        (.new config clock wall) := by
  intro h
  have connected : IfEnds (run connectingTurn [])
      (fun _ w => EveryTurn (fun _ w => w.connectionState = .connected) [abandoningTurn] w)
      (.new {} 0 ⟨0, Nat.zero_le _⟩) := by decide +kernel
  have lost : Ends (run connectingTurn [])
      (fun _ w => Ends (runLoop [abandoningTurn])
        (fun _ w' => traffic [abandoningTurn] w = ⟨[[0x17, 0x01]], []⟩ ∧
          frames (w.sentSince w') = []) w)
      (.new {} 0 ⟨0, Nat.zero_le _⟩) := by decide +kernel
  obtain ⟨-, w, -, lost, stretch⟩ := ends_iff.mp
    (lost.and (h connectingTurn [] [abandoningTurn] {} 0 ⟨0, Nat.zero_le _⟩ connected))
  obtain ⟨-, w', -, ⟨arrived, passed⟩, delivered⟩ := ends_iff.mp (lost.and stretch)
  rw [arrived, passed] at delivered
  exact absurd (delivered.acceptances _ (List.mem_singleton_self _)) (by decide)

end Runs

end SatelIntegra
