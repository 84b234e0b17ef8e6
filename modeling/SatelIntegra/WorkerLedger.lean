import SatelIntegra.WorkerTelemetry

/-!
# What the worker takes from the transport and what it reports

A piece of the worker takes answers off the transport and sends messages to the
state worker. Status, failure count and missed pings after it are those before it,
changed by what was taken and sent: `Ledger` says how. Of the frames taken, those
that answer a command go to whoever waits for them and the others are forwarded.
-/

namespace SatelIntegra

open CheckedAccess ProgramLogic SatelConnectionWorker

/-- The frame an answer brings, if it brings one that is not empty. -/
def Answer.frame? (answer : Answer ReadOutcome) : Option Frame :=
  match answer.outcome with
  | .frame (first :: rest) => some (first :: rest)
  | _ => none

def heard (taken : List (Answer ReadOutcome)) : List Frame := taken.filterMap Answer.frame?

def StateWorkerMessage.status? : StateWorkerMessage → Option ConnectionState
  | .statusChanged state => some state
  | _ => none

def StateWorkerMessage.frame? : StateWorkerMessage → Option Frame
  | .frame received => some received
  | _ => none

def statuses (sent : List StateWorkerMessage) : List ConnectionState := sent.filterMap (·.status?)

def frames (sent : List StateWorkerMessage) : List Frame := sent.filterMap (·.frame?)

/-- What entering a state does to the failure count. -/
def countFailure (failures : UInt32) : ConnectionState → UInt32
  | .connectionLost => failures + 1
  | .connected | .disconnected => 0
  | .connecting | .handshake => failures

/-- The states no attempt is in the middle of. -/
def ConnectionState.settled : ConnectionState → Bool
  | .connected | .disconnected | .connectionLost => true
  | .connecting | .handshake => false

/-- Missed pings are forgotten: a frame was heard, or a settled state was entered. -/
def forgets (taken : List (Answer ReadOutcome)) (sent : List StateWorkerMessage) : Bool :=
  !(heard taken).isEmpty || (statuses sent).any (·.settled)

/-- Between `w` and `w'` the worker took `taken` and sent `sent`. -/
structure Reported (taken : List (Answer ReadOutcome)) (sent : List StateWorkerMessage)
    (w w' : World) : Prop where
  reads : w.reads = taken ++ w'.reads
  log : w'.stateWorkerTx = w.stateWorkerTx.map (· ++ sent)
  state : w'.connectionState = (statuses sent).foldl (fun _ state => state) w.connectionState
  failures : w'.telemetry.status.failedAttempts =
    (statuses sent).foldl countFailure w.telemetry.status.failedAttempts

/-- The same where no ping is missed. -/
structure Ledger (taken : List (Answer ReadOutcome)) (sent : List StateWorkerMessage)
    (w w' : World) : Prop extends Reported taken sent w w' where
  pings : w'.consecutiveMissedPings =
    if forgets taken sent then 0 else w.consecutiveMissedPings

section Parts

lemma heard_append (taken taken' : List (Answer ReadOutcome)) :
    heard (taken ++ taken') = heard taken ++ heard taken' := List.filterMap_append

lemma statuses_append (sent sent' : List StateWorkerMessage) :
    statuses (sent ++ sent') = statuses sent ++ statuses sent' := List.filterMap_append

lemma frames_append (sent sent' : List StateWorkerMessage) :
    frames (sent ++ sent') = frames sent ++ frames sent' := List.filterMap_append

lemma forgets_append (taken taken' : List (Answer ReadOutcome))
    (sent sent' : List StateWorkerMessage) :
    forgets (taken ++ taken') (sent ++ sent') = (forgets taken sent || forgets taken' sent') := by
  simp only [forgets, heard_append, statuses_append, List.any_append]
  cases heard taken with
  | nil => exact Bool.or_left_comm _ _ _
  | cons f more => rfl

end Parts

lemma closeSession_status (now : LocalTime) (t : ConnectionTelemetry) :
    (closeSession now t).status = t.status := by
  cases hsince : t.connectedSince with
  | none => simp only [closeSession, hsince]
  | some since => simp only [closeSession, hsince]

lemma enterConnectionLost_failedAttempts (w : World) (t : ConnectionTelemetry) :
    (enterConnectionLost w t).status.failedAttempts = t.status.failedAttempts + 1 := by
  by_cases h : t.status.state = .connected
  · simp only [enterConnectionLost, h, if_true, closeSession_status]
  · simp only [enterConnectionLost, h, if_false]

/-- What the ledger reads of a world. -/
def World.account (w : World) :
    List (Answer ReadOutcome) × Option (List StateWorkerMessage) × ConnectionStatus × UInt32 :=
  (w.reads, w.stateWorkerTx, w.telemetry.status, w.consecutiveMissedPings)

@[simp] lemma interleave_account (w : World) : w.interleave.account = w.account :=
  interleave_same World.account (fun _ o => by cases o <;> rfl) (fun _ _ => rfl) w

lemma Reported.trans {taken taken' : List (Answer ReadOutcome)} {sent sent' : List StateWorkerMessage}
    {w w' w'' : World} (h : Reported taken sent w w') (h' : Reported taken' sent' w' w'') :
    Reported (taken ++ taken') (sent ++ sent') w w'' where
  reads := by rw [h.reads, h'.reads, List.append_assoc]
  log := by
    rw [h'.log, h.log, Option.map_map]
    refine congrArg (Option.map · w.stateWorkerTx) (funext fun log => ?_)
    exact List.append_assoc log sent sent'
  state := by rw [h'.state, h.state, statuses_append, List.foldl_append]
  failures := by rw [h'.failures, h.failures, statuses_append, List.foldl_append]

namespace Ledger
variable {taken taken' : List (Answer ReadOutcome)} {sent sent' : List StateWorkerMessage}
  {w w' w'' : World}

/-- A step the account does not show. -/
lemma quiet (h : w'.account = w.account) : Ledger [] [] w w' := by
  simp only [World.account, Prod.mk.injEq] at h
  obtain ⟨reads, log, status, pings⟩ := h
  refine ⟨⟨reads.symm, ?_, congrArg ConnectionStatus.state status,
    congrArg ConnectionStatus.failedAttempts status⟩, pings⟩
  simp [log]

lemma refl (w : World) : Ledger [] [] w w := quiet rfl

lemma trans (h : Ledger taken sent w w') (h' : Ledger taken' sent' w' w'') :
    Ledger (taken ++ taken') (sent ++ sent') w w'' where
  toReported := h.toReported.trans h'.toReported
  pings := by
    rw [h'.pings, h.pings, forgets_append]
    cases forgets taken sent <;> cases forgets taken' sent' <;> rfl

lemma trans_quiet (h : Ledger taken sent w w') (h' : w''.account = w'.account) :
    Ledger taken sent w w'' := by
  simpa using h.trans (quiet h')

lemma lose (w : World) : Ledger [] [.statusChanged .connectionLost] w w.lose := by
  have detached := interleave_account { w with stream := none, consecutiveMissedPings := 0 }
  simp only [World.account, Prod.mk.injEq] at detached
  obtain ⟨reads, log, status, pings⟩ := detached
  refine ⟨⟨reads.symm, ?_, rfl, ?_⟩, pings⟩
  · exact congrArg (Option.map (· ++ [.statusChanged .connectionLost])) log
  · exact (enterConnectionLost_failedAttempts _ _).trans (congrArg (·.failedAttempts + 1) status)

end Ledger

/-- A step that shows neither in the account nor in whether there is a stream. -/
structure SameAccount (w w' : World) : Prop where
  account : w'.account = w.account
  stream : w'.stream.isSome = w.stream.isSome

namespace SameAccount
variable {w w' w'' : World}

lemma refl (w : World) : SameAccount w w := ⟨rfl, rfl⟩

lemma trans (h : SameAccount w w') (h' : SameAccount w' w'') : SameAccount w w'' :=
  ⟨h'.account.trans h.account, h'.stream.trans h.stream⟩

lemma interleave (w : World) : SameAccount w w.interleave where
  account := interleave_account w
  stream := interleave_same (·.stream.isSome) (fun _ o => by cases o <;> rfl) (fun _ _ => rfl) w

end SameAccount

section Transitions

lemma interleave_status (w : World) :
    w.interleave.telemetry.status = w.telemetry.status := by
  have account := interleave_account w
  simp only [World.account, Prod.mk.injEq] at account
  exact account.2.2.1

/-- In a settled state the watchdog has nothing to watch. -/
lemma tickWatchdog_settled {status : ConnectionStatus} (settled : status.state.settled) :
    tickWatchdog status = pure () := by
  refine if_neg ?_
  rintro (connecting | handshake)
  · rw [connecting] at settled
    cases settled
  · rw [handshake] at settled
    cases settled

/-- A state is entered and reported. -/
lemma Ledger.enter {state : ConnectionState} {w w' : World} (reads : w'.reads = w.reads)
    (log : w'.stateWorkerTx = w.stateWorkerTx.map (· ++ [.statusChanged state]))
    (hstate : w'.connectionState = state)
    (failures : w'.telemetry.status.failedAttempts =
      countFailure w.telemetry.status.failedAttempts state)
    (pings : w'.consecutiveMissedPings =
      if state.settled then 0 else w.consecutiveMissedPings) :
    Ledger [] [.statusChanged state] w w' := by
  refine ⟨⟨reads.symm, log, hstate, failures⟩, ?_⟩
  rw [pings]
  simp [forgets, heard, statuses, StateWorkerMessage.status?]

/-- A state an attempt goes through is entered after other tasks ran. -/
lemma Ledger.enter_passing {state : ConnectionState} (passing : state.settled = false)
    {w w' : World} (account : w'.account =
      (w.interleave.reads, w.interleave.stateWorkerTx.map (· ++ [.statusChanged state]),
        { w.interleave.telemetry.status with state := state, lastEventAt := w.interleave.clock },
        w.interleave.consecutiveMissedPings)) :
    Ledger [] [.statusChanged state] w w' := by
  have before := interleave_account w
  simp only [World.account, Prod.mk.injEq] at before account
  obtain ⟨reads, log, status, pings⟩ := before
  obtain ⟨reads', log', status', pings'⟩ := account
  refine .enter (reads'.trans reads) ?_ ?_ ?_ ?_
  · rw [log', log]
  · rw [World.connectionState, status']
  · have counted : countFailure w.telemetry.status.failedAttempts state =
        w.telemetry.status.failedAttempts := by
      cases state <;> first | rfl | cases passing
    rw [counted, status', ← status]
  · rw [passing]
    exact pings'.trans pings

lemma setStateConnecting_ledger (w : World) :
    IfEnds setStateConnecting (fun _ w' => Ledger [] [.statusChanged .connecting] w w') w :=
  Ledger.enter_passing rfl rfl

lemma setStateHandshake_ledger (w : World) :
    IfEnds setStateHandshake
      (fun _ w' => Ledger [] [.statusChanged .handshake] w w' ∧
        w'.stream.isSome = w.stream.isSome) w :=
  ⟨Ledger.enter_passing rfl rfl, (SameAccount.interleave w).stream⟩

lemma setStateConnected_ledger (w : World) :
    IfEnds setStateConnected (fun _ w' => Ledger [] [.statusChanged .connected] w w') w := by
  have before := interleave_account { w with consecutiveMissedPings := 0 }
  simp only [World.account, Prod.mk.injEq] at before
  obtain ⟨reads, log, -, pings⟩ := before
  exact .enter reads (congrArg (Option.map (· ++ [.statusChanged .connected])) log) rfl rfl pings

lemma disconnect_ledger (w : World) :
    IfEnds disconnect (fun _ w' => Ledger [] [.statusChanged .disconnected] w w') w := by
  have before := interleave_account { w with stream := none, consecutiveMissedPings := 0 }
  simp only [World.account, Prod.mk.injEq] at before
  obtain ⟨reads, log, -, pings⟩ := before
  exact .enter reads (congrArg (Option.map (· ++ [.statusChanged .disconnected])) log) rfl rfl pings

end Transitions

/-- Of the frames heard, `replies` answered a command and `passed` went to the state worker. -/
inductive Delivered : List Frame → List Frame → List Frame → Prop where
  | nil : Delivered [] [] []
  | accepted {heard replies passed : List Frame} :
      Delivered heard replies passed → Delivered ([0xEF, 0xFF] :: heard) replies passed
  | push (frame : Frame) {heard replies passed : List Frame} :
      Delivered heard replies passed → Delivered (frame :: heard) replies (frame :: passed)
  | reply (frame : Frame) {heard replies passed : List Frame} :
      Delivered heard replies passed → Delivered (frame :: heard) (frame :: replies) passed
  | rejection (code : Frame) {heard replies passed : List Frame} :
      Delivered heard replies passed →
        Delivered ((0xEF :: code) :: heard) ((0xEF :: code) :: replies) ((0xEF :: code) :: passed)

lemma Delivered.append {heard heard' replies replies' passed passed' : List Frame}
    (h : Delivered heard replies passed) (h' : Delivered heard' replies' passed') :
    Delivered (heard ++ heard') (replies ++ replies') (passed ++ passed') := by
  induction h with
  | nil => exact h'
  | accepted _ ih => exact ih.accepted
  | push frame _ ih => exact ih.push frame
  | reply frame _ ih => exact ih.reply frame
  | rejection code _ ih => exact ih.rejection code

section Exchange

/-- The wait for a reply ends because the transport is gone. -/
def readBreaks (expectedCmd : UInt8) (readTimeout : Duration) :
    Duration → List (Answer ReadOutcome) → Bool
  | _, [] => false
  | elapsed, answer :: later =>
    if elapsed < readTimeout then
      match answer.outcome with
      | .frame [] => readBreaks expectedCmd readTimeout (elapsed + answer.elapsed) later
      | .frame (first :: _) =>
        if first = expectedCmd ∨ first = 0xEF then false
        else readBreaks expectedCmd readTimeout (elapsed + answer.elapsed) later
      | .failed => true
      | .closed => true
      | .timedOut => false
    else false

/-- An exchange that gets these answers ends because the transport is gone. -/
def exchangeBreaks (expectedCmd : UInt8) (readTimeout : Duration) (sends : List (Answer SendOutcome))
    (reads : List (Answer ReadOutcome)) : Bool :=
  match sends with
  | ⟨_, .sent⟩ :: _ => readBreaks expectedCmd readTimeout 0 reads
  | ⟨_, .failed⟩ :: _ => true
  | _ => false

def World.breaks (expectedCmd : UInt8) (readTimeout : Duration) (w : World) : Bool :=
  w.stream.isSome && exchangeBreaks expectedCmd readTimeout w.sends w.reads

def replyOf : Except SatelError Frame → List Frame
  | .ok frame => [frame]
  | .error _ => []

/-- What an exchange takes and sends; it loses the connection once or not at all. -/
structure ExchangeLedger (breaks : Bool) (taken : List (Answer ReadOutcome))
    (sent : List StateWorkerMessage) (w : World) (r : Except SatelError Frame) (w' : World) :
    Prop where
  ledger : Ledger taken sent w w'
  delivered : Delivered (heard taken) (replyOf r) (frames sent)
  kept : breaks = false → statuses sent = [] ∧ w'.stream.isSome = w.stream.isSome
  broken : breaks = true → statuses sent = [.connectionLost] ∧ w'.stream = none ∧
    ∃ e, r = .error e ∧ e ≠ .timeout

lemma ExchangeLedger.after {breaks : Bool} {taken taken' : List (Answer ReadOutcome)}
    {sent sent' : List StateWorkerMessage} {u w w' : World} {r : Except SatelError Frame}
    (before : Ledger taken sent u w) (pushes : Delivered (heard taken) [] (frames sent))
    (same : statuses sent = []) (stream : w.stream.isSome = u.stream.isSome)
    (h : ExchangeLedger breaks taken' sent' w r w') :
    ExchangeLedger breaks (taken ++ taken') (sent ++ sent') u r w' where
  ledger := before.trans h.ledger
  delivered := by
    rw [heard_append, frames_append]
    exact pushes.append h.delivered
  kept hb := by
    rw [statuses_append, same, ← stream]
    exact h.kept hb
  broken hb := by
    rw [statuses_append, same]
    exact h.broken hb

lemma count_account {f : World → ConnectionTelemetry → ConnectionTelemetry}
    (hf : ∀ u t, (f u t).status = t.status) : Moves SameAccount (updateTelemetry f) := by
  intro w
  have counted : (w.interleave.mapTelemetry (f w.interleave)).account = w.interleave.account :=
    congrArg (fun status => (w.interleave.reads, w.interleave.stateWorkerTx, status,
      w.interleave.consecutiveMissedPings)) (hf w.interleave w.interleave.telemetry)
  exact (SameAccount.interleave w).trans ⟨counted, rfl⟩

lemma runIf_account {x : Task Unit} (hx : Moves SameAccount x) (c : Bool) :
    Moves SameAccount (runIf c x) := by
  cases c with
  | false => exact SameAccount.refl
  | true => exact hx

lemma countRejected_account : Moves SameAccount countRejected := count_account fun _ _ => rfl

lemma countNonPingFrame_account : Moves SameAccount countNonPingFrame :=
  count_account fun _ _ => rfl

lemma countTimeout_account : Moves SameAccount countTimeout := count_account fun _ _ => rfl

lemma countIoError_account : Moves SameAccount countIoError := count_account fun _ _ => rfl

/-- A frame goes to the exchange, to the state worker, or, as a rejection, to both. -/
lemma routeFrame_account (expectedCmd first : UInt8) (isPing : Bool) (rest : Frame) (w : World) :
    IfEnds (routeFrame expectedCmd isPing (first :: rest))
      (fun isReply w' => ∃ sent, statuses sent = [] ∧
        w'.account = (w.reads, w.stateWorkerTx.map (· ++ sent), w.telemetry.status, 0) ∧
        w'.stream.isSome = w.stream.isSome ∧
        Delivered [first :: rest] (if isReply then [first :: rest] else []) (frames sent)) w := by
  unfold routeFrame
  simp only [resetMissedPings, index_cons_zero, IfEnds, wp_bind, wp_modify, wp_lift_ok]
  refine wp_imp (runIf_account countRejected_account _ _) fun _ w₁ h₁ => ?_
  refine wp_imp (runIf_account countNonPingFrame_account _ _) fun _ w₂ h₂ => ?_
  obtain ⟨account, stream⟩ := h₁.trans h₂
  simp only [World.account, Prod.mk.injEq] at account
  obtain ⟨reads, log, status, pings⟩ := account
  simp only [runIf, wp_ite, wp_notifyStateWorker, wp_pure]
  constructor
  · intro passed
    refine ⟨[.frame (first :: rest)], rfl, ?_, stream, ?_⟩
    · change (w₂.reads, w₂.stateWorkerTx.map _, w₂.telemetry.status, w₂.consecutiveMissedPings) = _
      rw [reads, log, status, pings]
    · by_cases code : first = 0xEF
      · subst code
        have isReply : ((0xEF : UInt8) == expectedCmd || (0xEF : UInt8) == 0xEF) = true :=
          Bool.or_true _
        rw [isReply]
        exact Delivered.nil.rejection rest
      · have notReply : (first == expectedCmd || first == 0xEF) = false := by
          simpa [code] using passed
        rw [notReply]
        exact Delivered.nil.push (first :: rest)
  · intro kept
    refine ⟨[], rfl, ?_, stream, ?_⟩
    · change (w₂.reads, w₂.stateWorkerTx, w₂.telemetry.status, w₂.consecutiveMissedPings) = _
      rw [reads, log, status, pings]
      simp
    · have isReply : (first == expectedCmd || first == 0xEF) = true := by
        by_contra h
        simp_all
      rw [isReply]
      exact Delivered.nil.reply (first :: rest)

/-- An answer without a frame is taken off the transport. -/
lemma ledger_take {w : World} {answer : Answer ReadOutcome} {later : List (Answer ReadOutcome)}
    (hreads : w.reads = answer :: later) (hframe : answer.frame? = none) :
    Ledger [answer] [] w { w with reads := later, clock := w.clock + answer.elapsed } where
  reads := hreads
  log := by simp
  state := rfl
  failures := rfl
  pings := by simp [forgets, heard, statuses, hframe]

/-- A frame is taken off the transport, and what was missed before is forgotten. -/
lemma ledger_frame {w w' : World} {answer : Answer ReadOutcome} {first : UInt8} {rest : Frame}
    {sent : List StateWorkerMessage} (hreads : w.reads = answer :: w'.reads)
    (hframe : answer.outcome = .frame (first :: rest)) (same : statuses sent = [])
    (account : w'.account =
      (w'.reads, w.stateWorkerTx.map (· ++ sent), w.telemetry.status, 0)) :
    Ledger [answer] sent w w' := by
  simp only [World.account, Prod.mk.injEq] at account
  obtain ⟨-, log, status, pings⟩ := account
  refine ⟨⟨hreads, log, ?_, ?_⟩, ?_⟩
  · rw [same]
    exact congrArg ConnectionStatus.state status
  · rw [same]
    exact congrArg ConnectionStatus.failedAttempts status
  · rw [pings]
    simp [forgets, heard, Answer.frame?, hframe]

/-- An exchange that leaves the connection alone and takes nothing more. -/
lemma ExchangeLedger.stop {w w' : World} {taken : List (Answer ReadOutcome)} {e : SatelError}
    (ledger : Ledger taken [] w w') (silent : heard taken = [])
    (stream : w'.stream.isSome = w.stream.isSome) :
    ExchangeLedger false taken [] w (.error e) w' where
  ledger := ledger
  delivered := by
    rw [silent]
    exact .nil
  kept _ := ⟨rfl, stream⟩
  broken hb := Bool.noConfusion hb

lemma ExchangeLedger.lost {w w' : World} {taken : List (Answer ReadOutcome)} {e : SatelError}
    (ledger : Ledger taken [] w w') (silent : heard taken = []) (he : e ≠ .timeout) :
    ExchangeLedger true taken [.statusChanged .connectionLost] w (.error e) w'.lose where
  ledger := by simpa using ledger.trans (.lose w')
  delivered := by
    rw [silent]
    exact .nil
  kept hb := Bool.noConfusion hb
  broken _ := ⟨rfl, (gaveUp_lose w').2, e, rfl, he⟩

lemma receiveReply_ledger (expectedCmd : UInt8) (readTimeout : Duration) (isPing : Bool)
    (start : Instant) (answers : List (Answer ReadOutcome)) (w : World) (hreads : w.reads = answers)
    (hstart : start ≤ w.clock) (hstream : w.stream.isSome) :
    IfEnds (receiveReply expectedCmd readTimeout isPing start answers)
      (fun r w' => ∃ taken sent,
        ExchangeLedger (readBreaks expectedCmd readTimeout (w.clock - start) answers)
          taken sent w r w') w := by
  induction answers generalizing w with
  | nil =>
    simp only [receiveReply, IfEnds, wp_bind, wp_modify]
    refine wp_imp (countTimeout_account _) fun _ w₁ h₁ => ?_
    exact ⟨[], [], .stop (.quiet h₁.account) rfl h₁.stream⟩
  | cons answer later ih =>
    -- the world in which the frame of this answer is looked at
    let w₁ : World := { w with reads := later, clock := w.clock + answer.elapsed }
    have elapsed : w₁.clock - start = w.clock - start + answer.elapsed := Nat.sub_add_comm hstart
    have hstart₁ : start ≤ w₁.clock := Nat.le_trans hstart (Nat.le_add_right _ _)
    simp only [receiveReply, IfEnds, wp_bind, wp_elapsedSince, wp_ite]
    constructor
    · intro intime
      rw [wp_unwrapStream hstream, wp_modify]
      change wp _ _ _ w₁
      cases houtcome : answer.outcome with
      | frame frame =>
        cases frame with
        | nil =>
          have taken : Ledger [answer] [] w w₁ :=
            ledger_take hreads (by simp only [Answer.frame?, houtcome])
          have breaks : readBreaks expectedCmd readTimeout (w.clock - start) (answer :: later) =
              readBreaks expectedCmd readTimeout (w₁.clock - start) later := by
            rw [elapsed]
            simp only [readBreaks, if_pos intime, houtcome]
          simp only [List.isEmpty_nil, if_true]
          rw [breaks]
          refine wp_imp (ih w₁ rfl hstart₁ hstream) ?_
          rintro r w' ⟨taken', sent, h⟩
          have silent : heard [answer] = [] := by simp [heard, Answer.frame?, houtcome]
          exact ⟨_, _, h.after taken (by rw [silent]; exact .nil) rfl rfl⟩
        | cons first rest =>
          simp only [List.isEmpty_cons, Bool.false_eq_true, if_false, wp_bind]
          refine wp_imp (ifEnds_and (routeFrame_account expectedCmd first isPing rest w₁)
            (routeFrame_ends expectedCmd first isPing rest w₁).ifEnds) ?_
          rintro isReply w₂ ⟨⟨sent, same, account, stream, delivered⟩, rfl, between⟩
          have brought : heard [answer] = [first :: rest] := by
            simp [heard, Answer.frame?, houtcome]
          have reads : w.reads = answer :: w₂.reads := hreads.trans (by rw [between.reads])
          have taken : Ledger [answer] sent w w₂ := by
            refine ledger_frame reads houtcome same ?_
            rw [between.reads]
            exact account
          by_cases hreply : first = expectedCmd ∨ first = 0xEF
          · have isReply : (first == expectedCmd || first == 0xEF) = true := by simpa using hreply
            have breaks :
                readBreaks expectedCmd readTimeout (w.clock - start) (answer :: later) = false := by
              simp only [readBreaks, if_pos intime, houtcome, if_pos hreply]
            rw [isReply] at delivered ⊢
            rw [breaks]
            refine ⟨[answer], sent, taken, ?_, fun _ => ⟨same, stream⟩,
              fun broken => Bool.noConfusion broken⟩
            rw [brought]
            exact delivered
          · have isReply : (first == expectedCmd || first == 0xEF) = false := by
              simpa using hreply
            have breaks : readBreaks expectedCmd readTimeout (w.clock - start) (answer :: later) =
                readBreaks expectedCmd readTimeout (w₂.clock - start) later := by
              rw [between.clock, elapsed]
              simp only [readBreaks, if_pos intime, houtcome, if_neg hreply]
            rw [isReply] at delivered ⊢
            rw [breaks]
            have hstart₂ : start ≤ w₂.clock := between.clock ▸ hstart₁
            refine wp_imp (ih w₂ between.reads hstart₂ (stream.trans hstream)) ?_
            rintro r w' ⟨taken', sent', h⟩
            exact ⟨_, _, h.after taken (by rw [brought]; exact delivered) same stream⟩
      | failed =>
        have taken : Ledger [answer] [] w w₁ :=
          ledger_take hreads (by simp only [Answer.frame?, houtcome])
        have breaks :
            readBreaks expectedCmd readTimeout (w.clock - start) (answer :: later) = true := by
          simp only [readBreaks, if_pos intime, houtcome]
        rw [breaks]
        simp only [wp_bind, wp_connectionLost, wp_pure]
        refine wp_imp (countIoError_account w₁) fun _ w₂ h₂ => ?_
        refine ⟨_, _, .lost (taken.trans_quiet h₂.account) ?_ (by decide)⟩
        simp [heard, Answer.frame?, houtcome]
      | closed =>
        have taken : Ledger [answer] [] w w₁ :=
          ledger_take hreads (by simp only [Answer.frame?, houtcome])
        have breaks :
            readBreaks expectedCmd readTimeout (w.clock - start) (answer :: later) = true := by
          simp only [readBreaks, if_pos intime, houtcome]
        rw [breaks]
        simp only [wp_bind, wp_connectionLost, wp_pure]
        refine ⟨_, _, .lost taken ?_ (by decide)⟩
        simp [heard, Answer.frame?, houtcome]
      | timedOut =>
        have taken : Ledger [answer] [] w w₁ :=
          ledger_take hreads (by simp only [Answer.frame?, houtcome])
        have breaks :
            readBreaks expectedCmd readTimeout (w.clock - start) (answer :: later) = false := by
          simp only [readBreaks, if_pos intime, houtcome]
        rw [breaks]
        simp only [wp_bind, wp_pure]
        refine wp_imp (countTimeout_account w₁) fun _ w₂ h₂ => ?_
        refine ⟨_, _, .stop (taken.trans_quiet h₂.account) ?_ h₂.stream⟩
        simp [heard, Answer.frame?, houtcome]
    · intro late
      have breaks : readBreaks expectedCmd readTimeout (w.clock - start) (answer :: later) = false :=
        if_neg late
      rw [breaks]
      refine wp_imp (countTimeout_account _) fun _ w₁ h₁ => ?_
      exact ⟨[], [], .stop (.quiet h₁.account) rfl h₁.stream⟩

/-- Without a stream an exchange does nothing, so a timeout tells that there was one. -/
theorem exchange_ledger (data : Frame) (expectedCmd : UInt8) (writeTimeout readTimeout : Duration)
    (isPing : Bool) (w : World) :
    IfEnds (exchange data expectedCmd writeTimeout readTimeout isPing)
      (fun r w' => (r = .error .timeout → w.stream.isSome) ∧ ∃ taken sent,
        ExchangeLedger (w.breaks expectedCmd readTimeout) taken sent w r w') w := by
  unfold exchange sendCommand
  cases hstream : w.stream with
  | none =>
    have breaks : w.breaks expectedCmd readTimeout = false := by simp [World.breaks, hstream]
    simp only [IfEnds, wp_bind, wp_get, hstream, wp_pure, breaks]
    exact ⟨by rintro ⟨⟩, [], [], .stop (.refl w) rfl rfl⟩
  | some stream =>
    simp only [IfEnds, wp_bind, wp_get, hstream, wp_modify, awaitSend]
    cases hsends : w.sends with
    | nil =>
      have breaks : w.breaks expectedCmd readTimeout = false := by
        simp [World.breaks, exchangeBreaks, hsends]
      simp only [wp_bind, wp_sleep, wp_pure, breaks]
      refine wp_imp (countTimeout_account _) fun _ w₁ h₁ => ?_
      exact ⟨fun _ => rfl, [], [], .stop (.quiet h₁.account) rfl (by rw [h₁.stream, hstream]; rfl)⟩
    | cons a later =>
      obtain ⟨elapsed, outcome⟩ := a
      simp only [wp_bind, wp_modify, wp_pure]
      -- the world after the wait, in which the command is among those issued
      let w₁ : World :=
        { w with
          stream := some { stream with issued := stream.issued ++ [data] }
          sends := later
          clock := w.clock + elapsed }
      have waited : SameAccount w w₁ := ⟨rfl, by rw [hstream]; rfl⟩
      cases outcome with
      | sent =>
        have breaks : w.breaks expectedCmd readTimeout =
            readBreaks expectedCmd readTimeout 0 w.reads := by
          simp [World.breaks, exchangeBreaks, hsends, hstream]
        simp only [wp_bind, wp_pure]
        refine wp_imp (count_account ?_ w₁) fun _ w₂ h₂ => ?_
        · exact fun _ _ => rfl
        have reads : w₂.reads = w.reads := congrArg Prod.fst h₂.account
        have reply := receiveReply_ledger expectedCmd readTimeout isPing w₂.clock w₂.reads w₂ rfl
          (Nat.le_refl _) h₂.stream
        rw [Nat.sub_self, reads, ← breaks] at reply
        rw [wp_get, reads]
        refine wp_imp reply ?_
        rintro r w' ⟨taken, sent, h⟩
        have before := waited.trans h₂
        exact ⟨fun _ => rfl, _, _, h.after (.quiet before.account) .nil rfl before.stream⟩
      | failed =>
        have breaks : w.breaks expectedCmd readTimeout = true := by
          simp [World.breaks, exchangeBreaks, hsends, hstream]
        simp only [wp_bind, wp_connectionLost, wp_pure, breaks]
        refine wp_imp (countIoError_account w₁) fun _ w₂ h₂ => ?_
        exact ⟨by rintro ⟨⟩, _, _, .lost (.quiet (waited.trans h₂).account) rfl (by decide)⟩
      | timedOut =>
        have breaks : w.breaks expectedCmd readTimeout = false := by
          simp [World.breaks, exchangeBreaks, hsends]
        simp only [wp_bind, wp_pure, breaks]
        refine wp_imp (countTimeout_account w₁) fun _ w₂ h₂ => ?_
        have before := waited.trans h₂
        exact ⟨fun _ => rfl, _, _, .stop (.quiet before.account) rfl before.stream⟩

end Exchange

lemma connectPhysical_account (connTimeout : Duration) :
    Moves SameAccount (connectPhysical connTimeout) := by
  intro w
  have read := ((SameAccount.interleave w).trans (.interleave _)).trans (.interleave _)
  simp only [connectPhysical, awaitOpen, IfEnds, wp_bind, wp_readConfig, wp_get]
  cases w.interleave.interleave.interleave.opens with
  | nil =>
    simp only [wp_bind, wp_sleep, wp_pure]
    exact ⟨read.account, read.stream⟩
  | cons answer later =>
    simp only [wp_bind, wp_modify, wp_pure]
    exact ⟨read.account, read.stream⟩

section Pushes

/-- What the wait for a push ends with, but for the frame it forwards. -/
inductive PushTaken (w : World) : Except SatelError (Bool × Option Frame) → World → Prop where
  | frame {w' : World} {answer : Answer ReadOutcome} {first : UInt8} {rest : Frame}
      (reads : w.reads = answer :: w'.reads) (heard : answer.outcome = .frame (first :: rest))
      (account : w'.account =
        (w'.reads, w.stateWorkerTx, w.telemetry.status, w.consecutiveMissedPings)) :
      PushTaken w
        (.ok (true, if isAcceptance first (first :: rest) then none else some (first :: rest))) w'
  | nothing {w' : World} {taken : List (Answer ReadOutcome)} (silent : heard taken = [])
      (ledger : Ledger taken [] w w') : PushTaken w (.ok (false, none)) w'
  | failed {w' : World} {taken : List (Answer ReadOutcome)} (e : SatelError)
      (silent : heard taken = []) (ledger : Ledger taken [] w w') (stream : w.stream.isSome) :
      PushTaken w (.error e) w'

lemma takePush_ledger (w : World) :
    IfEnds takePush (fun r w' => PushTaken w r w' ∧ w'.stream.isSome = w.stream.isSome) w := by
  cases hstream : w.stream with
  | none =>
    simp only [takePush, IfEnds, wp_bind, wp_get, hstream, wp_pure]
    exact ⟨.nothing rfl (.refl w), trivial⟩
  | some stream =>
    have attached : w.stream.isSome = true := by rw [hstream]; rfl
    simp only [takePush, awaitRead, IfEnds, wp_bind, wp_get, hstream]
    cases hreads : w.reads with
    | nil =>
      simp only [wp_bind, wp_sleep, wp_pure]
      exact ⟨.nothing rfl (.quiet rfl), congrArg Option.isSome hstream⟩
    | cons answer later =>
      simp only [wp_bind, wp_modify, wp_pure]
      let u : World := { w with reads := later, clock := w.clock + answer.elapsed }
      cases houtcome : answer.outcome with
      | frame frame =>
        simp only [wp_bind]
        refine wp_imp (countNonPingFrame_account u) fun _ w₁ h₁ => ?_
        cases frame with
        | nil => exact trivial
        | cons first rest =>
          simp only [index_cons_zero, wp_lift_ok, wp_pure]
          have reads : w₁.reads = later := congrArg Prod.fst h₁.account
          refine ⟨.frame (by rw [hreads, reads]) houtcome ?_, h₁.stream.trans attached⟩
          rw [reads]
          exact h₁.account
      | failed =>
        simp only [wp_bind, wp_pure]
        refine wp_imp (countIoError_account u) fun _ w₁ h₁ => ?_
        have taken : Ledger [answer] [] w u :=
          ledger_take hreads (by simp only [Answer.frame?, houtcome])
        refine ⟨.failed _ ?_ (taken.trans_quiet h₁.account) attached, h₁.stream.trans attached⟩
        simp [heard, Answer.frame?, houtcome]
      | closed =>
        simp only [wp_pure]
        refine ⟨.failed _ ?_ (ledger_take hreads ?_) attached, attached⟩
        · simp [heard, Answer.frame?, houtcome]
        · simp only [Answer.frame?, houtcome]
      | timedOut =>
        simp only [wp_pure]
        refine ⟨.nothing ?_ (ledger_take hreads ?_), attached⟩
        · simp [heard, Answer.frame?, houtcome]
        · simp only [Answer.frame?, houtcome]

/-- A frame the push path does not forward. -/
def accepts : Frame → Bool
  | [] => false
  | first :: rest => isAcceptance first (first :: rest)

/-- What the push branch does with the frame that comes first, if one does. -/
inductive PushPassed (w : World) : List Frame → List Frame → Prop where
  | nothing : PushPassed w [] []
  | frame (f : Frame) (first : w.reads.head?.bind Answer.frame? = some f) :
      PushPassed w [f] (if accepts f then [] else [f])

lemma pushBranch_ledger (w : World) :
    IfEnds pushBranch
      (fun _ w' => ∃ taken sent, Ledger taken sent w w' ∧
        PushPassed w (heard taken) (frames sent)) w := by
  simp only [pushBranch, receivePushInternal, bind_assoc, IfEnds, wp_bind]
  refine wp_imp (takePush_ledger w) ?_
  rintro r w₁ ⟨pushed, -⟩
  cases pushed with
  | @frame _ answer first rest reads houtcome account =>
    have brought : heard [answer] = [first :: rest] := by simp [heard, Answer.frame?, houtcome]
    have came : w.reads.head?.bind Answer.frame? = some (first :: rest) := by
      simp [reads, Answer.frame?, houtcome]
    have passed := PushPassed.frame (first :: rest) came
    simp only [World.account, Prod.mk.injEq] at account
    obtain ⟨-, log, status, -⟩ := account
    cases hacc : isAcceptance first (first :: rest) with
    | true =>
      simp only [if_true, wp_pure]
      simp only [accepts, hacc, if_true] at passed
      refine ⟨[answer], [], ledger_frame reads houtcome rfl ?_, by rw [brought]; exact passed⟩
      change (w₁.reads, w₁.stateWorkerTx, w₁.telemetry.status, (0 : UInt32)) = _
      rw [log, status]
      simp
    | false =>
      simp only [Bool.false_eq_true, if_false, wp_bind, wp_notifyStateWorker, wp_pure]
      simp only [accepts, hacc, Bool.false_eq_true, if_false] at passed
      refine ⟨[answer], [.frame (first :: rest)], ledger_frame reads houtcome rfl ?_,
        by rw [brought]; exact passed⟩
      change (w₁.reads, w₁.stateWorkerTx.map _, w₁.telemetry.status, (0 : UInt32)) = _
      rw [log, status]
  | @nothing _ taken silent ledger =>
    simp only [wp_pure]
    exact ⟨taken, [], ledger, by rw [silent]; exact .nothing⟩
  | @failed _ taken e silent ledger stream =>
    simp only [wp_pure, wp_connectionLost]
    refine ⟨taken, [.statusChanged .connectionLost], ?_, by rw [silent]; exact .nothing⟩
    simpa using ledger.trans (.lose w₁)

end Pushes

/-- In this iteration `select!` drops a push future that holds a frame. -/
def abandons (turn : Turn) (w : World) : Bool :=
  w.stream.isSome && w.connectionState == .connected && turn.pushAbandoned &&
    turn.branch != .push && forwarded turn.reads

/-- A relation between worlds that the pieces of the worker without transitions move along. -/
class Traced (R : World → World → Prop) : Prop where
  trans : ∀ w w' w'', R w w' → R w' w'' → R w w''
  same : ∀ {w w'}, SameAccount w w' → R w w'
  report : ∀ {msg : StateWorkerMessage}, msg.status? = none → msg.frame? = none →
    Moves R (notifyStateWorker msg)
  exchange : ∀ data expectedCmd writeTimeout readTimeout isPing,
    Moves R (SatelConnectionWorker.exchange data expectedCmd writeTimeout readTimeout isPing)

namespace Traced
variable {R : World → World → Prop} [Traced R]

lemma pure {α : Type} (a : α) : Moves R (Pure.pure a : Task α) := fun w => Traced.same (.refl w)

lemma bind {α β : Type} {x : Task β} {f : β → Task α} (hx : Moves R x)
    (hf : ∀ b, Moves R (f b)) : Moves R (x >>= f) := hx.bind Traced.trans hf

lemma readConfig : Moves R readConfig := fun w => Traced.same (.interleave w)

lemma readState : Moves R readState := fun w => Traced.same (.interleave w)

lemma readTelemetry : Moves R readTelemetry := fun w => Traced.same (.interleave w)

lemma localNow : Moves R localNow := fun w => Traced.same (.interleave w)

lemma elapsedSince (start : Instant) : Moves R (elapsedSince start) :=
  fun w => Traced.same (.refl w)

lemma sleep (duration : Duration) : Moves R (sleep duration) := fun _ => Traced.same ⟨rfl, rfl⟩

lemma count {f : World → ConnectionTelemetry → ConnectionTelemetry}
    (hf : ∀ u t, (f u t).status = t.status) : Moves R (updateTelemetry f) :=
  fun w => wp_imp (count_account hf w) fun _ _ h => Traced.same h

lemma lift {α : Type} (x : Except Panic α) : Moves R (StateT.lift x : Task α) := by
  intro w
  cases x with
  | error panic => exact trivial
  | ok a => exact Traced.same (.refl w)

lemma swapAutoReadDirty (dirty : Bool) : Moves R (swapAutoReadDirty dirty) := by
  intro w
  obtain ⟨account, stream⟩ := SameAccount.interleave w
  exact Traced.same ⟨account, stream⟩

lemma getCurrentState : Moves R getCurrentState :=
  Traced.bind Traced.readTelemetry fun _ => Traced.pure _

lemma sendPushMask (connTimeout : Duration) : Moves R (sendPushMask connTimeout) := by
  refine Traced.bind Traced.readState fun _ => Traced.bind Traced.readConfig fun _ => ?_
  refine Traced.bind (Traced.exchange _ _ _ _ _) fun r => ?_
  cases r with
  | error e => exact Traced.pure _
  | ok response =>
    refine Traced.bind Traced.readConfig fun _ => Traced.bind (Traced.lift _) fun report => ?_
    exact Traced.bind (Traced.report rfl rfl) fun _ => Traced.pure _

lemma tickPushMask (status : ConnectionStatus) : Moves R (tickPushMask status) := by
  refine Moves.ite (Traced.bind (Traced.swapAutoReadDirty false) fun dirty => ?_) (Traced.pure _)
  refine Moves.ite (Traced.bind Traced.readConfig fun _ => ?_) (Traced.pure _)
  refine Traced.bind (Traced.sendPushMask _) fun r => ?_
  cases r with
  | ok _ => exact Traced.pure _
  | error e => exact Traced.bind (Traced.swapAutoReadDirty true) fun _ => Traced.pure _

lemma exchangeStandard (data : Frame) (writeTimeout readTimeout : Duration) (createdAt : Instant)
    (maxQueueTime : Duration) :
    Moves R (handleMessageInternal
      (.exchangeStandard data writeTimeout readTimeout createdAt maxQueueTime)) := by
  refine Traced.bind Traced.getCurrentState fun _ => Moves.ite (Traced.pure _) ?_
  refine Traced.bind (Traced.elapsedSince _) fun _ => Moves.ite (Traced.pure _) ?_
  exact Traced.bind (Traced.exchange _ _ _ _ _) fun _ => Traced.pure _

lemma exchangePriority (data : Frame) (writeTimeout readTimeout : Duration) :
    Moves R (handleMessageInternal (.exchangePriority data writeTimeout readTimeout)) := by
  refine Traced.bind Traced.getCurrentState fun _ => Moves.ite (Traced.pure _) ?_
  exact Traced.bind (Traced.exchange _ _ _ _ _) fun _ => Traced.pure _

end Traced

/-- Up to its branch an iteration takes nothing but a frame it abandons. -/
lemma beforeBranch_account {turn : Turn} {w : World} (keeps : abandons turn w = false) :
    IfEnds (beforeBranch turn) (fun _ w' => SameAccount (w.receive turn) w') w := by
  have looked := SameAccount.interleave (w.receive turn)
  simp only [beforeBranch, pushEnabled, getCurrentState, IfEnds, wp_bind, wp_modify, wp_readConfig,
    wp_get, wp_pure, wp_ite, wp_readTelemetry]
  constructor
  · intro attached
    have read := looked.trans (.interleave _)
    have account := read.account
    simp only [World.account, Prod.mk.injEq] at account
    obtain ⟨reads, -, status, -⟩ := account
    cases hdrop : ((w.receive turn).interleave.interleave.telemetry.status.state == .connected &&
        turn.pushAbandoned && turn.branch != .push) with
    | false => exact read
    | true =>
      have held : forwarded turn.reads = false := by
        rw [status] at hdrop
        change (w.connectionState == .connected && turn.pushAbandoned && turn.branch != .push) =
          true at hdrop
        have stream : w.stream.isSome = true := looked.stream ▸ attached
        simpa only [abandons, stream, Bool.true_and, hdrop] using keeps
      simp only [runIf, if_true, abandonPush, wp_bind, wp_get, wp_ite, wp_pure, reads]
      constructor
      · intro forward
        exact absurd (forward.symm.trans held) (by decide)
      · intro _
        exact read
  · intro _
    exact looked

section Runs
variable {γ : Type}

/-- Every iteration of the loop starts as `ok` says. -/
def EveryTurn (ok : Turn → World → Prop) : List Turn → World → Prop
  | [], _ => True
  | turn :: turns, w =>
    ok turn w ∧ ∀ w', (runLoopTurn turn).run w = .ok ((), w') → EveryTurn ok turns w'

instance decidableEveryTurn {ok : Turn → World → Prop} [∀ turn w, Decidable (ok turn w)] :
    (turns : List Turn) → (w : World) → Decidable (EveryTurn ok turns w)
  | [], _ => isTrue trivial
  | turn :: turns, w =>
    have : ∀ w', Decidable (EveryTurn ok turns w') := decidableEveryTurn turns
    have : Decidable (∀ w', (runLoopTurn turn).run w = .ok ((), w') → EveryTurn ok turns w') :=
      decidable_of_iff (IfEnds (runLoopTurn turn) (fun _ w' => EveryTurn ok turns w') w)
        (ifEnds_iff.trans ⟨fun every w' => every () w', fun every _ w' => every w'⟩)
    inferInstanceAs (Decidable (_ ∧ _))

/-- What a history amounts to, for what one iteration adds to it. -/
def alongLoop (next : Turn → World → γ → γ) : List Turn → World → γ → γ
  | [], _, history => history
  | turn :: turns, w, history =>
    match (runLoopTurn turn).run w with
    | .ok (_, w') => alongLoop next turns w' (next turn w history)
    | .error _ => next turn w history

/-- What one iteration keeps true of the history so far, the loop keeps. -/
lemma runLoop_along {ok : Turn → World → Prop} {next : Turn → World → γ → γ}
    {I : γ → World → Prop}
    (step : ∀ turn w history, ok turn w → I history w →
      IfEnds (runLoopTurn turn) (fun _ w' => I (next turn w history) w') w)
    (turns : List Turn) {w : World} {history : γ} (every : EveryTurn ok turns w)
    (h : I history w) :
    IfEnds (runLoop turns) (fun _ w' => I (alongLoop next turns w history) w') w := by
  induction turns generalizing w history with
  | nil => exact h
  | cons turn turns ih =>
    have stepped := step turn w history every.1 h
    rw [runLoop, IfEnds, wp_bind]
    cases hrun : (runLoopTurn turn).run w with
    | error e => exact (wp_of_error hrun).mpr trivial
    | ok out =>
      have rest := ih (every.2 out.2 hrun) ((wp_of_ok hrun).mp stepped)
      refine (wp_of_ok hrun).mpr ?_
      simp only [alongLoop, hrun]
      exact rest

/-- An iteration whose waits are over at once, with these answers; other tasks do nothing. -/
def promptTurn (branch : Branch) (sends : List SendOutcome) (reads : List ReadOutcome) : Turn where
  waited := 0
  opens := [⟨0, .opened⟩]
  sends := sends.map (⟨0, ·⟩)
  reads := reads.map (⟨0, ·⟩)
  outside := []
  pushAbandoned := false
  branch := branch

/-- A first iteration whose handshake succeeds. -/
def connectingTurn : Turn :=
  promptTurn .tick [.sent, .sent]
    [.frame (0x7C :: List.replicate 12 0x30), .frame (0x7E :: List.replicate 14 0x30)]

end Runs

end SatelIntegra
