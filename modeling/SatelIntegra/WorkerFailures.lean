import SatelIntegra.WorkerAttempts
import SatelIntegra.WorkerLedger

/-!
# How failures are counted

A failed attempt and a lost session are one failure each. `connection_lost` counts
one wherever it is called, but an attempt whose transport breaks during an exchange
calls it twice, once in the exchange and once where the error is handled, and an
attempt that gets a reply it cannot use does not call it at all.
-/

namespace SatelIntegra

open CheckedAccess ProgramLogic SatelConnectionWorker

/-- The states entered between `w` and `w'`, as reported to the state worker. -/
def Reports (w : World) (states : List ConnectionState) (w' : World) : Prop :=
  ∃ taken sent, Reported taken sent w w' ∧ statuses sent = states

namespace Reports
variable {w w' w'' : World} {states states' : List ConnectionState}

lemma trans (h : Reports w states w') (h' : Reports w' states' w'') :
    Reports w (states ++ states') w'' := by
  obtain ⟨taken, sent, reported, rfl⟩ := h
  obtain ⟨taken', sent', reported', rfl⟩ := h'
  exact ⟨_, _, reported.trans reported', statuses_append sent sent'⟩

lemma same (h : w'.account = w.account) : Reports w [] w' :=
  ⟨[], [], (Ledger.quiet h).toReported, rfl⟩

lemma same_trans (h : w'.account = w.account) (h' : Reports w' states w'') :
    Reports w states w'' := (same h).trans h'

lemma trans_same (h : Reports w states w') (h' : w''.account = w'.account) :
    Reports w states w'' := by
  simpa using h.trans (same h')

lemma interleave (w : World) : Reports w [] w.interleave := same (interleave_account w)

lemma lose (w : World) : Reports w [.connectionLost] w.lose :=
  ⟨[], [.statusChanged .connectionLost], (Ledger.lose w).toReported, rfl⟩

end Reports

section Attempts

/-- An attempt up to its handshake. -/
def openTransport : Task (Except SatelError Duration) := do
  setStateConnecting
  let connTimeout := millis (← readConfig).readTimeoutMs.toNat
  let _ ← swapAutoReadDirty false
  match ← connectPhysical connTimeout with
  | .error e => return .error e
  | .ok stream =>
    modify fun w => { w with stream := some stream }
    setStateHandshake
    sleep (millis 200)
    return .ok connTimeout

lemma connect_eq :
    connect = openTransport >>= fun opened =>
      match opened with
      | .error e => do
        connectionLost
        return .error e
      | .ok connTimeout => connectOpened connTimeout := by
  simp only [connect, openTransport, bind_assoc]
  refine congrArg (setStateConnecting >>= ·) (funext fun _ => ?_)
  refine congrArg (readConfig >>= ·) (funext fun config => ?_)
  refine congrArg (swapAutoReadDirty false >>= ·) (funext fun _ => ?_)
  refine congrArg (connectPhysical _ >>= ·) (funext fun r => ?_)
  cases r with
  | error e => rfl
  | ok stream => simp only [bind_assoc, pure_bind]

lemma openTransport_reports (w : World) :
    IfEnds openTransport
      (fun r w' =>
        (∃ e, r = .error e ∧ Reports w [.connecting] w') ∨
          ∃ connTimeout, r = .ok connTimeout ∧ Reports w [.connecting, .handshake] w' ∧
            w'.stream.isSome) w := by
  rw [openTransport, IfEnds, wp_bind]
  refine wp_imp (setStateConnecting_ledger w) fun _ w₁ entered => ?_
  have h₁ : Reports w [.connecting] w₁ := ⟨_, _, entered.toReported, rfl⟩
  simp only [wp_bind, wp_readConfig, wp_swapAutoReadDirty]
  refine wp_imp (connectPhysical_account _ _) fun r w₂ h₂ => ?_
  have looked := (SameAccount.interleave w₁).trans (.interleave _)
  have prepared : Reports w [.connecting] w₂ := h₁.trans_same (h₂.account.trans looked.account)
  cases r with
  | error e => exact .inl ⟨e, rfl, prepared⟩
  | ok stream =>
    simp only [wp_bind, wp_modify, wp_sleep, wp_pure]
    refine wp_imp (setStateHandshake_ledger _) ?_
    rintro _ w₃ ⟨entered, attached⟩
    have opened : Reports w [.connecting] { w₂ with stream := some stream } :=
      prepared.trans_same rfl
    have h₃ := opened.trans ⟨_, _, entered.toReported, rfl⟩
    exact .inr ⟨_, rfl, h₃.trans_same rfl, attached⟩

/-- An exchange reports a loss if the transport breaks, and nothing else. -/
lemma exchange_reports (data : Frame) (expectedCmd : UInt8) (writeTimeout readTimeout : Duration)
    (isPing : Bool) (w : World) :
    IfEnds (exchange data expectedCmd writeTimeout readTimeout isPing)
      (fun r w' =>
        if w.breaks expectedCmd readTimeout then
          Reports w [.connectionLost] w' ∧ w.stream.isSome ∧ w'.stream = none ∧
            ∃ e, r = .error e ∧ e ≠ .timeout
        else Reports w [] w' ∧ w'.stream.isSome = w.stream.isSome ∧
          (r = .error .timeout → w.stream.isSome)) w := by
  refine wp_imp (exchange_ledger data expectedCmd writeTimeout readTimeout isPing w) ?_
  rintro r w' ⟨timeout, taken, sent, h⟩
  cases hbreaks : w.breaks expectedCmd readTimeout with
  | true =>
    obtain ⟨states, stream, error⟩ := h.broken hbreaks
    have attached : w.stream.isSome := (Bool.and_eq_true_iff.mp hbreaks).1
    exact ⟨⟨_, _, h.ledger.toReported, states⟩, attached, stream, error⟩
  | false =>
    obtain ⟨states, stream⟩ := h.kept hbreaks
    exact ⟨⟨_, _, h.ledger.toReported, states⟩, stream, timeout⟩

lemma notify_reports {msg : StateWorkerMessage} (hmsg : msg.status? = none) (w : World) :
    IfEnds (notifyStateWorker msg)
      (fun _ w' => Reports w [] w' ∧ w'.stream.isSome = w.stream.isSome) w := by
  refine ⟨⟨[], [msg], ⟨rfl, rfl, ?_, ?_⟩, ?_⟩, rfl⟩
  · simp [statuses, hmsg]
  · simp [statuses, hmsg]
  · simp [statuses, hmsg]

/-- A query whose transport holds reports a loss if no reply comes. -/
lemma queryVersion_reports {ν : Type} (command : SatelCommand) (expectedCmd : UInt8)
    (process : Frame → LocalTime → Parsed ν) (message : ν → StateWorkerMessage)
    (hmessage : ∀ version, (message version).status? = none) (connTimeout : Duration) {w : World}
    (hstream : w.stream.isSome) (whole : w.breaks expectedCmd connTimeout = false) :
    IfEnds (queryVersion command expectedCmd process message connTimeout)
      (fun _ w' =>
        match exchangeReply expectedCmd connTimeout w.sends w.reads with
        | none => Reports w [.connectionLost] w'
        | some _ => Reports w [] w') w := by
  have exchanged := exchange_ends [command.toByte] expectedCmd connTimeout connTimeout false w
  have reports := exchange_reports [command.toByte] expectedCmd connTimeout connTimeout false w
  simp only [hstream, if_true] at exchanged
  simp only [whole, Bool.false_eq_true, if_false] at reports
  rw [queryVersion, IfEnds, wp_bind]
  refine wp_imp (ifEnds_and reports exchanged.ifEnds) ?_
  rintro r w₁ ⟨⟨quiet, -⟩, h⟩
  cases hreply : exchangeReply expectedCmd connTimeout w.sends w.reads with
  | none =>
    rw [hreply] at h
    obtain ⟨⟨e, rfl⟩, -⟩ := h
    simp only [wp_bind, wp_connectionLost, wp_pure]
    exact quiet.trans (.lose w₁)
  | some found =>
    obtain ⟨frame, sends, reads⟩ := found
    rw [hreply] at h
    obtain ⟨rfl, -⟩ := h
    have parsed := quiet.trans (.interleave w₁)
    simp only [wp_bind, wp_localNow]
    cases (process frame w₁.interleave.wall).run with
    | error panic => exact trivial
    | ok result =>
      cases result with
      | error e => exact parsed
      | ok version =>
        simp only [wp_lift_ok, wp_bind, wp_pure]
        refine wp_imp (notify_reports (hmessage version) _) ?_
        rintro _ w₂ ⟨sent, -⟩
        exact parsed.trans sent

/-- The handshake's replies are usable, and the transport holds until the last of them. -/
def handshakeHolds (connTimeout : Duration) (sends : List (Answer SendOutcome))
    (reads : List (Answer ReadOutcome)) : Bool :=
  !exchangeBreaks 0x7C connTimeout sends reads &&
    match exchangeReply 0x7C connTimeout sends reads with
    | none => true
    | some (frame, sends, reads) =>
      isEthmVersion frame && !exchangeBreaks 0x7E connTimeout sends reads &&
        match exchangeReply 0x7E connTimeout sends reads with
        | none => true
        | some (frame, _, _) => isIntegraVersion frame

lemma connectHandshake_reports (connTimeout : Duration) {w : World} (hstream : w.stream.isSome)
    (holds : handshakeHolds connTimeout w.sends w.reads) :
    IfEnds (connectHandshake connTimeout)
      (fun r w' =>
        (r = .ok () ∧ Reports w [] w' ∧ w'.stream.isSome) ∨
          ((∃ e, r = .error e) ∧ Reports w [.connectionLost] w')) w := by
  unfold handshakeHolds at holds
  have whole : w.breaks 0x7C connTimeout = false := by
    simp only [Bool.and_eq_true, Bool.not_eq_true'] at holds
    simp only [World.breaks, hstream, holds.1, Bool.and_false]
  have ends := queryVersion_ends .moduleVersion 0x7C processEthmVersion_eq .ethmVersion
    connTimeout w hstream
  have reports := queryVersion_reports .moduleVersion 0x7C processEthmVersion .ethmVersion
    (fun _ => rfl) connTimeout hstream whole
  rw [connectHandshake, IfEnds, wp_bind]
  refine wp_imp (ifEnds_and reports ends.ifEnds) ?_
  rintro r w₁ ⟨states, h⟩
  cases hethm : exchangeReply 0x7C connTimeout w.sends w.reads with
  | none =>
    rw [hethm] at h states
    obtain ⟨⟨e, rfl⟩, -⟩ := h
    exact .inr ⟨⟨e, rfl⟩, states⟩
  | some found =>
    obtain ⟨frame, sends, reads⟩ := found
    rw [hethm] at h states holds
    obtain ⟨hr, -, attached, hsends, hreads⟩ := h
    simp only [Bool.and_eq_true, Bool.not_eq_true'] at holds
    obtain ⟨-, ⟨usable, whole₁⟩, holds⟩ := holds
    rw [if_pos usable] at hr
    subst hr
    have whole₁ : w₁.breaks 0x7E connTimeout = false := by
      simp only [World.breaks, attached, hsends, hreads, whole₁, Bool.and_false]
    have ends := queryVersion_ends .integraVersion 0x7E processIntegraVersion_eq .integraVersion
      connTimeout w₁ attached
    have reports := queryVersion_reports .integraVersion 0x7E processIntegraVersion
      .integraVersion (fun _ => rfl) connTimeout attached whole₁
    rw [hsends, hreads] at ends reports
    rw [wp_bind]
    refine wp_imp (ifEnds_and reports ends.ifEnds) ?_
    rintro r w₂ ⟨states₂, h⟩
    cases hintegra : exchangeReply 0x7E connTimeout sends reads with
    | none =>
      rw [hintegra] at h states₂
      obtain ⟨⟨e, rfl⟩, -⟩ := h
      exact .inr ⟨⟨e, rfl⟩, states.trans states₂⟩
    | some found =>
      obtain ⟨frame₂, sends₂, reads₂⟩ := found
      rw [hintegra] at h states₂ holds
      obtain ⟨hr, -, attached₂, -, -⟩ := h
      rw [if_pos holds] at hr
      subst hr
      exact .inl ⟨rfl, (states.trans states₂).trans_same rfl, attached₂⟩

@[simp] lemma interleave_breaks (expectedCmd : UInt8) (readTimeout : Duration) (w : World) :
    w.interleave.breaks expectedCmd readTimeout = w.breaks expectedCmd readTimeout := by
  simp only [World.breaks, (SameAccount.interleave w).stream, interleave_sends, interleave_reads]

lemma sendPushMask_reports (connTimeout : Duration) (w : World) :
    IfEnds (sendPushMask connTimeout)
      (fun r w' =>
        if w.breaks 0x7F connTimeout then
          Reports w [.connectionLost] w' ∧ w.stream.isSome ∧ w'.stream = none ∧ ∃ e, r = .error e
        else Reports w [] w' ∧ w'.stream.isSome = w.stream.isSome) w := by
  simp only [sendPushMask, IfEnds, wp_bind, wp_readState, wp_readConfig]
  have looked := (SameAccount.interleave w).trans (.interleave _)
  refine wp_imp (exchange_reports _ _ _ _ _ _) fun r w₁ h => ?_
  simp only [interleave_breaks] at h
  split at h
  case isTrue breaks =>
    obtain ⟨states, attached, stream, e, rfl, -⟩ := h
    simp only [wp_pure, if_pos breaks]
    exact ⟨.same_trans looked.account states, looked.stream ▸ attached, stream, e, rfl⟩
  case isFalse whole =>
    obtain ⟨states, stream, -⟩ := h
    have states := Reports.same_trans looked.account states
    have stream := stream.trans looked.stream
    cases r with
    | error e =>
      simp only [wp_pure, whole]
      exact ⟨states, stream⟩
    | ok response =>
      simp only [wp_bind, wp_readConfig]
      have looked₁ := SameAccount.interleave w₁
      cases processAutoReadResponse w₁.interleave.config
          ((Option.map (fun v => v.capabilities.support8TroublesGroups)
            w.interleave.state.ethmVersion).getD false) response with
      | error panic => exact trivial
      | ok report =>
        simp only [wp_lift_ok]
        refine wp_imp (notify_reports rfl _) ?_
        rintro _ w₂ ⟨sent, stream₂⟩
        simp only [wp_pure, whole]
        exact ⟨(states.trans_same looked₁.account).trans sent,
          (stream₂.trans looked₁.stream).trans stream⟩

lemma connectAutoReadIfEnabled_reports (connTimeout : Duration) {w : World}
    (whole : w.interleave.config.isAutoReadEnabled = true →
      exchangeBreaks 0x7F connTimeout w.sends w.reads = false) :
    IfEnds (connectAutoReadIfEnabled connTimeout)
      (fun r w' =>
        (r = .ok () ∧ Reports w [] w') ∨ ((∃ e, r = .error e) ∧ Reports w [.connectionLost] w'))
      w := by
  simp only [connectAutoReadIfEnabled, connectAutoRead, IfEnds, wp_bind, wp_readConfig, wp_ite,
    wp_pure]
  have looked := SameAccount.interleave w
  constructor
  · intro enabled
    have whole : w.interleave.breaks 0x7F connTimeout = false := by
      rw [interleave_breaks, World.breaks, whole enabled, Bool.and_false]
    refine wp_imp (sendPushMask_reports connTimeout _) fun r w₁ h => ?_
    simp only [whole, Bool.false_eq_true, if_false] at h
    have states := Reports.same_trans looked.account h.1
    cases r with
    | ok _ => exact .inl ⟨rfl, states⟩
    | error e =>
      simp only [wp_bind, wp_connectionLost, wp_pure]
      exact .inr ⟨⟨e, rfl⟩, states.trans (.lose w₁)⟩
  · intro _
    exact .inl ⟨trivial, .same looked.account⟩

/-- The transport of the attempt holds through its exchanges, and the replies are usable. -/
def CountedOnce (w : World) : Prop :=
  IfEnds openTransport
    (fun opened u => ∀ connTimeout, opened = .ok connTimeout →
      handshakeHolds connTimeout u.sends u.reads = true ∧
        IfEnds (connectHandshake connTimeout)
          (fun r v => r = .ok () → v.interleave.config.isAutoReadEnabled = true →
            exchangeBreaks 0x7F connTimeout v.sends v.reads = false) u) w

instance decidableIfOk {α : Type} (r : Except SatelError α) (p : α → Prop)
    [∀ a, Decidable (p a)] : Decidable (∀ a, r = .ok a → p a) :=
  match r with
  | .ok a => decidable_of_iff (p a) ⟨fun h _ same => Except.ok.inj same ▸ h, fun h => h a rfl⟩
  | .error _ => isTrue nofun

instance (w : World) : Decidable (CountedOnce w) := by
  unfold CountedOnce
  infer_instance

/-- How an attempt shows that was counted once. -/
inductive AttemptReport : Except SatelError Unit → List ConnectionState → Prop where
  | connected : AttemptReport (.ok ()) [.connecting, .handshake, .connected]
  | closed (e : SatelError) : AttemptReport (.error e) [.connecting, .connectionLost]
  | gaveUp (e : SatelError) : AttemptReport (.error e) [.connecting, .handshake, .connectionLost]

lemma connect_reports {w : World} (once : CountedOnce w) :
    IfEnds connect (fun r w' => ∃ states, AttemptReport r states ∧ Reports w states w') w := by
  rw [connect_eq, IfEnds, wp_bind]
  refine wp_imp (ifEnds_and once (openTransport_reports w)) ?_
  rintro opened w₁ ⟨holds, ⟨e, rfl, states⟩ | ⟨connTimeout, rfl, states, attached⟩⟩
  · simp only [wp_bind, wp_connectionLost, wp_pure]
    exact ⟨_, .closed e, states.trans (.lose w₁)⟩
  · obtain ⟨holds, enabled⟩ := holds connTimeout rfl
    simp only [connectOpened, wp_bind]
    refine wp_imp (ifEnds_and enabled (connectHandshake_reports connTimeout attached holds)) ?_
    rintro r w₂ ⟨whole, ⟨rfl, states₂, attached₂⟩ | ⟨⟨e, rfl⟩, states₂⟩⟩
    · simp only [wp_bind]
      refine wp_imp (connectAutoReadIfEnabled_reports connTimeout (whole rfl)) ?_
      rintro r w₃ (⟨rfl, states₃⟩ | ⟨⟨e, rfl⟩, states₃⟩)
      · simp only [wp_bind]
        refine wp_imp (setStateConnected_ledger w₃) fun _ w₄ entered => ?_
        have states₄ : Reports w₃ [.connected] w₄ := ⟨_, _, entered.toReported, rfl⟩
        exact ⟨_, .connected, ((states.trans states₂).trans states₃).trans states₄⟩
      · exact ⟨_, .gaveUp e, (states.trans states₂).trans states₃⟩
    · exact ⟨_, .gaveUp e, states.trans states₂⟩

end Attempts

section Sessions

/-- The connection was left as it was, or there was one and it was lost, which was reported. -/
def Slips (w w' : World) : Prop :=
  (Reports w [] w' ∧ w'.stream.isSome = w.stream.isSome) ∨
    (Reports w [.connectionLost] w' ∧ w.stream.isSome ∧ w'.stream = none)

lemma Slips.trans (w w' w'' : World) (h : Slips w w') (h' : Slips w' w'') : Slips w w'' := by
  rcases h with ⟨states, stream⟩ | ⟨states, attached, gone⟩
  · rcases h' with ⟨states', stream'⟩ | ⟨states', attached', gone'⟩
    · exact .inl ⟨states.trans states', stream'.trans stream⟩
    · exact .inr ⟨states.trans states', stream ▸ attached', gone'⟩
  · rcases h' with ⟨states', stream'⟩ | ⟨states', attached', gone'⟩
    · rw [gone] at stream'
      exact .inr ⟨states.trans states', attached, Option.not_isSome_iff_eq_none.mp (by simp [stream'])⟩
    · rw [gone] at attached'
      exact absurd attached' (by decide)

lemma Slips.same {w w' : World} (h : SameAccount w w') : Slips w w' :=
  .inl ⟨.same h.account, h.stream⟩

instance traced_slips : Traced Slips where
  trans := Slips.trans
  same h := .same h
  report hstatus _ w := wp_imp (notify_reports hstatus w) fun _ _ h => .inl h
  exchange data expectedCmd writeTimeout readTimeout isPing w := by
    refine wp_imp (exchange_reports data expectedCmd writeTimeout readTimeout isPing w) ?_
    intro r w' h
    split at h
    · exact .inr ⟨h.1, h.2.1, h.2.2.1⟩
    · exact .inl ⟨h.1, h.2.1⟩

/-- Missed pings are not reported. -/
lemma Reports.pings (w : World) (n : UInt32) :
    Reports w [] { w with consecutiveMissedPings := n } :=
  ⟨[], [], ⟨rfl, by simp, rfl, rfl⟩, rfl⟩

lemma handlePingTimeout_reports (w : World) :
    IfEnds handlePingTimeout
      (fun _ w' => Reports w [] w' ∧ w'.stream.isSome = w.stream.isSome) w := by
  simp only [handlePingTimeout, IfEnds, wp_bind, wp_modify, wp_readConfig, wp_get, wp_pure]
  let u : World := { w with consecutiveMissedPings := saturatingSucc w.consecutiveMissedPings }
  have counted : Reports w [] u := .pings w _
  obtain ⟨account, stream⟩ := SameAccount.interleave u
  exact ⟨counted.trans_same account, stream⟩

/-- Only a ping that was sent can be missed. -/
lemma slips_tickPing (status : ConnectionStatus) : Moves Slips (tickPing status) := by
  refine Traced.bind Traced.readTelemetry fun _ => Moves.ite ?_ (Traced.pure _)
  refine Traced.bind (Traced.elapsedSince _) fun _ => Moves.ite ?_ (Traced.pure _)
  intro w
  rw [IfEnds, wp_bind]
  refine wp_imp (exchange_reports _ _ _ _ _ w) fun r w₁ h => ?_
  split at h
  case isTrue =>
    obtain ⟨states, attached, gone, e, rfl, notTimeout⟩ := h
    cases e with
    | timeout => exact absurd rfl notTimeout
    | _ => exact .inr ⟨states, attached, gone⟩
  case isFalse =>
    obtain ⟨states, stream, attached⟩ := h
    rcases r with e | frame
    · cases e with
      | timeout =>
        simp only [wp_bind, wp_ite, wp_connectionLost, wp_pure]
        refine wp_imp (handlePingTimeout_reports w₁) ?_
        rintro declared w₂ ⟨counted, stream₂⟩
        constructor
        · intro _
          have lost := (states.trans counted).trans (.lose w₂)
          exact .inr ⟨lost, attached rfl, (gaveUp_lose w₂).2⟩
        · intro _
          exact .inl ⟨states.trans counted, stream₂.trans stream⟩
      | _ => exact .inl ⟨states, stream⟩
    · exact .inl ⟨states, stream⟩

lemma takePush_reports (w : World) :
    IfEnds takePush
      (fun r w' => Reports w [] w' ∧ w'.stream.isSome = w.stream.isSome ∧
        ((∃ e, r = .error e) → w.stream.isSome)) w := by
  refine wp_imp (takePush_ledger w) ?_
  rintro r w' ⟨pushed, stream⟩
  cases pushed with
  | @frame _ answer _ _ reads _ account =>
    simp only [World.account, Prod.mk.injEq] at account
    obtain ⟨-, log, status, -⟩ := account
    refine ⟨⟨[answer], [], ⟨reads, by simp [log], ?_, ?_⟩, rfl⟩, stream, ?_⟩
    · exact congrArg ConnectionStatus.state status
    · exact congrArg ConnectionStatus.failedAttempts status
    · rintro ⟨e, he⟩
      cases he
  | nothing _ ledger =>
    refine ⟨⟨_, _, ledger.toReported, rfl⟩, stream, ?_⟩
    rintro ⟨e, he⟩
    cases he
  | failed e _ ledger attached => exact ⟨⟨_, _, ledger.toReported, rfl⟩, stream, fun _ => attached⟩

lemma slips_resetMissedPings : Moves Slips resetMissedPings := fun w => .inl ⟨.pings w 0, rfl⟩

lemma slips_pushBranch : Moves Slips pushBranch := by
  intro w
  simp only [pushBranch, receivePushInternal, bind_assoc, IfEnds, wp_bind]
  refine wp_imp (takePush_reports w) ?_
  rintro r w₁ ⟨states, stream, attached⟩
  have taken : Slips w w₁ := .inl ⟨states, stream⟩
  rcases r with e | ⟨received, _ | frame⟩
  · simp only [wp_pure, wp_connectionLost]
    exact .inr ⟨states.trans (.lose w₁), attached ⟨e, rfl⟩, (gaveUp_lose w₁).2⟩
  · simp only [wp_pure]
    cases received with
    | false => exact taken
    | true => exact wp_imp (slips_resetMissedPings w₁) fun _ w₂ h₂ => taken.trans w w₁ w₂ h₂
  · simp only [wp_bind, wp_pure]
    refine wp_imp (notify_reports rfl w₁) fun _ w₂ sent => ?_
    have taken := taken.trans w w₁ w₂ (.inl sent)
    cases received with
    | false => exact taken
    | true => exact wp_imp (slips_resetMissedPings w₂) fun _ w₃ h₃ => taken.trans w w₂ w₃ h₃

lemma beforeBranch_reports (turn : Turn) (w : World) :
    IfEnds (beforeBranch turn)
      (fun _ w' => Reports (w.receive turn) [] w' ∧ w'.stream.isSome = w.stream.isSome) w := by
  have looked := SameAccount.interleave (w.receive turn)
  simp only [beforeBranch, pushEnabled, getCurrentState, IfEnds, wp_bind, wp_modify, wp_readConfig,
    wp_get, wp_pure, wp_ite, wp_readTelemetry]
  have abandoned (c : Bool) (u : World) (hu : SameAccount (w.receive turn) u) :
      wp (runIf c abandonPush)
        (fun _ w' => Reports (w.receive turn) [] w' ∧ w'.stream.isSome = w.stream.isSome)
        (fun _ => True) u := by
    cases c with
    | false => exact ⟨.same hu.account, hu.stream⟩
    | true =>
      simp only [runIf, if_true, abandonPush, wp_bind, wp_get, wp_ite, wp_pure]
      constructor
      · intro _
        refine wp_imp (takePush_reports u) ?_
        rintro _ w' ⟨states, stream, -⟩
        exact ⟨.same_trans hu.account states, stream.trans hu.stream⟩
      · intro _
        exact ⟨.same hu.account, hu.stream⟩
  constructor
  · intro _
    exact abandoned _ _ (looked.trans (.interleave _))
  · intro _
    exact abandoned _ _ looked

lemma slips_reconnectDue (shouldReconnect : Bool) (status : ConnectionStatus) :
    Moves Slips (reconnectDue shouldReconnect status) := by
  refine Moves.ite (Traced.bind (Traced.elapsedSince _) fun _ => ?_) (Traced.pure _)
  refine Traced.bind
    (Traced.bind Traced.readTelemetry fun _ => Traced.pure _) fun _ => ?_
  refine Moves.ite (Traced.bind ?_ fun _ => Traced.pure _) (Traced.pure _)
  exact Traced.count fun _ _ => rfl

/-- What is reported before an attempt: nothing, the end of a session, or a disconnect. -/
lemma branch_reports (shouldReconnect enabled : Bool) (branch : Branch) {w : World}
    (settled : branch = .tick → w.connectionState.settled) :
    IfEnds (branchBeforeAttempt shouldReconnect enabled branch)
      (fun _ w' => Slips w w' ∨
        (w.connectionState ≠ .disconnected ∧ Reports w [.disconnected] w')) w := by
  have slips {x : Task Bool} (hx : Moves Slips x) :
      IfEnds x (fun _ w' => Slips w w' ∨
        (w.connectionState ≠ .disconnected ∧ Reports w [.disconnected] w')) w :=
    wp_imp (hx w) fun _ _ h => .inl h
  have unit {x : Task Unit} (hx : Moves Slips x) : Moves Slips (do x; return false) :=
    Traced.bind hx fun _ => Traced.pure _
  cases branch with
  | push =>
    refine slips (unit ?_)
    exact Moves.ite slips_pushBranch (Traced.pure _)
  | tick =>
    have watched : w.interleave.telemetry.status.state.settled := by
      rw [interleave_status]
      exact settled rfl
    have rest (status : ConnectionStatus) : Moves Slips (do
        tickPushMask status
        tickPing status
        reconnectDue shouldReconnect status) :=
      Traced.bind (Traced.tickPushMask status) fun _ =>
        Traced.bind (slips_tickPing status) fun _ => slips_reconnectDue shouldReconnect status
    simp only [branchBeforeAttempt, tickBeforeAttempt]
    rw [IfEnds, wp_bind, wp_readTelemetry, tickWatchdog_settled watched, pure_bind]
    refine wp_imp (rest _ w.interleave) fun _ w' h => ?_
    exact .inl (Slips.trans w w.interleave w' (.same (.interleave w)) h)
  | message msg =>
    cases msg with
    | connect => exact slips (Traced.bind Traced.getCurrentState fun _ => Traced.pure _)
    | disconnect =>
      have looked := SameAccount.interleave w
      have state : w.interleave.telemetry.status.state = w.connectionState := by
        rw [interleave_status]
      simp only [branchBeforeAttempt, runBranch, handleMessageInternal, getCurrentState, IfEnds,
        wp_bind, wp_readTelemetry, wp_pure, wp_ite]
      constructor
      · intro _
        exact .inl (.same looked)
      · intro connected
        refine wp_imp (disconnect_ledger w.interleave) fun _ w' entered => ?_
        have h : Reports w.interleave [.disconnected] w' := ⟨_, _, entered.toReported, rfl⟩
        exact .inr ⟨state ▸ connected, .same_trans looked.account h⟩
    | exchangeStandard data writeTimeout readTimeout createdAt maxQueueTime =>
      refine slips (unit (Traced.bind ?_ fun _ => Traced.pure _))
      exact Traced.exchangeStandard data writeTimeout readTimeout createdAt maxQueueTime
    | exchangePriority data writeTimeout readTimeout =>
      refine slips (unit (Traced.bind ?_ fun _ => Traced.pure _))
      exact Traced.exchangePriority data writeTimeout readTimeout

end Sessions

section Counting

/-- Failures since the last connection or disconnect, and in all. -/
structure FailureCount where
  recent : Nat
  total : Nat
  deriving DecidableEq

def FailureCount.fail (n : FailureCount) : FailureCount := ⟨n.recent + 1, n.total + 1⟩

def FailureCount.clear (n : FailureCount) : FailureCount := ⟨0, n.total⟩

/-- A session was lost between `w` and `u`, or a client disconnected. -/
def afterSession (w u : World) (n : FailureCount) : FailureCount :=
  if w.connectionState = .connected ∧ u.connectionState = .connectionLost then n.fail
  else if w.connectionState ≠ .disconnected ∧ u.connectionState = .disconnected then n.clear
  else n

/-- An attempt made at `w` connected or failed. -/
def afterAttempt (w : World) (n : FailureCount) : FailureCount :=
  match connect.run w with
  | .ok (.ok _, _) => n.clear
  | .ok (.error _, _) => n.fail
  | .error _ => n

def failuresTurn (turn : Turn) (w : World) (n : FailureCount) : FailureCount :=
  match (beforeAttempt turn).run w with
  | .ok (true, u) => afterAttempt u (afterSession w u n)
  | .ok (false, u) => afterSession w u n
  | .error _ => n

def failuresRun (first : Turn) (turns : List Turn) (w : World) : FailureCount :=
  match (runConnect first).run w with
  | .ok (_, w') => alongLoop failuresTurn turns w' (afterAttempt (w.receive first) ⟨0, 0⟩)
  | .error _ => afterAttempt (w.receive first) ⟨0, 0⟩

/-- The failure count, and the losses reported to the state worker, are those of `n`. -/
structure CountsFailures (n : FailureCount) (w : World) : Prop where
  failedAttempts : w.telemetry.status.failedAttempts = .ofNat n.recent
  reported : w.stateWorkerTx.map (fun log => (statuses log).count .connectionLost) = some n.total

/-- What the state worker can tell from a report. -/
def FailureCount.report (n : FailureCount) : ConnectionState → FailureCount
  | .connectionLost => n.fail
  | .connected | .disconnected => n.clear
  | .connecting | .handshake => n

variable {n : FailureCount} {w w' : World} {states : List ConnectionState}

lemma report_recent (states : List ConnectionState) (n : FailureCount) :
    states.foldl countFailure (.ofNat n.recent) =
      .ofNat (states.foldl FailureCount.report n).recent := by
  induction states generalizing n with
  | nil => rfl
  | cons state states ih =>
    have one : countFailure (.ofNat n.recent) state = .ofNat (n.report state).recent := by
      cases state with
      | connectionLost => exact (UInt32.ofNat_add n.recent 1).symm
      | _ => rfl
    simp only [List.foldl_cons, one, ih]

lemma report_total (states : List ConnectionState) (n : FailureCount) :
    (states.foldl FailureCount.report n).total = n.total + states.count .connectionLost := by
  induction states generalizing n with
  | nil => rfl
  | cons state states ih =>
    rw [List.foldl_cons, ih]
    cases state with
    | connectionLost =>
      simp only [FailureCount.report, FailureCount.fail, List.count_cons_self]
      omega
    | _ => simp [FailureCount.report, FailureCount.clear]

lemma CountsFailures.reports (h : CountsFailures n w) (reports : Reports w states w') :
    CountsFailures (states.foldl FailureCount.report n) w' := by
  obtain ⟨taken, sent, reported, rfl⟩ := reports
  constructor
  · rw [reported.failures, h.failedAttempts, report_recent]
  · have before := h.reported
    cases hlog : w.stateWorkerTx with
    | none => simp [hlog] at before
    | some log =>
      simp only [hlog, Option.map_some, Option.some.injEq] at before
      rw [reported.log, hlog]
      simp only [Option.map_some, statuses_append, List.count_append, before, report_total]

/-- The state at the end of a report is the last one entered. -/
lemma Reports.state_eq (reports : Reports w states w') :
    w'.connectionState = states.foldl (fun _ state => state) w.connectionState := by
  obtain ⟨taken, sent, reported, rfl⟩ := reports
  exact reported.state

lemma CountsFailures.attempt (h : CountsFailures n w) (once : CountedOnce w) :
    IfEnds connect
      (fun _ w' => CountsFailures (afterAttempt w n) w' ∧ w'.connectionState.settled) w := by
  have reported := connect_reports once
  unfold afterAttempt
  cases hrun : connect.run w with
  | error panic => exact (wp_of_error hrun).mpr trivial
  | ok out =>
    obtain ⟨r, u⟩ := out
    obtain ⟨states, attempt, reports⟩ := (wp_of_ok hrun).mp reported
    refine (wp_of_ok hrun).mpr ?_
    have counted := h.reports reports
    have state := reports.state_eq
    cases attempt with
    | connected => exact ⟨counted, by rw [state]; rfl⟩
    | closed e => exact ⟨counted, by rw [state]; rfl⟩
    | gaveUp e => exact ⟨counted, by rw [state]; rfl⟩

/-- Between attempts only a session has a stream. -/
lemma connected_of_stream {state : ConnectionState} {stream : Bool} (settled : state.settled)
    (attached : Attached state stream) (hstream : stream = true) : state = .connected := by
  subst hstream
  cases state with
  | connected => rfl
  | disconnected => exact absurd (attached.2 (.inl rfl)) (by decide)
  | connectionLost => exact absurd (attached.2 (.inr rfl)) (by decide)
  | connecting => cases settled
  | handshake => cases settled

/-- Up to the attempt: a session that was lost counts, a disconnect clears. -/
lemma CountsFailures.session (h : CountsFailures n w) (settled : w.connectionState.settled)
    (attached : Attached w.connectionState w.stream.isSome) (turn : Turn) :
    IfEnds (beforeAttempt turn)
      (fun _ u => CountsFailures (afterSession w u n) u ∧ u.connectionState.settled) w := by
  rw [beforeAttempt, IfEnds, wp_bind]
  refine wp_imp (beforeBranch_reports turn w) ?_
  rintro ⟨shouldReconnect, enabled⟩ w₁ ⟨states₁, stream₁⟩
  have state₁ : w₁.connectionState = w.connectionState := states₁.state_eq
  have received : CountsFailures n (w.receive turn) := ⟨h.failedAttempts, h.reported⟩
  refine wp_imp (branch_reports shouldReconnect enabled turn.branch fun _ => state₁ ▸ settled) ?_
  rintro started u ((⟨states, -⟩ | ⟨states, attached₁, -⟩) | ⟨connected, states⟩)
  · have counted := received.reports (states₁.trans states)
    have state : u.connectionState = w.connectionState := states.state_eq.trans state₁
    have none : afterSession w u n = n := by
      rw [afterSession, state, if_neg, if_neg]
      · exact fun both => both.1 both.2
      · rintro ⟨connected, lost⟩
        rw [connected] at lost
        cases lost
    rw [none, state]
    exact ⟨counted, settled⟩
  · have counted := received.reports (states₁.trans states)
    have state : u.connectionState = .connectionLost := states.state_eq
    have connected : w.connectionState = .connected :=
      connected_of_stream settled attached (stream₁ ▸ attached₁)
    have lost : afterSession w u n = n.fail := if_pos ⟨connected, state⟩
    rw [lost, state]
    exact ⟨counted, rfl⟩
  · have counted := received.reports (states₁.trans states)
    have state : u.connectionState = .disconnected := states.state_eq
    have clear : afterSession w u n = n.clear := by
      rw [afterSession, state, if_neg, if_pos]
      · exact ⟨state₁ ▸ connected, rfl⟩
      · rintro ⟨-, lost⟩
        cases lost
    rw [clear, state]
    exact ⟨counted, rfl⟩

/-- The attempt an iteration makes, if it makes one, is counted once. -/
def TurnCountedOnce (turn : Turn) (w : World) : Prop :=
  IfEnds (beforeAttempt turn) (fun started u => started = true → CountedOnce u) w

instance (turn : Turn) (w : World) : Decidable (TurnCountedOnce turn w) := by
  unfold TurnCountedOnce
  infer_instance

lemma CountsFailures.turn {turn : Turn} (h : CountsFailures n w)
    (settled : w.connectionState.settled) (attached : Attached w.connectionState w.stream.isSome)
    (once : TurnCountedOnce turn w) :
    IfEnds (runLoopTurn turn)
      (fun _ w' => CountsFailures (failuresTurn turn w n) w' ∧ w'.connectionState.settled) w := by
  have before := ifEnds_and once (h.session settled attached turn)
  rw [runLoopTurn_eq, IfEnds, wp_bind]
  unfold failuresTurn
  cases hrun : (beforeAttempt turn).run w with
  | error panic => exact (wp_of_error hrun).mpr trivial
  | ok out =>
    obtain ⟨started, u⟩ := out
    obtain ⟨once, counted, settled⟩ := (wp_of_ok hrun).mp before
    refine (wp_of_ok hrun).mpr ?_
    cases started with
    | false => exact ⟨counted, settled⟩
    | true =>
      simp only [runIf, SatelIntegra.attempt, if_true, wp_bind]
      exact wp_imp (counted.attempt (once rfl)) fun _ _ h => h

/-- What holds between iterations: the failures are counted and no attempt is half done. -/
def Counted (n : FailureCount) (w : World) : Prop :=
  (CountsFailures n w ∧ w.connectionState.settled) ∧ ∃ ended, AtRest ended w.core

lemma counted_turn (turn : Turn) (w : World) (n : FailureCount) (once : TurnCountedOnce turn w)
    (h : Counted n w) :
    IfEnds (runLoopTurn turn) (fun _ w' => Counted (failuresTurn turn w n) w') w := by
  obtain ⟨⟨counts, settled⟩, ended, rest⟩ := h
  refine wp_imp (ifEnds_and (counts.turn settled rest.2 once) (atRest_turn turn rest)) ?_
  rintro _ w' ⟨counted, rest'⟩
  exact ⟨counted, _, rest'⟩

lemma counted_runConnect (first : Turn) (config : Config) (clock : Instant) (wall : LocalTime)
    (once : CountedOnce ((World.new config clock wall).receive first)) :
    IfEnds (runConnect first)
      (fun _ w => Counted (afterAttempt ((World.new config clock wall).receive first) ⟨0, 0⟩) w)
      (.new config clock wall) := by
  let w : World := (World.new config clock wall).receive first
  have rest : Idle 0 w.core := (atRest_new config clock wall).idle (by intro h; cases h)
  have fresh : CountsFailures ⟨0, 0⟩ w := ⟨rfl, rfl⟩
  rw [runConnect, IfEnds, wp_bind, wp_modify, wp_bind]
  refine wp_imp (ifEnds_and (fresh.attempt once) (atRest_connect rest)) ?_
  rintro _ w' ⟨counted, rest'⟩
  exact ⟨counted, _, rest'⟩

/-- In a run in which no attempt's exchange loses its transport and no handshake gets a reply
it cannot use, the worker's failure count is the number of failures since the last connection
or disconnect, and each failure was reported once. -/
theorem failures_counted_once (first : Turn) (turns : List Turn) (config : Config)
    (clock : Instant) (wall : LocalTime)
    (onceFirst : CountedOnce ((World.new config clock wall).receive first))
    (once : IfEnds (runConnect first) (fun _ w => EveryTurn TurnCountedOnce turns w)
      (.new config clock wall)) :
    IfEnds (run first turns)
      (fun _ w => CountsFailures (failuresRun first turns (.new config clock wall)) w)
      (.new config clock wall) := by
  have connected := ifEnds_and once (counted_runConnect first config clock wall onceFirst)
  rw [run, IfEnds, wp_bind]
  unfold failuresRun
  cases hrun : (runConnect first).run (.new config clock wall) with
  | error panic => exact (wp_of_error hrun).mpr trivial
  | ok out =>
    obtain ⟨every, counted⟩ := (wp_of_ok hrun).mp connected
    refine (wp_of_ok hrun).mpr ?_
    refine wp_imp (runLoop_along counted_turn turns every counted) fun _ w h => ?_
    exact h.1.1

/-- The panel closes the session. -/
def closingTurn : Turn := promptTurn .push [] [.closed]

/-- The next attempt, whose handshake is never answered. -/
def retryTurn : Turn := { promptTurn .tick [.sent] [] with waited := secs 1 }

attribute [local irreducible] run

/-- A lost session and a handshake that is never answered are two failures. -/
theorem failures_counted_once_reconnecting :
    Ends (run connectingTurn [closingTurn, retryTurn])
      (fun _ w => w.telemetry.status.failedAttempts = 2 ∧ CountsFailures
        (failuresRun connectingTurn [closingTurn, retryTurn] (.new {} 0 ⟨0, Nat.zero_le _⟩)) w)
      (.new {} 0 ⟨0, Nat.zero_le _⟩) := by
  have two : Ends (run connectingTurn [closingTurn, retryTurn])
      (fun _ w => w.telemetry.status.failedAttempts = 2) (.new {} 0 ⟨0, Nat.zero_le _⟩) := by
    decide +kernel
  have first : CountedOnce ((World.new {} 0 ⟨0, Nat.zero_le _⟩).receive connectingTurn) := by
    decide
  have later : IfEnds (runConnect connectingTurn)
      (fun _ w => EveryTurn TurnCountedOnce [closingTurn, retryTurn] w)
      (.new {} 0 ⟨0, Nat.zero_le _⟩) := by decide
  exact two.and (failures_counted_once connectingTurn [closingTurn, retryTurn] {} 0
    ⟨0, Nat.zero_le _⟩ first later)

/-- A handshake whose transport breaks is one failure, counted as two. -/
theorem broken_handshake_counts_twice :
    ¬ ∀ (first : Turn) (turns : List Turn) (config : Config) (clock : Instant) (wall : LocalTime),
      IfEnds (run first turns)
        (fun _ w => CountsFailures (failuresRun first turns (.new config clock wall)) w)
        (.new config clock wall) := by
  intro h
  have one : (failuresRun (promptTurn .tick [.sent] [.failed]) []
      (.new {} 0 ⟨0, Nat.zero_le _⟩)).recent = 1 := by decide
  have two : Ends (run (promptTurn .tick [.sent] [.failed]) [])
      (fun _ w => w.telemetry.status.failedAttempts = 2) (.new {} 0 ⟨0, Nat.zero_le _⟩) := by
    decide +kernel
  obtain ⟨-, w, -, two, counts⟩ :=
    ends_iff.mp (two.and (h (promptTurn .tick [.sent] [.failed]) [] {} 0 ⟨0, Nat.zero_le _⟩))
  have counted := counts.failedAttempts
  rw [one, two] at counted
  cases counted

end Counting

end SatelIntegra
