import SatelIntegra.WorkerExchange

/-!
# Connection attempts

An attempt ends connected, or it gives the connection up and reports the error. The
one way out that does neither is a version reply the parser rejects: the error is
passed on with `?`, and the stream stays behind in the state `Handshake`.
-/

namespace SatelIntegra

open CheckedAccess ProgramLogic SatelConnectionWorker

/-- A version reply arrives that its parser rejects. -/
def unusableReplies (connTimeout : Duration) (sends : List (Answer SendOutcome))
    (reads : List (Answer ReadOutcome)) : Bool :=
  match exchangeReply 0x7C connTimeout sends reads with
  | none => false
  | some (frame, sends, reads) =>
    !isEthmVersion frame ||
      match exchangeReply 0x7E connTimeout sends reads with
      | none => false
      | some (frame, _, _) => !isIntegraVersion frame

/-- The configuration at the `n`-th access from here. -/
def World.configAt (n : Nat) (w : World) : Config := (World.interleave^[n] w).config

/-- The transport an attempt gets; the parameters are read one by one. -/
def World.opening (w : World) : Except SatelError FramedStream :=
  openedStream (w.configAt 4).connection (w.configAt 5).encryption (w.configAt 6).integrationKey
    (match w.opens with
      | [] => .timedOut
      | answer :: _ => answer.outcome)

/-- The transport opens, and the handshake meets a reply it cannot use. -/
def World.unusableHandshake (w : World) : Bool :=
  w.opening.toBool &&
    unusableReplies (millis (w.configAt 2).readTimeoutMs.toNat) w.sends w.reads

def GaveUp (w : World) : Prop := w.connectionState = .connectionLost ∧ w.stream = none

/-- No other task brings a dropped stream back. -/
lemma detached_stream (w : World) :
    { w with stream := none, consecutiveMissedPings := 0 }.interleave.stream = none := by
  have steady := (steady_status fun _ a => a = false).interleave
    (w := { w with stream := none, consecutiveMissedPings := 0 }) rfl
  simpa [World.core] using steady

lemma gaveUp_lose (w : World) : GaveUp w.lose := ⟨rfl, detached_stream w⟩

section Handshake
variable {ν : Type}

/-- A query of the handshake: its reply is used, or rejected, or it gives up. -/
lemma queryVersion_ends (command : SatelCommand) (expectedCmd : UInt8)
    {process : Frame → LocalTime → Parsed ν} {usable : Frame → Bool}
    (parses : ∀ frame now,
      (∃ version, process frame now = (.ok (.ok version) : Except Panic _) ∧ usable frame) ∨
        (process frame now = (.ok (.error .invalidFrame) : Except Panic _) ∧ ¬ usable frame))
    (message : ν → StateWorkerMessage) (connTimeout : Duration) (w : World)
    (hstream : w.stream.isSome) :
    Ends (queryVersion command expectedCmd process message connTimeout)
      (fun r w' =>
        match exchangeReply expectedCmd connTimeout w.sends w.reads with
        | some (frame, sends, reads) =>
          r = (if usable frame then .ok () else .error .invalidFrame) ∧ Onward w w' ∧
            w'.stream.isSome ∧ w'.sends = sends ∧ w'.reads = reads
        | none => (∃ e, r = .error e) ∧ GaveUp w') w := by
  unfold queryVersion
  have exchanged := exchange_ends [command.toByte] expectedCmd connTimeout connTimeout false w
  rw [if_pos hstream] at exchanged
  rw [Ends, wp_bind]
  refine wp_imp exchanged fun r w₁ h => ?_
  cases hreply : exchangeReply expectedCmd connTimeout w.sends w.reads with
  | none =>
    rw [hreply] at h
    obtain ⟨⟨e, rfl⟩, -⟩ := h
    simp only [wp_bind, wp_connectionLost, wp_pure]
    exact ⟨⟨e, rfl⟩, gaveUp_lose w₁⟩
  | some found =>
    obtain ⟨frame, sends, reads⟩ := found
    rw [hreply] at h
    obtain ⟨rfl, -, onward, attached, hs, hr⟩ := h
    simp only [wp_bind, wp_localNow]
    have onward' := onward.trans (.interleave w₁)
    have attached' := (Onward.interleave w₁).attached attached
    have hs' := (interleave_sends w₁).trans hs
    have hr' := (interleave_reads w₁).trans hr
    rcases parses frame w₁.interleave.wall with ⟨version, hparse, husable⟩ | ⟨hparse, husable⟩
    · rw [show (process frame w₁.interleave.wall).run = .ok (.ok version) from hparse]
      simp only [wp_lift_ok, wp_bind, wp_notifyStateWorker, wp_pure, if_pos husable]
      exact ⟨trivial, onward'.trans (.of_core rfl), attached', hs', hr'⟩
    · rw [show (process frame w₁.interleave.wall).run = .ok (.error .invalidFrame) from hparse]
      simp only [wp_lift_ok, wp_pure, if_neg husable]
      exact ⟨trivial, onward', attached', hs', hr'⟩

/-- What a step of an attempt leaves when no unusable reply came. -/
def Settled (w : World) (r : Except SatelError Unit) (w' : World) : Prop :=
  (r = .ok () ∧ Onward w w' ∧ w'.stream.isSome) ∨ ((∃ e, r = .error e) ∧ GaveUp w')

lemma connectHandshake_ends (connTimeout : Duration) (w : World) (hstream : w.stream.isSome) :
    Ends (connectHandshake connTimeout)
      (fun r w' =>
        if unusableReplies connTimeout w.sends w.reads then
          (∃ e, r = .error e) ∧ Onward w w' ∧ w'.stream.isSome
        else Settled w r w') w := by
  unfold connectHandshake
  rw [Ends, wp_bind]
  refine wp_imp (queryVersion_ends .moduleVersion 0x7C processEthmVersion_eq .ethmVersion
    connTimeout w hstream) fun r w₁ h => ?_
  unfold unusableReplies
  cases hethm : exchangeReply 0x7C connTimeout w.sends w.reads with
  | none =>
    rw [hethm] at h
    obtain ⟨⟨e, rfl⟩, gone⟩ := h
    simp only [wp_pure, Bool.false_eq_true, if_false]
    exact .inr ⟨⟨e, rfl⟩, gone⟩
  | some found =>
    obtain ⟨frame, sends, reads⟩ := found
    rw [hethm] at h
    obtain ⟨hr, onward, attached, hs, hreads⟩ := h
    by_cases husable : isEthmVersion frame = true
    · rw [if_pos husable] at hr
      subst hr
      simp only [wp_bind, husable, Bool.not_true, Bool.false_or]
      refine wp_imp (queryVersion_ends .integraVersion 0x7E processIntegraVersion_eq
        .integraVersion connTimeout w₁ attached) fun r w₂ h => ?_
      rw [hs, hreads] at h
      cases hintegra : exchangeReply 0x7E connTimeout sends reads with
      | none =>
        rw [hintegra] at h
        obtain ⟨⟨e, rfl⟩, gone⟩ := h
        simp only [wp_pure, Bool.false_eq_true, if_false]
        exact .inr ⟨⟨e, rfl⟩, gone⟩
      | some found =>
        obtain ⟨frame₂, sends₂, reads₂⟩ := found
        rw [hintegra] at h
        obtain ⟨hr, onward₂, attached₂, -, -⟩ := h
        have onward₂ := onward.trans onward₂
        by_cases husable₂ : isIntegraVersion frame₂ = true
        · rw [if_pos husable₂] at hr
          subst hr
          simp only [wp_bind, wp_sleep, wp_pure, husable₂, Bool.not_true, Bool.false_eq_true,
            if_false]
          exact .inl ⟨rfl, onward₂.trans (.of_core rfl), attached₂⟩
        · rw [if_neg husable₂] at hr
          subst hr
          simp only [wp_pure, husable₂, Bool.not_false, if_true]
          exact ⟨⟨_, rfl⟩, onward₂, attached₂⟩
    · rw [if_neg husable] at hr
      subst hr
      simp only [wp_pure, husable, Bool.not_false, Bool.true_or, if_true]
      exact ⟨⟨_, rfl⟩, onward, attached⟩

end Handshake

lemma sendPushMask_ends (connTimeout : Duration) (w : World) :
    Ends (sendPushMask connTimeout)
      (fun r w' => (r = .ok () ∧ Onward w w' ∧ w'.stream.isSome) ∨
        ((∃ e, r = .error e) ∧ Failed w w')) w := by
  unfold sendPushMask
  simp only [Ends, wp_bind, wp_readState, wp_readConfig]
  have before : Onward w w.interleave.interleave := (Onward.interleave w).trans (.interleave _)
  refine wp_imp (exchange_ends _ _ _ _ _ _) fun r w₁ h => ?_
  unfold Exchanged at h
  split at h
  case h_1 frame sends reads _ =>
    obtain ⟨rfl, hne, onward, attached, -, -⟩ := h
    simp only [wp_bind, wp_readConfig]
    obtain ⟨report, hreport⟩ := processAutoReadResponse_noPanic w₁.interleave.config
      ((Option.map (fun v => v.capabilities.support8TroublesGroups)
        w.interleave.state.ethmVersion).getD false) hne
    rw [hreport]
    simp only [wp_lift_ok, wp_notifyStateWorker, wp_pure]
    have onward₁ := onward.trans (.interleave w₁)
    exact .inl ⟨trivial, (before.trans onward₁).trans (.of_core rfl),
      (Onward.interleave w₁).attached attached⟩
  case h_2 =>
    obtain ⟨⟨e, rfl⟩, failed⟩ := h
    simp only [wp_pure]
    exact .inr ⟨⟨e, rfl⟩, failed.of_onward before⟩

lemma connectAutoReadIfEnabled_ends (connTimeout : Duration) (w : World)
    (hstream : w.stream.isSome) :
    Ends (connectAutoReadIfEnabled connTimeout) (Settled w) w := by
  unfold connectAutoReadIfEnabled connectAutoRead
  simp only [Ends, wp_bind, wp_readConfig, wp_ite, wp_pure]
  refine ⟨fun _ => ?_, fun _ => ?_⟩
  · refine wp_imp (sendPushMask_ends connTimeout _) fun r w₁ h => ?_
    rcases h with ⟨rfl, onward, attached⟩ | ⟨⟨e, rfl⟩, -⟩
    · simp only [wp_pure]
      exact .inl ⟨rfl, (Onward.interleave w).trans onward, attached⟩
    · simp only [wp_bind, wp_connectionLost, wp_pure]
      exact .inr ⟨⟨e, rfl⟩, gaveUp_lose w₁⟩
  · exact .inl ⟨rfl, .interleave w, (Onward.interleave w).attached hstream⟩

/-- How an attempt ends: connected, or given up, or stuck with a reply it cannot use. -/
inductive Attempted : Except SatelError Unit → World → Prop where
  | connected {w : World} (state : w.connectionState = .connected) (stream : w.stream.isSome) :
    Attempted (.ok ()) w
  | gaveUp {w : World} (e : SatelError) (gone : GaveUp w) : Attempted (.error e) w

/-- The error of an unusable reply is passed on without giving the connection up. -/
def HalfOpen (r : Except SatelError Unit) (w : World) : Prop :=
  (∃ e, r = .error e) ∧ w.connectionState = .handshake ∧ w.stream.isSome

lemma connectOpened_ends (connTimeout : Duration) (w : World)
    (hstate : w.connectionState = .handshake) (hstream : w.stream.isSome) :
    Ends (connectOpened connTimeout)
      (fun r w' => if unusableReplies connTimeout w.sends w.reads then HalfOpen r w'
        else Attempted r w') w := by
  unfold connectOpened
  rw [Ends, wp_bind]
  refine wp_imp (connectHandshake_ends connTimeout w hstream) fun r w₁ h => ?_
  by_cases hbad : unusableReplies connTimeout w.sends w.reads = true
  · rw [if_pos hbad] at h
    obtain ⟨⟨e, rfl⟩, onward, attached⟩ := h
    simp only [wp_pure, if_pos hbad]
    exact ⟨⟨e, rfl⟩, onward.state_eq.trans hstate, attached⟩
  · rw [if_neg hbad] at h
    simp only [if_neg hbad]
    rcases h with ⟨rfl, -, attached⟩ | ⟨⟨e, rfl⟩, gone⟩
    · simp only [wp_bind]
      refine wp_imp (connectAutoReadIfEnabled_ends connTimeout w₁ attached) fun r w₂ h => ?_
      rcases h with ⟨rfl, -, attached⟩ | ⟨⟨e, rfl⟩, gone⟩
      · simp only [setStateConnected, resetMissedPings, wp_bind, wp_modify, wp_notifyStateWorker,
          wp_pure]
        refine .connected rfl ?_
        exact (Onward.interleave { w₂ with consecutiveMissedPings := 0 }).attached attached
      · simp only [wp_pure]
        exact .gaveUp e gone
    · simp only [wp_pure]
      exact .gaveUp e gone

section Settings

/-- Configuration and the actions of other tasks to come. -/
def SameSettings (u w : World) : Prop := u.config = w.config ∧ u.outside = w.outside

lemma SameSettings.act {u w : World} (h : SameSettings u w) (o : Outside) :
    SameSettings (u.act o) (w.act o) := by
  cases o with
  | storeConfig config => exact ⟨rfl, h.2⟩
  | hotReload newConfig => exact ⟨congrArg newConfig.keepConnection h.1, h.2⟩
  | _ => exact h

lemma SameSettings.interleave {u w : World} (h : SameSettings u w) :
    SameSettings u.interleave w.interleave := by
  have fold : ∀ (acts : List Outside) (u w : World), SameSettings u w →
      SameSettings (acts.foldl World.act u) (acts.foldl World.act w) := by
    intro acts
    induction acts with
    | nil => exact fun _ _ h => h
    | cons o acts ih => exact fun u w h => ih _ _ (h.act o)
  unfold World.interleave
  rw [h.2]
  cases w.outside with
  | nil => exact h
  | cons acts later => exact fold acts _ _ ⟨h.1, rfl⟩

/-- Nothing the worker writes decides what configuration it reads next. -/
lemma SameSettings.step {u w : World} {n : Nat} (h : SameSettings u (World.interleave^[n] w)) :
    SameSettings u.interleave (World.interleave^[n + 1] w) := by
  rw [Function.iterate_succ_apply']
  exact h.interleave

end Settings

lemma setStateConnecting_ends (w : World) :
    Ends setStateConnecting
      (fun _ w' => SameSettings w' (World.interleave^[1] w) ∧ w'.opens = w.opens ∧
        w'.sends = w.sends ∧ w'.reads = w.reads) w :=
  ⟨⟨rfl, rfl⟩, interleave_opens w, interleave_sends w, interleave_reads w⟩

lemma connectPhysical_ends (connTimeout : Duration) {u w : World}
    (settings : SameSettings u (World.interleave^[3] w)) (hopens : u.opens = w.opens) :
    Ends (connectPhysical connTimeout)
      (fun r u' => r = w.opening ∧ u'.sends = u.sends ∧ u'.reads = u.reads) u := by
  have connection := settings.step
  have encryption := connection.step
  have integrationKey := encryption.step
  unfold connectPhysical awaitOpen
  simp only [Ends, wp_bind, wp_readConfig, wp_get, interleave_opens, hopens]
  unfold World.opening World.configAt
  rw [connection.1, encryption.1, integrationKey.1]
  cases w.opens with
  | nil =>
    simp only [wp_bind, wp_sleep, wp_pure, interleave_sends, interleave_reads]
    exact ⟨trivial, trivial, trivial⟩
  | cons answer later =>
    simp only [wp_bind, wp_modify, wp_pure, interleave_sends, interleave_reads]
    exact ⟨trivial, trivial, trivial⟩

/-- Every attempt ends, and its start decides which of the three ways it can take. -/
theorem connect_ends (w : World) :
    Ends connect
      (fun r w' => if w.unusableHandshake then HalfOpen r w' else Attempted r w') w := by
  unfold connect
  rw [Ends, wp_bind]
  refine wp_imp (setStateConnecting_ends w) ?_
  rintro _ w₁ ⟨settings, opens, sends, reads⟩
  have settings₂ := settings.step
  have settings₃ := settings₂.step
  simp only [wp_bind, wp_readConfig, wp_swapAutoReadDirty, settings₂.1]
  refine wp_imp (connectPhysical_ends _ (w := w) settings₃ (by simpa using opens)) ?_
  rintro _ w₂ ⟨rfl, sends₂, reads₂⟩
  unfold World.unusableHandshake World.configAt
  cases w.opening with
  | error e =>
    simp only [wp_bind, wp_connectionLost, wp_pure]
    exact .gaveUp e (gaveUp_lose w₂)
  | ok stream =>
    simp only [setStateHandshake, wp_bind, wp_modify, wp_updateTelemetry, wp_notifyStateWorker,
      wp_sleep, Except.toBool, Bool.true_and]
    refine wp_imp (connectOpened_ends _ _ rfl ?_) fun r w' h => ?_
    · exact (Onward.interleave { w₂ with stream := some stream }).attached rfl
    · simpa only [World.mapTelemetry, interleave_sends, interleave_reads, sends₂, reads₂, sends,
        reads] using h

/-- The next `Connect` message starts an attempt of its own. -/
def ConnectAttempted (w : World) : Prop :=
  handleMessageInternal .connect w = (Response.done <$> connect) w.interleave

/-- `Ok` means connected, and an error leaves nothing behind. -/
def NothingHalfOpen (r : Except SatelError Unit) (w : World) : Prop :=
  (r = .ok () ↔ w.connectionState = .connected ∧ w.stream.isSome) ∧
    (r ≠ .ok () → w.connectionState = .connectionLost ∧ w.stream = none ∧ ConnectAttempted w)

lemma GaveUp.connectAttempted {w : World} (h : GaveUp w) : ConnectAttempted w := by
  have state : w.interleave.telemetry.status.state = .connectionLost :=
    (Onward.interleave w).state_eq.trans h.1
  have step : handleMessageInternal .connect w =
      (if w.interleave.telemetry.status.state = .connected ∨
          w.interleave.telemetry.status.state = .connecting ∨
          w.interleave.telemetry.status.state = .handshake then
        pure (.done (.error .alreadyConnected))
      else connect >>= fun result => pure (.done result) : Task Response) w.interleave := rfl
  rw [ConnectAttempted, step, state, if_neg (by decide), map_eq_pure_bind]

lemma Attempted.nothingHalfOpen {r : Except SatelError Unit} {w : World} (h : Attempted r w) :
    NothingHalfOpen r w := by
  cases h with
  | connected state stream =>
    exact ⟨⟨fun _ => ⟨state, stream⟩, fun _ => rfl⟩, fun hne => absurd rfl hne⟩
  | gaveUp e gone =>
    refine ⟨⟨nofun, ?_⟩, fun _ => ⟨gone.1, gone.2, gone.connectAttempted⟩⟩
    rintro ⟨state, -⟩
    rw [gone.1] at state
    cases state

lemma HalfOpen.not_nothingHalfOpen {r : Except SatelError Unit} {w : World} (h : HalfOpen r w) :
    ¬ NothingHalfOpen r w := by
  rintro ⟨-, failed⟩
  obtain ⟨⟨e, rfl⟩, state, -⟩ := h
  have lost := (failed nofun).1
  rw [state] at lost
  cases lost

/-- An attempt always ends, and leaves nothing half open exactly if the handshake meets no
reply that its parser rejects. -/
theorem connect_nothingHalfOpen_iff (w : World) :
    Ends connect NothingHalfOpen w ↔ w.unusableHandshake = false := by
  have ended := connect_ends w
  constructor
  · intro h
    obtain ⟨r, w', hrun, hpost⟩ := ends_iff.mp ended
    obtain ⟨_, _, hrun', good⟩ := ends_iff.mp h
    rw [hrun] at hrun'
    cases hrun'
    by_contra hbad
    rw [if_pos (by simpa using hbad)] at hpost
    exact hpost.not_nothingHalfOpen good
  · intro hgood
    refine wp_imp ended fun r w' h => ?_
    rw [if_neg (by simp [hgood])] at h
    exact h.nothingHalfOpen

/-- A panel that answers the module query with an error code. -/
def refusingPanel (wall : LocalTime) : World :=
  { World.new {} 0 wall with
    opens := [⟨0, .opened⟩]
    sends := [⟨0, .sent⟩]
    reads := [⟨0, .frame [0xEF, 0x08]⟩] }

theorem connect_half_open :
    ¬ Ends connect NothingHalfOpen (refusingPanel ⟨0, Nat.zero_le _⟩) := by
  intro h
  obtain ⟨r, w', hrun, hpost⟩ := ends_iff.mp (connect_ends (refusingPanel ⟨0, Nat.zero_le _⟩))
  obtain ⟨_, _, hrun', good⟩ := ends_iff.mp h
  rw [hrun] at hrun'
  cases hrun'
  have refused : (refusingPanel ⟨0, Nat.zero_le _⟩).unusableHandshake = true := by decide
  rw [if_pos refused] at hpost
  exact hpost.not_nothingHalfOpen good

end SatelIntegra
