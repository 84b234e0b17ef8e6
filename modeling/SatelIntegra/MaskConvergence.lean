import SatelIntegra.AutoReadTables
import SatelIntegra.WorkerInvariants
import SatelIntegra.WorkerLedger

/-!
# The push mask follows the configuration

Clients change the configuration while the worker runs, in calls of several steps. A
mask is out of date only while someone is bound to notice: the dirty flag is set, or a
call is still to set it, or a call is still to close the connection.
-/

namespace SatelIntegra

open CheckedAccess ProgramLogic SatelConnectionWorker

/-- The call will set the dirty flag, or see the connection closed. -/
def ReloadCall.owes : ReloadCall → Bool
  | .marking => true
  | .checking => true
  | .disconnecting => true
  | .connecting => false
  | .leaving => false

/-- The last push mask command handed to the stream. -/
def FramedStream.lastMask (stream : FramedStream) : Option Frame :=
  (stream.issued.filter isMaskCommand).getLast?

/-- The panel pushes what `config` asks for; a new stream pushes nothing. -/
def FramedStream.Pushes (config : Config) (stream : FramedStream) : Prop :=
  match stream.lastMask with
  | some data => ∃ support14ByteMask,
      data = SatelCommand.listOfNewData.toByte :: connectBuildPushMask config support14ByteMask
  | none => ∀ support14ByteMask,
      connectBuildPushMask config support14ByteMask =
        List.replicate (pushMaskLen support14ByteMask) 0

/-- The mask agrees with the configuration, or someone is bound to notice that it does not. -/
def Noticed (w : World) : Prop :=
  w.autoReadDirty = true ∨ (∃ call ∈ w.calls, call.owes = true) ∨
    ∀ stream, w.stream = some stream → stream.Pushes w.config

/-- In these states the worker has no stream. -/
def ConnectionState.down (state : ConnectionState) : Prop :=
  state = .disconnected ∨ state = .connectionLost

def Grounded (w : World) : Prop := w.connectionState.down → w.stream = none

section Streams
variable {stream : FramedStream} {data : Frame}

lemma lastMask_issue_other (other : isMaskCommand data = false) :
    (stream.issue data).lastMask = stream.lastMask := by
  simp [FramedStream.lastMask, FramedStream.issue, List.filter_append, other]

lemma lastMask_issue_mask (mask : isMaskCommand data = true) :
    (stream.issue data).lastMask = some data := by
  simp [FramedStream.lastMask, FramedStream.issue, List.filter_append, mask]

lemma pushes_issue_other {config : Config} (other : isMaskCommand data = false) :
    (stream.issue data).Pushes config ↔ stream.Pushes config := by
  rw [FramedStream.Pushes, lastMask_issue_other other, FramedStream.Pushes]

/-- The mask just issued is in force whichever length it has. -/
lemma pushes_issue_mask (config : Config) (support14ByteMask : Bool) :
    (stream.issue (SatelCommand.listOfNewData.toByte ::
      connectBuildPushMask config support14ByteMask)).Pushes config := by
  rw [FramedStream.Pushes, lastMask_issue_mask rfl]
  exact ⟨support14ByteMask, rfl⟩

/-- Configurations with the same masks are not told apart. -/
lemma FramedStream.Pushes.congr {config config' : Config}
    (same : ∀ long, connectBuildPushMask config' long = connectBuildPushMask config long)
    (h : stream.Pushes config) : stream.Pushes config' := by
  unfold FramedStream.Pushes at h ⊢
  cases hlast : stream.lastMask with
  | none =>
    rw [hlast] at h
    intro long
    rw [same]
    exact h long
  | some data =>
    rw [hlast] at h
    obtain ⟨long, hdata⟩ := h
    refine ⟨long, ?_⟩
    rw [same]
    exact hdata

end Streams

section OtherTasks
variable {w : World}

/-- The stream and the connection state are the worker's alone. -/
lemma act_stream (w : World) (o : Outside) : (w.act o).stream = w.stream := by cases o <;> rfl

lemma act_connectionState (w : World) (o : Outside) :
    (w.act o).connectionState = w.connectionState := by cases o <;> rfl

lemma Grounded.act (h : Grounded w) (o : Outside) : Grounded (w.act o) := by
  unfold Grounded
  rw [act_connectionState, act_stream]
  exact h

/-- A reload writes a mask the panel has, or goes on to mark the change. -/
lemma noticed_hotReload (h : Noticed w) (newConfig : Config) :
    Noticed (w.act (.hotReload newConfig)) := by
  cases changed : connectBuildPushMask w.config true !=
      connectBuildPushMask (newConfig.keepConnection w.config) true with
  | true =>
    refine .inr (.inl ⟨.marking, ?_, rfl⟩)
    simp [World.act, changed]
  | false =>
    rcases h with dirty | ⟨call, mem, owes⟩ | pushes
    · exact .inl dirty
    · exact .inr (.inl ⟨call, List.mem_append_left _ mem, owes⟩)
    · refine .inr (.inr fun stream hstream => (pushes stream hstream).congr fun long => ?_)
      by_contra differ
      have apart := (connectBuildPushMask_ne_iff _ _ long).mp differ
      simp only [bne_eq_false_iff_eq] at changed
      exact apart changed.symm

/-- A call that goes on keeps what it owes until it set the flag or saw the connection closed. -/
lemma noticed_resume (grounded : Grounded w) (h : Noticed w) (i : Nat) :
    Noticed (w.act (.resume i)) := by
  cases hcall : w.calls[i]? with
  | none =>
    have same : w.act (.resume i) = w := by simp [World.act, World.resumeCall, hcall]
    rw [same]
    exact h
  | some call =>
    have closed (state : w.connectionState = .disconnected) : Noticed (w.act (.resume i)) := by
      refine .inr (.inr fun stream hstream => ?_)
      rw [act_stream, grounded (.inl state)] at hstream
      cases hstream
    have waiting (next : ReloadCall) (hnext : call.resume w.connectionState = some next)
        (owes : next.owes = true) : Noticed (w.act (.resume i)) := by
      refine .inr (.inl ⟨next, ?_, owes⟩)
      simp only [World.act, World.resumeCall, hcall, hnext]
      obtain ⟨inside, -⟩ := List.getElem?_eq_some_iff.mp hcall
      exact List.mem_set inside next
    have gone (hnext : call.resume w.connectionState = none) (paid : call.owes = false) :
        Noticed (w.act (.resume i)) := by
      rcases h with dirty | ⟨other, mem, owes⟩ | pushes
      · exact .inl (by simp [World.act, dirty])
      · refine .inr (.inl ⟨other, ?_, owes⟩)
        simp only [World.act, World.resumeCall, hcall, hnext]
        obtain ⟨k, hk⟩ := List.mem_iff_getElem?.mp mem
        refine List.mem_eraseIdx_iff_getElem?.mpr ⟨k, ?_, hk⟩
        rintro rfl
        rw [hcall] at hk
        cases hk
        rw [paid] at owes
        cases owes
      · exact .inr (.inr pushes)
    cases call with
    | marking => exact .inl (by simp [World.act, hcall])
    | checking =>
      by_cases state : w.connectionState = .disconnected
      · exact closed state
      · exact waiting .disconnecting (if_neg state) rfl
    | disconnecting =>
      by_cases state : w.connectionState = .disconnected
      · exact closed state
      · exact waiting .disconnecting (if_neg state) rfl
    | connecting => exact gone rfl rfl
    | leaving => exact gone rfl rfl

lemma Noticed.act (grounded : Grounded w) (h : Noticed w) (o : Outside) : Noticed (w.act o) := by
  cases o with
  | storeConfig config =>
    exact .inr (.inl ⟨.checking, List.mem_append_right _ List.mem_cons_self, rfl⟩)
  | hotReload newConfig => exact noticed_hotReload h newConfig
  | resume call => exact noticed_resume grounded h call
  | markAutoReadDirty => exact .inl rfl
  | _ => exact h

end OtherTasks

/-- The mask is looked after, connected or about to be. -/
structure Masked (w : World) : Prop where
  grounded : Grounded w
  noticed : Noticed w

/-- No mask was issued on this stream. -/
def Unset (w : World) : Prop := ∀ stream, w.stream = some stream → stream.lastMask = none

section Survival
variable {w : World}

lemma interleave_connectionState (w : World) :
    w.interleave.connectionState = w.connectionState :=
  interleave_same World.connectionState act_connectionState (fun _ _ => rfl) w

lemma interleave_stream (w : World) : w.interleave.stream = w.stream :=
  interleave_same World.stream act_stream (fun _ _ => rfl) w

lemma lose_stream (w : World) : w.lose.stream = none :=
  interleave_stream { w with stream := none, consecutiveMissedPings := 0 }

lemma connectionState_mapTelemetry {f : ConnectionTelemetry → ConnectionTelemetry}
    (hf : ∀ t, (f t).status = t.status) (w : World) :
    (w.mapTelemetry f).connectionState = w.connectionState :=
  congrArg ConnectionStatus.state (hf w.telemetry)

lemma grounded_of_stream (hstream : w.stream = none) : Grounded w := fun _ => hstream

/-- Without a stream there is no mask to look after. -/
lemma noticed_of_stream (hstream : w.stream = none) : Noticed w := by
  refine .inr (.inr fun stream hsome => ?_)
  rw [hstream] at hsome
  cases hsome

/-- With a stream the worker is not down. -/
lemma Grounded.up {stream : FramedStream} (h : Grounded w) (hstream : w.stream = some stream) :
    ¬ w.connectionState.down := by
  intro down
  rw [h down] at hstream
  cases hstream

lemma enduring_state {p : ConnectionState → Prop} (lost : p .connectionLost) :
    Enduring fun w => p w.connectionState where
  interleave w h := by
    rw [interleave_connectionState]
    exact h
  telemetry w f hf h := by
    rw [connectionState_mapTelemetry hf]
    exact h
  waited _ _ _ _ _ h := h
  pings _ _ h := h
  report _ _ _ h := h
  issue _ _ _ _ _ h := h
  lose _ _ := lost

lemma enduring_grounded : Enduring Grounded where
  interleave w h := by
    unfold Grounded
    rw [interleave_connectionState, interleave_stream]
    exact h
  telemetry w f hf h := by
    unfold Grounded
    rw [connectionState_mapTelemetry hf]
    exact h
  waited _ _ _ _ _ h := h
  pings _ _ h := h
  report _ _ _ h := h
  issue w stream data _ hstream h := fun down => absurd down (h.up hstream)
  lose w _ := grounded_of_stream (lose_stream w)

lemma enduring_unset : Enduring Unset where
  interleave w h := by
    unfold Unset
    rw [interleave_stream]
    exact h
  telemetry _ _ _ h := h
  waited _ _ _ _ _ h := h
  pings _ _ h := h
  report _ _ _ h := h
  issue w stream data other hstream h := by
    intro issued hissued
    cases hissued
    rw [lastMask_issue_other other]
    exact h stream hstream
  lose w _ := by
    intro stream hsome
    rw [lose_stream] at hsome
    cases hsome

lemma Masked.acts (h : Masked w) (acts : List Outside) : Masked (acts.foldl World.act w) := by
  induction acts generalizing w with
  | nil => exact h
  | cons o acts ih => exact ih ⟨h.grounded.act o, h.noticed.act h.grounded o⟩

lemma Masked.interleave (h : Masked w) : Masked w.interleave := by
  unfold World.interleave
  cases w.outside with
  | nil => exact h
  | cons acts later =>
    exact Masked.acts (w := { w with outside := later }) ⟨h.grounded, h.noticed⟩ acts

/-- A lost connection leaves nothing to look after. -/
lemma masked_lose (w : World) : Masked w.lose :=
  ⟨grounded_of_stream (lose_stream w), noticed_of_stream (lose_stream w)⟩

lemma enduring_masked : Enduring Masked where
  interleave _ h := h.interleave
  telemetry w f hf h := ⟨enduring_grounded.telemetry w f hf h.grounded, h.noticed⟩
  waited _ _ _ _ _ h := ⟨h.grounded, h.noticed⟩
  pings _ _ h := ⟨h.grounded, h.noticed⟩
  report _ _ _ h := ⟨h.grounded, h.noticed⟩
  issue w stream data other hstream h := by
    refine ⟨enduring_grounded.issue w stream data other hstream h.grounded, ?_⟩
    rcases h.noticed with dirty | owed | pushes
    · exact .inl dirty
    · exact .inr (.inl owed)
    · refine .inr (.inr fun issued hissued => ?_)
      cases hissued
      exact (pushes_issue_other other).mpr (pushes stream hstream)
  lose w _ := masked_lose w

end Survival

/-- Not connected, with nothing wrong. -/
def Apart (w : World) : Prop := Grounded w ∧ w.connectionState ≠ .connected

lemma enduring_apart : Enduring Apart :=
  enduring_grounded.and (enduring_state (p := (· ≠ .connected)) (by decide))

/-- What holds between any two steps of the worker. -/
def Tended (w : World) : Prop := Masked w ∨ Apart w

lemma enduring_tended : Enduring Tended := enduring_masked.or enduring_apart

lemma Apart.act {w : World} (h : Apart w) (o : Outside) : Apart (w.act o) := by
  refine ⟨h.1.act o, ?_⟩
  rw [act_connectionState]
  exact h.2

lemma Tended.acts {w : World} (h : Tended w) (acts : List Outside) :
    Tended (acts.foldl World.act w) := by
  induction acts generalizing w with
  | nil => exact h
  | cons o acts ih =>
    rcases h with masked | apart
    · exact ih (.inl (masked.acts [o]))
    · exact ih (.inr (apart.act o))

section Attempts
variable {w : World}

/-- The mask is issued in the step in which it is built. -/
lemma sendPushMask_masked (connTimeout : Duration) (h : Grounded w) :
    IfEnds (sendPushMask connTimeout) (fun _ w' => Masked w') w := by
  unfold sendPushMask
  rw [IfEnds, wp_bind, wp_readState, wp_bind, wp_readConfig, wp_bind, exchange_eq, wp_bind, wp_get]
  have read := enduring_grounded.interleave _ (enduring_grounded.interleave w h)
  generalize ((w.interleave.state.ethmVersion.map (·.capabilities.support8TroublesGroups)).getD
    false) = support14ByteMask
  generalize w.interleave.interleave = u at read
  cases hstream : u.stream with
  | none => exact ⟨read, noticed_of_stream hstream⟩
  | some stream =>
    rw [wp_bind, wp_modify]
    have issued : Masked
        { u with
          stream := some (stream.issue (SatelCommand.listOfNewData.toByte ::
            connectBuildPushMask u.config support14ByteMask)) } := by
      refine ⟨fun down => absurd down (read.up hstream), .inr (.inr fun now hnow => ?_)⟩
      cases hnow
      exact pushes_issue_mask u.config support14ByteMask
    refine wp_imp (enduring_masked.awaitReply _ _ _ _ _ issued) fun r v kept => ?_
    cases r with
    | error e => exact kept
    | ok response =>
      refine (enduring_masked.readConfig.bind fun config => ?_) v kept
      exact (preserves_lift _).bind fun report => (enduring_masked.notify rfl).bind fun _ =>
        preserves_pure _

/-- A configuration without categories needs no mask. -/
lemma noticed_of_disabled (disabled : w.config.isAutoReadEnabled = false) (unset : Unset w) :
    Noticed w := by
  refine .inr (.inr fun stream hstream => ?_)
  rw [FramedStream.Pushes, unset stream hstream]
  exact connectBuildPushMask_of_disabled disabled

lemma connectAutoReadIfEnabled_masked (connTimeout : Duration) (h : Grounded w) (unset : Unset w) :
    IfEnds (connectAutoReadIfEnabled connTimeout) (fun _ w' => Masked w') w := by
  unfold connectAutoReadIfEnabled
  rw [IfEnds, wp_bind, wp_readConfig, wp_ite]
  constructor
  · intro _
    unfold connectAutoRead
    rw [wp_bind]
    refine wp_imp (sendPushMask_masked connTimeout (enduring_grounded.interleave w h)) ?_
    intro r v masked
    cases r with
    | ok _ => exact masked
    | error e => exact enduring_masked.lose v masked
  · intro disabled
    rw [wp_pure]
    exact ⟨enduring_grounded.interleave w h,
      noticed_of_disabled (by simpa using disabled) (enduring_unset.interleave w unset)⟩

lemma setStateConnected_masked (h : Masked w) :
    IfEnds setStateConnected (fun _ w' => Masked w') w := by
  have waited := (enduring_masked.pings w 0 h).interleave
  refine ⟨fun down => ?_, waited.noticed⟩
  rcases down with disconnected | lost
  · cases disconnected
  · cases lost

lemma connectOpened_tended (connTimeout : Duration) (h : Apart w) (unset : Unset w) :
    IfEnds (connectOpened connTimeout) (fun _ w' => Tended w') w := by
  have kept := enduring_apart.and enduring_unset
  unfold connectOpened
  rw [IfEnds, wp_bind]
  refine wp_imp (kept.connectHandshake (fun _ _ h => h) connTimeout w ⟨h, unset⟩) ?_
  rintro r u ⟨apart, unset⟩
  cases r with
  | error e => exact .inr apart
  | ok _ =>
    rw [wp_bind]
    refine wp_imp (connectAutoReadIfEnabled_masked connTimeout apart.1 unset) fun r v masked => ?_
    cases r with
    | error e => exact .inl masked
    | ok _ =>
      rw [wp_bind]
      exact wp_imp (setStateConnected_masked masked) fun _ _ connected => .inl connected

/-- A transport that opens has nothing issued on it. -/
lemma openedStream_issued {connection : ConnectionConfig} {encryption : Bool}
    {integrationKey : Option String} {outcome : OpenOutcome} {stream : FramedStream}
    (h : openedStream connection encryption integrationKey outcome = .ok stream) :
    stream.issued = [] := by
  revert h
  fun_cases openedStream connection encryption integrationKey outcome
  all_goals
    intro h
    cases h
    try rfl

lemma connectPhysical_issued (connTimeout : Duration) (w : World) :
    IfEnds (connectPhysical connTimeout) (fun r _ => ∀ stream, r = .ok stream → stream.issued = [])
      w := by
  unfold connectPhysical
  simp only [IfEnds, wp_bind, wp_readConfig]
  refine wp_imp (wp_trivial _) fun outcome _ _ => ?_
  exact fun stream h => openedStream_issued h

/-- However an attempt starts, its end leaves the mask looked after. -/
lemma connect_tended (w : World) : IfEnds connect (fun _ w' => Tended w') w := by
  unfold connect
  rw [IfEnds, wp_bind]
  refine wp_imp (wp_trivial _) fun _ w₁ _ => ?_
  rw [wp_bind, wp_readConfig, wp_bind, wp_swapAutoReadDirty, wp_bind]
  refine wp_imp (connectPhysical_issued _ _) fun r w₂ fresh => ?_
  cases r with
  | error e => exact .inl (masked_lose w₂)
  | ok stream =>
    simp only [setStateHandshake, wp_bind, wp_modify, wp_updateTelemetry, wp_notifyStateWorker,
      wp_sleep]
    refine connectOpened_tended _ ⟨?_, ?_⟩ ?_
    · rintro (disconnected | lost)
      · cases disconnected
      · cases lost
    · exact ConnectionState.noConfusion
    · apply enduring_unset.interleave { w₂ with stream := some stream }
      intro _ same
      cases same
      rw [FramedStream.lastMask, fresh stream rfl]
      rfl

section Steps

lemma Tended.grounded {w : World} (h : Tended w) : Grounded w := by
  rcases h with masked | apart
  · exact masked.grounded
  · exact apart.1

/-- Clearing the flag is safe when it was clear, or when a mask is sent at once. -/
lemma tickPushMask_tended (status : ConnectionStatus) : Preserves Tended (tickPushMask status) := by
  refine Preserves.ite (fun w h => ?_) (preserves_pure _)
  have read := enduring_tended.interleave w h
  rw [IfEnds, wp_bind, wp_swapAutoReadDirty, wp_ite]
  constructor
  · intro dirty
    have grounded : Grounded { w.interleave with autoReadDirty := false } := read.grounded
    rw [wp_bind, wp_readConfig, wp_bind]
    refine wp_imp (sendPushMask_masked _ (enduring_grounded.interleave _ grounded)) ?_
    intro r v masked
    cases r with
    | ok _ => exact .inl masked
    | error e =>
      rw [wp_bind, wp_swapAutoReadDirty, wp_pure]
      exact .inl ⟨masked.interleave.grounded, .inl rfl⟩
  · intro clear
    have same : ({ w.interleave with autoReadDirty := false } : World) = w.interleave := by
      have off : w.interleave.autoReadDirty = false := by simpa using clear
      rw [← off]
    rw [same]
    exact read

lemma disconnect_tended (w : World) : IfEnds disconnect (fun _ w' => Tended w') w := by
  have gone := interleave_stream { w with stream := none, consecutiveMissedPings := 0 }
  exact .inl ⟨grounded_of_stream gone, noticed_of_stream gone⟩

/-- The command a client has exchanged. -/
def InternalMessage.command? : InternalMessage → Option Frame
  | .exchangeStandard data _ _ _ _ => some data
  | .exchangePriority data _ _ => some data
  | .connect => none
  | .disconnect => none

/-- A client asks for a push mask of its own. -/
def Turn.setsMask (turn : Turn) : Bool :=
  match turn.branch with
  | .message msg => msg.command?.any isMaskCommand
  | .push => false
  | .tick => false

lemma runInvariant_tended : RunInvariant Tended where
  toEnduring := enduring_tended
  connect w _ := connect_tended w
  disconnect w _ := disconnect_tended w
  tickPushMask := tickPushMask_tended

lemma tended_receive (h : Tended w) (turn : Turn) : Tended (w.receive turn) :=
  h.imp (fun masked => ⟨masked.grounded, masked.noticed⟩) fun apart => apart

lemma handleMessage_tended {msg : InternalMessage}
    (other : msg.command?.any isMaskCommand = false) :
    Preserves Tended (handleMessageInternal msg) := by
  cases msg with
  | exchangeStandard data writeTimeout readTimeout createdAt maxQueueTime =>
    exact (enduring_tended.exchangeMessages (enduring_tended.exchange other) _ _).1 _ _
  | exchangePriority data writeTimeout readTimeout =>
    exact (enduring_tended.exchangeMessages (enduring_tended.exchange other) _ _).2
  | connect => exact runInvariant_tended.connectMessage
  | disconnect => exact runInvariant_tended.disconnectMessage

end Steps
end Attempts

section Runs

lemma tended_new (config : Config) (clock : Instant) (wall : LocalTime) :
    Tended (.new config clock wall) := .inr ⟨fun _ => rfl, ConnectionState.noConfusion⟩

lemma tended_run (first : Turn) {turns : List Turn}
    (quiet : ∀ turn ∈ turns, turn.setsMask = false) : Preserves Tended (run first turns) := by
  refine runInvariant_tended.run first (fun turn _ _ h => tended_receive h turn) ?_
  intro turn mem msg hbranch
  apply handleMessage_tended
  have other := quiet turn mem
  rw [Turn.setsMask, hbranch] at other
  exact other

/-- The mask in force, once nobody is bound to change it. -/
def MaskSettled (w : World) : Prop :=
  w.connectionState = .connected → w.autoReadDirty = false → w.calls = [] →
    ∀ stream, w.stream = some stream → stream.Pushes w.config

lemma Tended.maskSettled {w : World} (h : Tended w) : MaskSettled w := by
  intro connected clean returned
  rcases h with masked | apart
  · rcases masked.noticed with dirty | ⟨call, mem, -⟩ | pushes
    · rw [clean] at dirty
      cases dirty
    · rw [returned] at mem
      cases mem
    · exact pushes
  · exact absurd connected apart.2

/-- Whatever reloads ran beside the worker, and wherever they interrupted it, the panel pushes what
the configuration asks for once they returned, unless a client set a mask of its own. -/
theorem mask_converges (first : Turn) (turns : List Turn) (config : Config) (clock : Instant)
    (wall : LocalTime) (quiet : ∀ turn ∈ turns, turn.setsMask = false) :
    IfEnds (run first turns)
      (fun _ w => ∀ acts : List Outside, MaskSettled (acts.foldl World.act w))
      (.new config clock wall) := by
  refine wp_imp (tended_run first quiet _ (tended_new config clock wall)) fun _ w tended acts => ?_
  exact (tended.acts acts).maskSettled

/-- While the worker waits for the reply to a mask, a hot reload asks for the violations of zones
and returns. -/
def reloadedTurn : Turn :=
  { promptTurn .tick [] [] with
    outside := [[.hotReload { autoReadZonesViolation := true }, .resume 0, .resume 0]] }

/-- The next tick, at which the panel takes the new mask. -/
def maskTurn : Turn := promptTurn .tick [.sent] [.frame [0xEF, 0xFF]]

attribute [local irreducible] run

theorem mask_converges_reloaded :
    IfEnds (run connectingTurn [reloadedTurn, maskTurn])
      (fun _ w => ∀ acts : List Outside, MaskSettled (acts.foldl World.act w))
      (.new {} 0 ⟨0, Nat.zero_le _⟩) :=
  mask_converges connectingTurn [reloadedTurn, maskTurn] {} 0 ⟨0, Nat.zero_le _⟩ (by decide)

example :
    Ends (run connectingTurn [reloadedTurn, maskTurn])
      (fun _ w => w.connectionState = .connected ∧ w.autoReadDirty = false ∧ w.calls = [] ∧
        w.stream.bind (·.lastMask) =
          some (0x7F :: connectBuildPushMask { autoReadZonesViolation := true } false))
      (.new {} 0 ⟨0, Nat.zero_le _⟩) := by
  decide +kernel

/-- A client has a mask command of its own exchanged. -/
def foreignMaskTurn : Turn :=
  promptTurn (.message (.exchangePriority [0x7F, 0x01] (millis 500) (millis 500))) [.sent]
    [.frame [0xEF, 0xFF]]

/-- The worker hands over what a client has it exchange, and remembers no mask. -/
theorem foreign_mask_stays :
    ¬ ∀ (first : Turn) (turns : List Turn) (config : Config) (clock : Instant) (wall : LocalTime),
      IfEnds (run first turns)
        (fun _ w => ∀ acts : List Outside, MaskSettled (acts.foldl World.act w))
        (.new config clock wall) := by
  intro h
  have seen : Ends (run connectingTurn [foreignMaskTurn])
      (fun _ w => w.connectionState = .connected ∧ w.autoReadDirty = false ∧ w.calls = [] ∧
        w.stream.bind (·.lastMask) = some [0x7F, 0x01])
      (.new {} 0 ⟨0, Nat.zero_le _⟩) := by decide +kernel
  obtain ⟨-, w, -, ⟨connected, clean, returned, mask⟩, settled⟩ :=
    ends_iff.mp (seen.and (h connectingTurn [foreignMaskTurn] {} 0 ⟨0, Nat.zero_le _⟩))
  obtain ⟨stream, hstream, last⟩ := Option.bind_eq_some_iff.mp mask
  have pushes := settled [] connected clean returned stream hstream
  rw [FramedStream.Pushes, last] at pushes
  obtain ⟨long, same⟩ := pushes
  have lengths : 1 = pushMaskLen long := by
    rw [← length_connectBuildPushMask]
    exact Nat.succ_inj.mp (congrArg List.length same)
  cases long with
  | false => cases lengths
  | true => cases lengths

end Runs
end SatelIntegra
