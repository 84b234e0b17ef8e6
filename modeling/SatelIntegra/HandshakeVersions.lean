import SatelIntegra.MaskConvergence

/-!
# Versions learned in the handshake

The worker does not store what a handshake tells it. It reports the versions to the
auto-requester, waits a fixed time, and then reads the capabilities of the module from
the cache. What the cache will hold once every report was applied follows from the
reports alone; what it holds at a given moment depends on how far the auto-requester is.
-/

namespace SatelIntegra

open CheckedAccess ProgramLogic SatelConnectionWorker

abbrev Versions := Option EthmVersion × Option IntegraVersion

def SatelState.versions (state : SatelState) : Versions := (state.ethmVersion, state.integraVersion)

def StateWorkerMessage.isEthmVersion : StateWorkerMessage → Bool
  | .ethmVersion _ => true
  | _ => false

/-- What a message makes of the cached versions. -/
def StateWorkerMessage.store : StateWorkerMessage → Versions → Versions
  | .ethmVersion version, cached => (some version, cached.2)
  | .integraVersion version, cached => (cached.1, some version)
  | _, cached => cached

namespace World

/-- The messages the auto-requester has not applied yet; it may have received the first. -/
def waiting (w : World) : List StateWorkerMessage := (w.stateWorkerTx.getD []).drop w.applied

/-- The cached versions once the auto-requester has applied every message. -/
def announced (w : World) : Versions :=
  w.waiting.foldl (fun cached msg => msg.store cached) w.state.versions

/-- Every version reported so far is in the cache. -/
def versionsApplied (w : World) : Bool := w.waiting.all (!·.isVersion)

/-- Every version of the module reported so far is in the cache. -/
def ethmVersionApplied (w : World) : Bool := w.waiting.all (!·.isEthmVersion)

end World

/-- The task is not one that stores a reply of its own. -/
def Outside.keepsCache : Outside → Bool
  | .updateCache _ => false
  | _ => true

section Frames

lemma SameConnection.refl (state : SatelState) : SameConnection state state :=
  ⟨rfl, rfl, rfl, rfl, rfl⟩

lemma ifParsed_sameConnection {α : Type} {state : SatelState} {parsed : Parsed α}
    {update : α → Updated} {updated : Updated} (h : ifParsed state parsed update = .ok updated)
    (kept : ∀ d, parsed = (.ok (.ok d) : Except Panic _) → SameConnection state (update d).1) :
    SameConnection state updated.1 := by
  cases parsed with
  | error panic => cases h
  | ok result =>
    cases result with
    | error e =>
      cases h
      exact .refl state
    | ok d =>
      cases h
      exact kept d rfl

lemma handleAutoTroubles_sameConnection {config : Config} {state : SatelState} {first : UInt8}
    {data : Frame} {updated : Updated}
    (h : handleAutoTroubles config state first (first :: data) = .ok updated) :
    SameConnection state updated.1 := by
  unfold handleAutoTroubles at h
  cases hcmd : SatelCommand.fromByte first with
  | none =>
    rw [hcmd] at h
    cases h
    exact .refl state
  | some cmd =>
    rw [hcmd] at h
    simp only [sliceFrom_cons_one, bind, Except.bind] at h
    refine ifParsed_sameConnection h fun d decoded => ?_
    obtain ⟨items, -, rfl⟩ := accepted_bind decoded
    exact (updateTroubles_rest _ items state).1

/-- No frame writes the versions, or anything else that belongs to the connection. -/
lemma handleAutoFrame_sameConnection {config : Config} {state : SatelState} {frame : Frame}
    {clock : Clock} {updated : Updated}
    (h : handleAutoFrame config state frame clock = .ok updated) :
    SameConnection state updated.1 := by
  cases frame with
  | nil =>
    cases h
    exact .refl state
  | cons first data =>
    cases hcategory : Category.ofCommand first with
    | some category =>
      cases Category.ofCommand_eq_some.mp hcategory
      rw [handleAutoFrame_category] at h
      refine ifParsed_sameConnection h fun d _ => ?_
      exact (flags_writesOnly category config state d false).rest
    | none =>
      simp only [handleAutoFrame, List.isEmpty_cons, Bool.false_eq_true, if_false, index_cons_zero,
        bind, Except.bind] at h
      split at h
      -- the seventeen arms of the categories
      all_goals try exact absurd hcategory (by decide)
      -- the sixteen arms of the troubles
      all_goals try exact handleAutoTroubles_sameConnection h
      · refine ifParsed_sameConnection h fun status _ => ?_
        exact (systemStatus_writesOnly config state status).rest
      · split at h
        · cases h
          exact .refl state
        · cases h
          exact .refl state
      · cases h
        exact .refl state

/-- A message changes the cached versions as `store` says. -/
lemma handleMessage_versions {config : Config} {state state' : SatelState} {clock : Clock}
    {msg : StateWorkerMessage}
    (h : SatelAutoRequester.handleMessage config state clock msg = .ok state') :
    state'.versions = msg.store state.versions := by
  cases msg with
  | frame data =>
    simp only [SatelAutoRequester.handleMessage] at h
    cases hframe : handleAutoFrame config state data clock with
    | error panic =>
      rw [hframe] at h
      cases h
    | ok updated =>
      rw [hframe] at h
      cases h
      have same := handleAutoFrame_sameConnection hframe
      exact Prod.ext same.ethmVersion same.integraVersion
  | _ =>
    cases h
    rfl

end Frames

/-- The channel to the auto-requester is open, and nothing was applied that was not sent. -/
def Open (w : World) : Prop := ∃ log, w.stateWorkerTx = some log ∧ w.applied ≤ log.length

/-- Beside the worker nobody but the auto-requester writes versions. -/
def Alone (w : World) : Prop := ∀ acts ∈ w.outside, ∀ o ∈ acts, o.keepsCache = true

instance (w : World) : Decidable (Alone w) :=
  inferInstanceAs (Decidable (∀ acts ∈ w.outside, ∀ o ∈ acts, o.keepsCache = true))

section Announcing
variable {w : World}

lemma nextMessage_eq (w : World) : w.nextMessage = w.waiting.head? := by
  unfold World.nextMessage World.waiting
  cases w.stateWorkerTx with
  | none => simp
  | some log => exact (List.head?_drop ..).symm

/-- A message that is applied waits no longer, and the cache has what it said. -/
lemma announced_autoRequester (w : World) (clock : Clock) :
    (w.act (.autoRequester clock)).announced = w.announced := by
  cases hnext : w.nextMessage with
  | none => simp [World.act, World.applyMessage, hnext, World.announced, World.waiting,
      SatelState.versions]
  | some msg =>
    cases hmsg : SatelAutoRequester.handleMessage w.config w.state clock msg with
    | error panic => simp [World.act, World.applyMessage, hnext, hmsg, World.announced,
        World.waiting, SatelState.versions]
    | ok state' =>
      have stored : state'.versions = msg.store w.state.versions := handleMessage_versions hmsg
      have queue : w.waiting = msg :: (w.stateWorkerTx.getD []).drop (w.applied + 1) := by
        rw [nextMessage_eq] at hnext
        obtain ⟨rest, hrest⟩ := List.head?_eq_some_iff.mp hnext
        rw [hrest, ← List.tail_drop]
        exact congrArg (msg :: ·) (congrArg List.tail hrest).symm
      have later : (w.act (.autoRequester clock)).announced =
          ((w.stateWorkerTx.getD []).drop (w.applied + 1)).foldl
            (fun cached msg => msg.store cached) state'.versions := by
        simp only [World.act, World.applyMessage, hnext, hmsg, World.announced, World.waiting,
          SatelState.versions]
      rw [later, stored, World.announced, queue, List.foldl_cons]

lemma announced_act {o : Outside} (keeps : o.keepsCache = true) (w : World) :
    (w.act o).announced = w.announced := by
  cases o with
  | updateCache cache => cases keeps
  | autoRequester clock => exact announced_autoRequester w clock
  | _ => rfl

lemma Open.act (h : Open w) (o : Outside) : Open (w.act o) := by
  obtain ⟨log, hlog, applied⟩ := h
  cases o with
  | autoRequester clock =>
    refine ⟨log, hlog, ?_⟩
    cases hnext : w.nextMessage with
    | none => simpa [World.act, World.applyMessage, hnext] using applied
    | some msg =>
      have inside : w.applied < log.length := by
        rw [World.nextMessage, hlog] at hnext
        exact (List.getElem?_eq_some_iff.mp hnext).1
      cases hmsg : SatelAutoRequester.handleMessage w.config w.state clock msg with
      | error panic => simpa [World.act, World.applyMessage, hnext, hmsg] using applied
      | ok state' =>
        have next : w.applied + 1 ≤ log.length := Nat.succ_le_of_lt inside
        simpa [World.act, World.applyMessage, hnext, hmsg] using next
  | _ => exact ⟨log, hlog, applied⟩

lemma Open.report (h : Open w) (msg : StateWorkerMessage) :
    Open { w with stateWorkerTx := w.stateWorkerTx.map (· ++ [msg]) } := by
  obtain ⟨log, hlog, applied⟩ := h
  refine ⟨log ++ [msg], by simp [hlog], ?_⟩
  rw [List.length_append]
  exact Nat.le_add_right_of_le applied

lemma Open.interleave (h : Open w) : Open w.interleave := by
  have fold (acts : List Outside) (u : World) (hu : Open u) : Open (acts.foldl World.act u) := by
    induction acts generalizing u with
    | nil => exact hu
    | cons o acts ih => exact ih (u.act o) (hu.act o)
  unfold World.interleave
  cases w.outside with
  | nil => exact h
  | cons acts later => exact fold acts { w with outside := later } h

lemma act_outside (w : World) (o : Outside) : (w.act o).outside = w.outside := by
  cases o <;> rfl

/-- A report waits until it is applied, and then it has the last word. -/
lemma announced_report (h : Open w) (msg : StateWorkerMessage) :
    ({ w with stateWorkerTx := w.stateWorkerTx.map (· ++ [msg]) } : World).announced =
      msg.store w.announced := by
  obtain ⟨log, hlog, applied⟩ := h
  simp only [World.announced, World.waiting, hlog, Option.map_some, Option.getD_some]
  rw [List.drop_append_of_le_length applied, List.foldl_append]
  rfl

lemma store_other {msg : StateWorkerMessage} (other : msg.isVersion = false) (cached : Versions) :
    msg.store cached = cached := by
  cases msg with
  | integraVersion version => cases other
  | ethmVersion version => cases other
  | _ => rfl

lemma store_ethmVersion {msg : StateWorkerMessage} (other : msg.isEthmVersion = false)
    (cached : Versions) : (msg.store cached).1 = cached.1 := by
  cases msg with
  | ethmVersion version => cases other
  | _ => rfl

lemma ethmVersion_applied (h : w.ethmVersionApplied = true) :
    w.state.ethmVersion = w.announced.1 := by
  unfold World.ethmVersionApplied at h
  unfold World.announced
  have cached : w.state.ethmVersion = w.state.versions.1 := rfl
  rw [cached]
  generalize w.waiting = queue at h
  generalize w.state.versions = versions
  induction queue generalizing versions with
  | nil => rfl
  | cons msg queue ih =>
    simp only [List.all_cons, Bool.and_eq_true, Bool.not_eq_true'] at h
    rw [List.foldl_cons, ← ih h.2, store_ethmVersion h.1]

lemma versions_applied (h : w.versionsApplied = true) : w.state.versions = w.announced := by
  unfold World.versionsApplied at h
  unfold World.announced
  generalize w.waiting = queue at h
  induction queue with
  | nil => rfl
  | cons msg queue ih =>
    simp only [List.all_cons, Bool.and_eq_true, Bool.not_eq_true'] at h
    rw [List.foldl_cons, store_other h.1]
    exact ih h.2

end Announcing

/-- Once every report was applied, the cache will hold these versions. -/
structure Announces (versions : Versions) (w : World) : Prop where
  opened : Open w
  alone : Alone w
  announced : w.announced = versions

section Announced
variable {versions : Versions} {w : World}

lemma Announces.interleave (h : Announces versions w) : Announces versions w.interleave := by
  have fold (acts : List Outside) (u : World) (hu : Announces versions u)
      (kept : ∀ o ∈ acts, o.keepsCache = true) :
      Announces versions (acts.foldl World.act u) := by
    induction acts generalizing u with
    | nil => exact hu
    | cons o acts ih =>
      refine ih (u.act o) ⟨hu.opened.act o, ?_, ?_⟩ fun later mem =>
        kept later (List.mem_cons_of_mem _ mem)
      · unfold Alone
        rw [act_outside]
        exact hu.alone
      · rw [announced_act (kept o List.mem_cons_self)]
        exact hu.announced
  unfold World.interleave
  cases houtside : w.outside with
  | nil => exact h
  | cons acts later =>
    have alone := h.alone
    unfold Alone at alone
    rw [houtside, List.forall_mem_cons] at alone
    exact fold acts { w with outside := later } ⟨h.opened, alone.2, h.announced⟩ alone.1

lemma Announces.report (h : Announces versions w) (msg : StateWorkerMessage) :
    Announces (msg.store versions)
      { w with stateWorkerTx := w.stateWorkerTx.map (· ++ [msg]) } := by
  refine ⟨h.opened.report msg, h.alone, ?_⟩
  rw [announced_report h.opened, h.announced]

/-- Entering a state reports it, and leaves the versions alone. -/
lemma Announces.enter (h : Announces versions w) (f : ConnectionTelemetry → ConnectionTelemetry)
    (state : ConnectionState) :
    Announces versions
      { w.mapTelemetry f with
        stateWorkerTx := w.stateWorkerTx.map (· ++ [.statusChanged state]) } := by
  have entered : Announces versions (w.mapTelemetry f) := ⟨h.opened, h.alone, h.announced⟩
  exact entered.report (.statusChanged state)

lemma enduring_announces (versions : Versions) : Enduring (Announces versions) where
  interleave _ h := h.interleave
  telemetry _ _ _ h := ⟨h.opened, h.alone, h.announced⟩
  waited _ _ _ _ _ h := ⟨h.opened, h.alone, h.announced⟩
  pings _ _ h := ⟨h.opened, h.alone, h.announced⟩
  report w msg other h := by
    have reported := h.report msg
    rw [store_other other] at reported
    exact reported
  issue _ _ _ _ _ h := ⟨h.opened, h.alone, h.announced⟩
  lose w h := by
    let u : World := { w with stream := none, consecutiveMissedPings := 0 }
    have detached : Announces versions u := ⟨h.opened, h.alone, h.announced⟩
    exact detached.interleave.enter (enterConnectionLost u.interleave) .connectionLost

end Announced

section Handshakes
variable {versions : Versions} {w : World}

/-- What an exchange returns is the reply, and the answers behind it are left. -/
lemma exchangeReply_of_ok {reply : Option (Frame × List (Answer SendOutcome) ×
    List (Answer ReadOutcome))} {frame : Frame} {u w : World}
    (h : Exchanged (if w.stream.isSome then reply else none) w (.ok frame) u) :
    reply = some (frame, u.sends, u.reads) := by
  cases hreply : (if w.stream.isSome then reply else none) with
  | none =>
    rw [hreply] at h
    obtain ⟨⟨e, wrong⟩, -⟩ := h
    cases wrong
  | some found =>
    obtain ⟨frame', sends, reads⟩ := found
    rw [hreply] at h
    obtain ⟨same, -, -, -, rfl, rfl⟩ := h
    cases same
    split at hreply
    · exact hreply
    · cases hreply

/-- A query that succeeds announces what its reply says. -/
structure Learned {ν : Type} (process : Frame → LocalTime → Parsed ν)
    (message : ν → StateWorkerMessage) (versions : Versions) (reply : Frame) (w : World) :
    Prop where
  announces : ∃ now version, process reply now = (.ok (.ok version) : Except Panic _) ∧
    Announces ((message version).store versions) w
  unset : Unset w

lemma queryVersion_learned {ν : Type} {command : SatelCommand}
    (other : isMaskCommand [command.toByte] = false) (expectedCmd : UInt8)
    (process : Frame → LocalTime → Parsed ν) (message : ν → StateWorkerMessage)
    (connTimeout : Duration) (h : Announces versions w) (unset : Unset w) :
    IfEnds (queryVersion command expectedCmd process message connTimeout)
      (fun r w' => r = .ok () → ∃ reply,
        exchangeReply expectedCmd connTimeout w.sends w.reads = some (reply, w'.sends, w'.reads) ∧
          Learned process message versions reply w') w := by
  have kept := (enduring_announces versions).and enduring_unset
  unfold queryVersion
  rw [IfEnds, wp_bind]
  have exchanged := ifEnds_and
    (exchange_ends [command.toByte] expectedCmd connTimeout connTimeout false w).ifEnds
    (kept.exchange other expectedCmd connTimeout connTimeout false w ⟨h, unset⟩)
  refine wp_imp exchanged ?_
  rintro r u ⟨replied, announces, unset⟩
  cases r with
  | error e =>
    simp only [wp_bind, wp_connectionLost, wp_pure]
    intro failed
    cases failed
  | ok reply =>
    have found := exchangeReply_of_ok replied
    rw [wp_bind, wp_localNow, wp_bind]
    cases hparsed : (process reply u.interleave.wall).run with
    | error panic => exact trivial
    | ok parsed =>
      rw [wp_lift_ok]
      cases parsed with
      | error e =>
        rw [wp_pure]
        intro failed
        cases failed
      | ok version =>
        simp only [wp_bind, wp_notifyStateWorker, wp_pure]
        rintro -
        refine ⟨reply, ?_, ⟨_, version, hparsed, ?_⟩, ?_⟩
        · rw [interleave_sends, interleave_reads]
          exact found
        · exact announces.interleave.report (message version)
        · exact enduring_unset.interleave u unset

/-- The replies to the two queries of a handshake. -/
def handshakeReplies (connTimeout : Duration) (sends : List (Answer SendOutcome))
    (reads : List (Answer ReadOutcome)) : Option (Frame × Frame) :=
  match exchangeReply 0x7C connTimeout sends reads with
  | none => none
  | some (ethm, sends, reads) =>
    (exchangeReply 0x7E connTimeout sends reads).map fun (integra, _, _) => (ethm, integra)

/-- The versions these replies are parsed to. -/
def ParsedTo (replies : Frame × Frame) (ethm : EthmVersion) (integra : IntegraVersion) : Prop :=
  (∃ now, processEthmVersion replies.1 now = (.ok (.ok ethm) : Except Panic _)) ∧
    ∃ now, processIntegraVersion replies.2 now = (.ok (.ok integra) : Except Panic _)

lemma connectHandshake_announces (connTimeout : Duration) (h : Announces versions w)
    (unset : Unset w) :
    IfEnds (connectHandshake connTimeout)
      (fun r w' => r = .ok () → ∃ replies ethm integra,
        handshakeReplies connTimeout w.sends w.reads = some replies ∧
          ParsedTo replies ethm integra ∧ Announces (some ethm, some integra) w' ∧ Unset w') w := by
  unfold connectHandshake
  rw [IfEnds, wp_bind]
  refine wp_imp (queryVersion_learned rfl 0x7C processEthmVersion .ethmVersion connTimeout
    h unset) ?_
  intro r u learned
  cases r with
  | error e =>
    rw [wp_pure]
    intro failed
    cases failed
  | ok _ =>
    obtain ⟨ethmReply, ethmFound, ⟨now, ethm, ethmParsed, told⟩, unset⟩ := learned rfl
    rw [wp_bind]
    refine wp_imp (queryVersion_learned rfl 0x7E processIntegraVersion .integraVersion connTimeout
      told unset) ?_
    intro r v learned
    cases r with
    | error e =>
      rw [wp_pure]
      intro failed
      cases failed
    | ok _ =>
      obtain ⟨integraReply, integraFound, ⟨now', integra, integraParsed, told⟩, unset⟩ :=
        learned rfl
      rw [wp_bind, wp_sleep, wp_pure]
      rintro -
      refine ⟨(ethmReply, integraReply), ethm, integra, ?_,
        ⟨⟨now, ethmParsed⟩, now', integraParsed⟩,
        ⟨told.opened, told.alone, told.announced⟩, unset⟩
      simp only [handshakeReplies, ethmFound, integraFound, Option.map_some]

end Handshakes

namespace SatelConnectionWorker

/-- `connect` up to the end of the wait that follows the handshake. -/
def connectHandshaken : Task (Except SatelError Duration) := do
  setStateConnecting
  let connTimeout := millis (← readConfig).readTimeoutMs.toNat
  let _ ← swapAutoReadDirty false
  match ← connectPhysical connTimeout with
  | .error e =>
    connectionLost
    return .error e
  | .ok stream =>
    modify fun w => { w with stream := some stream }
    setStateHandshake
    sleep (millis 200)
    match ← connectHandshake connTimeout with
    | .error e => return .error e
    | .ok () => return .ok connTimeout

/-- `connect` behind the handshake. -/
def connectConfigured (connTimeout : Duration) : Task (Except SatelError Unit) := do
  match ← connectAutoReadIfEnabled connTimeout with
  | .error e => return .error e
  | .ok () =>
    setStateConnected
    return .ok ()

lemma connect_eq : connect = (do
    match ← connectHandshaken with
    | .error e => return .error e
    | .ok connTimeout => connectConfigured connTimeout) := by
  unfold connect connectHandshaken connectOpened
  simp only [bind_assoc]
  refine bind_congr fun _ => bind_congr fun config => bind_congr fun _ => bind_congr fun r => ?_
  cases r with
  | error e => simp only [bind_assoc, pure_bind]
  | ok stream =>
    simp only [bind_assoc]
    refine bind_congr fun _ => bind_congr fun _ => bind_congr fun _ => bind_congr fun r => ?_
    cases r with
    | error e => simp only [pure_bind]
    | ok _ =>
      simp only [pure_bind]
      rfl

end SatelConnectionWorker

/-- Every push mask issued on the stream has `n` bytes. -/
def MaskLengths (n : Nat) (w : World) : Prop :=
  ∀ stream, w.stream = some stream →
    ∀ data ∈ stream.issued, isMaskCommand data = true → data.length = n + 1

section Masks
variable {n : Nat} {versions : Versions} {w : World}

lemma maskLengths_of_unset (unset : Unset w) : MaskLengths n w := by
  intro stream hstream data mem mask
  have none := List.getLast?_eq_none_iff.mp (unset stream hstream)
  have listed : data ∈ stream.issued.filter isMaskCommand := List.mem_filter.mpr ⟨mem, mask⟩
  rw [none] at listed
  cases listed

lemma MaskLengths.issue (h : MaskLengths n w) {stream : FramedStream} {data : Frame}
    (hstream : w.stream = some stream) (long : isMaskCommand data = true → data.length = n + 1) :
    MaskLengths n { w with stream := some (stream.issue data) } := by
  intro issued hissued other mem mask
  cases hissued
  rcases List.mem_append.mp mem with before | now
  · exact h stream hstream other before mask
  · cases List.mem_singleton.mp now
    exact long mask

lemma enduring_maskLengths (n : Nat) : Enduring (MaskLengths n) where
  interleave w h := by
    unfold MaskLengths
    rw [interleave_stream]
    exact h
  telemetry _ _ _ h := h
  waited _ _ _ _ _ h := h
  pings _ _ h := h
  report _ _ _ h := h
  issue w stream data other hstream h := by
    refine h.issue hstream fun mask => ?_
    rw [other] at mask
    cases mask
  lose w _ := by
    intro stream hsome
    rw [lose_stream] at hsome
    cases hsome

/-- The mask has the length the announced version asks for, if that version was applied in time. -/
lemma sendPushMask_lengths {ethm : EthmVersion} (known : versions.1 = some ethm)
    (h : Announces versions w) (seen : w.interleave.ethmVersionApplied = true)
    (lengths : MaskLengths (pushMaskLen ethm.capabilities.support8TroublesGroups) w)
    (connTimeout : Duration) :
    IfEnds (sendPushMask connTimeout)
      (fun _ w' => Announces versions w' ∧
        MaskLengths (pushMaskLen ethm.capabilities.support8TroublesGroups) w') w := by
  have kept := (enduring_announces versions).and
    (enduring_maskLengths (pushMaskLen ethm.capabilities.support8TroublesGroups))
  have read : w.interleave.state.ethmVersion = some ethm := by
    rw [ethmVersion_applied seen, h.interleave.announced]
    exact known
  unfold sendPushMask
  rw [IfEnds, wp_bind, wp_readState, wp_bind, wp_readConfig, wp_bind, exchange_eq, wp_bind, wp_get,
    read, Option.map_some, Option.getD_some]
  have both := kept.interleave _ (kept.interleave w ⟨h, lengths⟩)
  generalize w.interleave.interleave = u at both
  cases hstream : u.stream with
  | none => exact both
  | some stream =>
    rw [wp_bind, wp_modify]
    let data := SatelCommand.listOfNewData.toByte ::
      connectBuildPushMask u.config ethm.capabilities.support8TroublesGroups
    have long : data.length = pushMaskLen ethm.capabilities.support8TroublesGroups + 1 :=
      congrArg Nat.succ (length_connectBuildPushMask _ _)
    have issued : Announces versions { u with stream := some (stream.issue data) } :=
      ⟨both.1.opened, both.1.alone, both.1.announced⟩
    have measured := both.2.issue hstream fun _ => long
    refine wp_imp (kept.awaitReply _ _ _ _ _ ⟨issued, measured⟩) fun r v held => ?_
    cases r with
    | error e => exact held
    | ok response =>
      refine (kept.readConfig.bind fun config => ?_) v held
      exact (preserves_lift _).bind fun report => (kept.notify rfl).bind fun _ => preserves_pure _

end Masks

/-- The capability bit of a module that knows eight groups of troubles. -/
def eightTroubleGroups (ethmReply : Frame) : Bool := (ethmReply[12]?.getD 0) &&& 0x02 != 0

lemma support8TroublesGroups_eq {frame : Frame} {now : LocalTime} {version : EthmVersion}
    (h : processEthmVersion frame now = (.ok (.ok version) : Except Panic _)) :
    version.capabilities.support8TroublesGroups = eightTroubleGroups frame := by
  rcases processEthmVersion_eq frame now with ⟨-, -, usable⟩ | ⟨rejected, -⟩
  · cases frame with
    | nil => cases usable
    | cons first data =>
      simp only [isEthmVersion, Bool.and_eq_true, beq_iff_eq, decide_eq_true_eq] at usable
      obtain ⟨rfl, long⟩ := usable
      have text := slice_of_le data 0 11 (by omega) (by omega)
      have caps := index_of_lt data 11 (by omega)
      have short : ¬ data.length < 12 := by omega
      simp [processEthmVersion, short, text, caps] at h
      cases h
      rw [eightTroubleGroups, List.getElem?_cons_succ, List.getElem?_eq_getElem]
      rfl
  · rw [rejected] at h
    cases h

/-- The replies of the handshake an attempt from here goes through. -/
def World.handshakeReplies (w : World) : Option (Frame × Frame) :=
  SatelIntegra.handshakeReplies (millis (w.configAt 2).readTimeoutMs.toNat) w.sends w.reads

/-- The cache has what these replies say, and the masks issued are as long as they ask for. -/
structure InForce (replies : Frame × Frame) (w : World) : Prop where
  ethm : ∃ now version, processEthmVersion replies.1 now = (.ok (.ok version) : Except Panic _) ∧
    w.state.ethmVersion = some version
  integra : ∃ now version,
    processIntegraVersion replies.2 now = (.ok (.ok version) : Except Panic _) ∧
      w.state.integraVersion = some version
  masks : MaskLengths (pushMaskLen (eightTroubleGroups replies.1)) w

/-- If an attempt succeeds, `Q` holds where it ends, provided that `seen` holds where
`send_push_mask` reads the cache. -/
def IfConnects (seen Q : World → Prop) (w : World) : Prop :=
  IfEnds connectHandshaken
    (fun r w₁ => ∀ connTimeout, r = .ok connTimeout →
      (w₁.interleave.config.isAutoReadEnabled = true → seen w₁.interleave.interleave) →
        IfEnds (connectConfigured connTimeout) (fun r w₂ => r = .ok () → Q w₂) w₁) w

section Attempts
variable {versions : Versions} {w : World}

lemma ifConnects_iff (Q : World → Prop) (w : World) :
    IfConnects (fun _ => True) Q w ↔ IfEnds connect (fun r w₂ => r = .ok () → Q w₂) w := by
  rw [connect_eq, IfConnects, IfEnds, IfEnds, wp_bind]
  constructor
  · intro h
    refine wp_imp h fun r w₁ rest => ?_
    cases r with
    | error e =>
      rw [wp_pure]
      intro failed
      cases failed
    | ok connTimeout => exact rest connTimeout rfl fun _ => trivial
  · intro h
    refine wp_imp h fun r w₁ rest connTimeout ok _ => ?_
    subst ok
    exact rest

lemma setStateConnecting_announces (h : Announces versions w) :
    IfEnds setStateConnecting (fun _ w' => Announces versions w') w :=
  h.interleave.enter _ .connecting

lemma setStateHandshake_announces (h : Announces versions w) (unset : Unset w) :
    IfEnds setStateHandshake
      (fun _ w' => Announces versions w' ∧ Unset w' ∧ w'.sends = w.sends ∧ w'.reads = w.reads) w :=
  ⟨h.interleave.enter _ .handshake, enduring_unset.interleave w unset, interleave_sends w,
    interleave_reads w⟩

lemma setStateConnected_announces (h : Announces versions w) :
    IfEnds setStateConnected (fun _ w' => Announces versions w') w := by
  have reset : Announces versions { w with consecutiveMissedPings := 0 } :=
    ⟨h.opened, h.alone, h.announced⟩
  obtain ⟨opened, alone, announced⟩ := reset.interleave
  have entered : Announces versions
      (enterConnected { w with consecutiveMissedPings := 0 }.interleave) :=
    ⟨opened, alone, announced⟩
  exact entered.report (.statusChanged .connected)

lemma connectHandshaken_announces (h : Announces versions w) :
    IfEnds connectHandshaken
      (fun r w₁ => ∀ connTimeout, r = .ok connTimeout → ∃ replies ethm integra,
        w.handshakeReplies = some replies ∧ ParsedTo replies ethm integra ∧
          Announces (some ethm, some integra) w₁ ∧ Unset w₁) w := by
  unfold connectHandshaken
  rw [IfEnds, wp_bind]
  refine wp_imp (ifEnds_and (setStateConnecting_announces h) (setStateConnecting_ends w).ifEnds) ?_
  rintro _ w₁ ⟨h₁, settings, opens, sends, reads⟩
  have settings₂ := settings.step
  have settings₃ := settings₂.step
  rw [wp_bind, wp_readConfig, wp_bind, wp_swapAutoReadDirty, wp_bind, settings₂.1]
  have cleared : Announces versions { w₁.interleave.interleave with autoReadDirty := false } := by
    obtain ⟨opened, alone, announced⟩ := h₁.interleave.interleave
    exact ⟨opened, alone, announced⟩
  have inputs := connectPhysical_ends (millis (w.configAt 2).readTimeoutMs.toNat) (w := w)
    (u := { w₁.interleave.interleave with autoReadDirty := false }) ⟨settings₃.1, settings₃.2⟩
    (by simpa using opens)
  have opened := ifEnds_and (connectPhysical_issued _ _) (ifEnds_and
    ((enduring_announces versions).connectPhysical _ _ cleared) inputs.ifEnds)
  refine wp_imp opened ?_
  rintro r w₂ ⟨fresh, h₂, -, sends₂, reads₂⟩
  cases r with
  | error e =>
    simp only [wp_bind, wp_connectionLost, wp_pure]
    rintro connTimeout ⟨⟩
  | ok stream =>
    have attached : Announces versions { w₂ with stream := some stream } :=
      ⟨h₂.opened, h₂.alone, h₂.announced⟩
    have unset : Unset { w₂ with stream := some stream } := by
      intro _ same
      cases same
      rw [FramedStream.lastMask, fresh stream rfl]
      rfl
    rw [wp_bind, wp_modify, wp_bind]
    refine wp_imp (setStateHandshake_announces attached unset) ?_
    rintro _ w₃ ⟨⟨opened, alone, announced⟩, unset, sends₃, reads₃⟩
    rw [wp_bind, wp_sleep, wp_bind]
    refine wp_imp (connectHandshake_announces _ ⟨opened, alone, announced⟩ unset) ?_
    intro r w₄ learned
    cases r with
    | error e =>
      rw [wp_pure]
      rintro connTimeout ⟨⟩
    | ok _ =>
      rw [wp_pure]
      rintro connTimeout -
      obtain ⟨replies, ethm, integra, found, parsed, announces, unset⟩ := learned rfl
      refine ⟨replies, ethm, integra, ?_, parsed, announces, unset⟩
      have sent : w₃.sends = w.sends := by simp [sends₃, sends₂, sends]
      have heard : w₃.reads = w.reads := by simp [reads₃, reads₂, reads]
      rw [World.handshakeReplies, ← sent, ← heard]
      exact found

/-- Behind the handshake nothing is learned; the mask is built from what the cache has. -/
lemma connectConfigured_announces {ethm : EthmVersion} (known : versions.1 = some ethm)
    (h : Announces versions w) (unset : Unset w)
    (seen : w.interleave.config.isAutoReadEnabled = true →
      w.interleave.interleave.ethmVersionApplied = true) (connTimeout : Duration) :
    IfEnds (connectConfigured connTimeout)
      (fun r w' => r = .ok () → Announces versions w' ∧
        MaskLengths (pushMaskLen ethm.capabilities.support8TroublesGroups) w') w := by
  have configured : IfEnds (connectAutoReadIfEnabled connTimeout)
      (fun r w' => r = .ok () → Announces versions w' ∧
        MaskLengths (pushMaskLen ethm.capabilities.support8TroublesGroups) w') w := by
    unfold connectAutoReadIfEnabled
    rw [IfEnds, wp_bind, wp_readConfig, wp_ite]
    have unset' := enduring_unset.interleave w unset
    constructor
    · intro enabled
      unfold connectAutoRead
      rw [wp_bind]
      refine wp_imp (sendPushMask_lengths known h.interleave (seen enabled)
        (maskLengths_of_unset unset') connTimeout) fun r u sent => ?_
      cases r with
      | error e =>
        rw [wp_bind, wp_connectionLost, wp_pure]
        rintro ⟨⟩
      | ok _ =>
        rw [wp_pure]
        exact fun _ => sent
    · intro _
      rw [wp_pure]
      exact fun _ => ⟨h.interleave, maskLengths_of_unset unset'⟩
  unfold connectConfigured
  rw [IfEnds, wp_bind]
  refine wp_imp configured fun r u learned => ?_
  cases r with
  | error e =>
    rw [wp_pure]
    rintro ⟨⟩
  | ok _ =>
    obtain ⟨announces, lengths⟩ := learned rfl
    rw [wp_bind]
    have connected : IfEnds setStateConnected
        (fun _ w' => MaskLengths (pushMaskLen ethm.capabilities.support8TroublesGroups) w') u :=
      (enduring_maskLengths _).interleave _ ((enduring_maskLengths _).pings u 0 lengths)
    refine wp_imp (ifEnds_and (setStateConnected_announces announces) connected) ?_
    exact fun _ _ both _ => both

end Attempts

section Channel

lemma enduring_open : Enduring Open where
  interleave _ h := h.interleave
  telemetry _ _ _ h := h
  waited _ _ _ _ _ h := h
  pings _ _ h := h
  report _ msg _ h := h.report msg
  issue _ _ _ _ _ h := h
  lose w h := by
    have detached : Open { w with stream := none, consecutiveMissedPings := 0 } := h
    exact detached.interleave.report (.statusChanged .connectionLost)

lemma standing_open : Standing Open where
  toEnduring := enduring_open
  write _ _ h := h
  mark _ _ h := h
  tell _ msg h := h.report msg
  ask _ _ _ _ h := h
  detach _ h := h
  attach connTimeout w h :=
    wp_imp (enduring_open.connectPhysical connTimeout w h) fun _ _ kept _ _ => kept

/-- In every run the channel stays open. -/
theorem open_run (first : Turn) (turns : List Turn) (config : Config) (clock : Instant)
    (wall : LocalTime) : IfEnds (run first turns) (fun _ w => Open w) (.new config clock wall) :=
  standing_open.run first (fun _ _ _ h => h) _ ⟨[], rfl, Nat.zero_le _⟩

end Channel

/-- If the auto-requester has applied the version of the module by the time `send_push_mask` reads
the cache, and both versions by the time the attempt ends, then what this handshake learned is in
force. -/
theorem handshake_in_force (w : World) (opened : Open w) (alone : Alone w) :
    IfConnects (fun u => u.ethmVersionApplied = true)
      (fun w₂ => w₂.versionsApplied = true →
        ∃ replies, w.handshakeReplies = some replies ∧ InForce replies w₂) w := by
  refine wp_imp (connectHandshaken_announces ⟨opened, alone, rfl⟩) ?_
  intro r w₁ learned connTimeout ok seen
  obtain ⟨replies, ethm, integra, found, ⟨⟨now, ethmParsed⟩, now', integraParsed⟩, announces,
    unset⟩ := learned connTimeout ok
  refine wp_imp (connectConfigured_announces rfl announces unset seen connTimeout) ?_
  intro r w₂ configured ok applied
  obtain ⟨announces, lengths⟩ := configured ok
  have cached := (versions_applied applied).trans announces.announced
  refine ⟨replies, found, ⟨now, ethm, ethmParsed, congrArg Prod.fst cached⟩,
    ⟨now', integra, integraParsed, congrArg Prod.snd cached⟩, ?_⟩
  rw [← support8TroublesGroups_eq ethmParsed]
  exact lengths

/-- A handshake with a module that knows eight groups of troubles, and the reply to a mask. -/
def capableTurn : Turn :=
  promptTurn .tick [.sent, .sent, .sent]
    [.frame (0x7C :: (List.replicate 11 0x30 ++ [0x02])), .frame (0x7E :: List.replicate 14 0x30),
      .frame [0xEF, 0xFF]]

/-- A worker about to connect to that module, for the violations of zones. -/
def beforeCapable (outside : List (List Outside)) : World :=
  { World.receive capableTurn (.new { autoReadZonesViolation := true } 0 ⟨0, Nat.zero_le _⟩) with
    outside := outside }

/-- The auto-requester applies two messages before each access of the worker. -/
def promptRequester : List (List Outside) :=
  let clock : Clock := ⟨⟨0, Nat.zero_le _⟩, fun _ _ _ _ _ _ => none⟩
  List.replicate 30 [.autoRequester clock, .autoRequester clock]

/-- The lengths of the mask commands on a stream. -/
def sentMaskLengths (stream : Option FramedStream) : List Nat :=
  ((stream.map (·.issued)).getD [] |>.filter isMaskCommand).map List.length

example :
    Ends connect
      (fun r w₂ => r = .ok () ∧ w₂.state.ethmVersion.isSome = true ∧
        w₂.state.integraVersion.isSome = true ∧ sentMaskLengths w₂.stream = [15])
      (beforeCapable promptRequester) := by
  decide +kernel

attribute [local irreducible] connect connectHandshaken connectConfigured

theorem handshake_in_force_prompt :
    IfConnects (fun u => u.ethmVersionApplied = true)
      (fun w₂ => w₂.versionsApplied = true →
        ∃ replies, (beforeCapable promptRequester).handshakeReplies = some replies ∧
          InForce replies w₂) (beforeCapable promptRequester) :=
  handshake_in_force (beforeCapable promptRequester) ⟨[], rfl, Nat.zero_le _⟩ (by decide)

/-- The auto-requester applies no message while the worker waits. The attempt succeeds without
versions in the cache, and with a mask for a module that does not know eight groups. -/
theorem late_auto_requester :
    ¬ ∀ w : World, Open w → Alone w →
      IfEnds connect
        (fun r w₂ => r = .ok () →
          ∃ replies, w.handshakeReplies = some replies ∧ InForce replies w₂) w := by
  intro h
  have seen : Ends connect
      (fun r w₂ => r = .ok () ∧ w₂.state.ethmVersion = none ∧ sentMaskLengths w₂.stream = [13])
      (beforeCapable []) := by decide +kernel
  obtain ⟨r, w₂, -, ⟨success, absent, -⟩, attempt⟩ :=
    ends_iff.mp (seen.and (h (beforeCapable []) ⟨[], rfl, Nat.zero_le _⟩ (by decide)))
  obtain ⟨replies, -, inForce⟩ := attempt success
  obtain ⟨now, version, -, cached⟩ := inForce.ethm
  cases cached.symm.trans absent

end SatelIntegra
