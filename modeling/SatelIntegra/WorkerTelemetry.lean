import SatelIntegra.WorkerConnect

/-!
# Sessions are booked once

Every session of a run starts in `set_state_connected` and ends in exactly one loss
or one disconnect, however an exchange tears the connection down. `Booked` says what
the telemetry has recorded of the sessions so far; it is kept by every access of the
worker and of other tasks, and `disconnect` alone moves its count.
-/

namespace SatelIntegra

open CheckedAccess ProgramLogic SatelConnectionWorker

def Core.sessionLength (c : Core) : Duration :=
  match c.connectedSince with
  | some since => c.wall.since since
  | none => 0

def Core.openSessions (c : Core) : UInt64 := if c.status.state = .connected then 1 else 0

/-- Time goes by on the wall clock. -/
def Core.setWall (now : LocalTime) (c : Core) : Core :=
  { c with
    wall := now
    clockTurnedBack := c.clockTurnedBack || now.nanos < c.wall.nanos
    timeConnected :=
      if c.status.state = .connected then c.timeConnected + (now.nanos - c.wall.nanos)
      else c.timeConnected }

def Core.reset (c : Core) : Core :=
  { c with
    connectionsEstablished := 0
    connectionsLost := 0
    totalConnectedBefore := 0
    connectedSince := if c.status.state = .connected then some c.wall else none
    timeConnected := 0
    resets := c.resets + 1 }

/-- Only the clock and a reset show in the core. -/
lemma core_act (w : World) (o : Outside) :
    (w.act o).core =
      match o with
      | .wallClock now => w.core.setWall now
      | .resetStatistics => w.core.reset
      | _ => w.core := by
  cases o <;> rfl

/-- The telemetry is that of the sessions so far, `ended` of which a client ended. -/
structure Booked (ended : UInt64) (c : Core) : Prop where
  session : c.connectedSince.isSome ↔ c.status.state = .connected
  started : c.clockTurnedBack = false → ∀ since, c.connectedSince = some since →
    since.nanos ≤ c.wall.nanos
  total : c.clockTurnedBack = false → c.totalConnectedBefore + c.sessionLength = c.timeConnected
  bounded : c.clockTurnedBack = false → c.timeConnected ≤ c.wall.nanos
  balance : c.resets = 0 →
    c.connectionsEstablished = c.connectionsLost + ended + c.openSessions

/-- Connected means there is a stream; at rest without a connection there is none. -/
def Attached (state : ConnectionState) (attached : Bool) : Prop :=
  (state = .connected → attached = true) ∧
    (state = .disconnected ∨ state = .connectionLost → attached = false)

def AtRest (ended : UInt64) (c : Core) : Prop :=
  Booked ended c ∧ Attached c.status.state c.attached

lemma time_passes {before since wall now connected : Nat} (started : since ≤ wall)
    (forward : wall ≤ now) (h : before + (wall - since) = connected) :
    before + (now - since) = connected + (now - wall) := by
  omega

lemma time_bounded {wall now connected : Nat} (forward : wall ≤ now) (h : connected ≤ wall) :
    connected + (now - wall) ≤ now := by
  omega

namespace Booked
variable {ended : UInt64}

lemma since_none {c : Core} (h : Booked ended c) (hstate : c.status.state ≠ .connected) :
    c.connectedSince = none := by
  rw [← Option.not_isSome_iff_eq_none, h.session]
  exact hstate

/-- A clock that was not turned back until now did not go back before. -/
lemma forward {c : Core} {now : LocalTime} (h : (c.setWall now).clockTurnedBack = false) :
    c.clockTurnedBack = false ∧ c.wall.nanos ≤ now.nanos := by
  simpa [Core.setWall] using h

lemma setWall {c : Core} (h : Booked ended c) (now : LocalTime) : Booked ended (c.setWall now) := by
  by_cases hstate : c.status.state = .connected
  · obtain ⟨since, hsince⟩ := Option.isSome_iff_exists.mp (h.session.mpr hstate)
    refine ⟨h.session, fun hclock s hs => ?_, fun hclock => ?_, fun hclock => ?_, h.balance⟩
    · exact Nat.le_trans (h.started (forward hclock).1 s hs) (forward hclock).2
    · obtain ⟨hclock, hle⟩ := forward hclock
      have started := h.started hclock since hsince
      have total := h.total hclock
      simp only [Core.sessionLength, hsince, LocalTime.since] at total
      simp only [Core.sessionLength, Core.setWall, hsince, hstate, if_true, LocalTime.since]
      exact time_passes started hle total
    · obtain ⟨hclock, hle⟩ := forward hclock
      simp only [Core.setWall, hstate, if_true]
      exact time_bounded hle (h.bounded hclock)
  · have hnone := h.since_none hstate
    refine ⟨h.session, fun hclock s hs => ?_, fun hclock => ?_, fun hclock => ?_, h.balance⟩
    · exact Nat.le_trans (h.started (forward hclock).1 s hs) (forward hclock).2
    · have total := h.total (forward hclock).1
      simp only [Core.sessionLength, hnone] at total
      simpa only [Core.sessionLength, Core.setWall, hnone, hstate, if_false] using total
    · obtain ⟨hclock, hle⟩ := forward hclock
      simp only [Core.setWall, hstate, if_false]
      exact Nat.le_trans (h.bounded hclock) hle

/-- A reset starts the open session again and forgets the closed ones. -/
lemma reset (ended : UInt64) (c : Core) : Booked ended c.reset := by
  by_cases hstate : c.status.state = .connected
  · refine ⟨by simp [Core.reset, hstate], fun _ s hs => ?_, fun _ => ?_, fun _ => Nat.zero_le _,
      nofun⟩
    · simp only [Core.reset, hstate, if_true, Option.some.injEq] at hs
      rw [← hs]
      exact Nat.le_refl _
    · simp [Core.sessionLength, Core.reset, hstate, LocalTime.since]
  · refine ⟨by simp [Core.reset, hstate], fun _ s hs => ?_, fun _ => ?_, fun _ => Nat.zero_le _,
      nofun⟩
    · simp [Core.reset, hstate] at hs
    · simp [Core.sessionLength, Core.reset, hstate]

/-- Between two states without a session nothing has to be booked. -/
lemma move {c : Core} (h : Booked ended c) (hstate : c.status.state ≠ .connected)
    (status : ConnectionStatus) (attached : Bool) (hnew : status.state ≠ .connected) :
    Booked ended { c with status := status, attached := attached } := by
  have hnone := h.since_none hstate
  refine ⟨?_, h.started, h.total, h.bounded, fun hresets => ?_⟩
  · simp [hnone, hnew]
  · have balance := h.balance hresets
    simpa [Core.openSessions, hstate, hnew] using balance

lemma arrive {c : Core} (h : Booked ended c) (hstate : c.status.state ≠ .connected)
    {status : ConnectionStatus} (hnew : status.state = .connected) :
    Booked ended
      { c with
        status := status
        connectedSince := some c.wall
        connectionsEstablished := c.connectionsEstablished + 1 } := by
  have hnone := h.since_none hstate
  refine ⟨by simp [hnew], fun _ s hs => ?_, fun hclock => ?_, h.bounded, fun hresets => ?_⟩
  · exact Nat.le_of_eq (congrArg LocalTime.nanos (Option.some.inj hs)).symm
  · have total := h.total hclock
    simp only [Core.sessionLength, hnone] at total
    simpa [Core.sessionLength, LocalTime.since] using total
  · have balance := h.balance hresets
    simp only [Core.openSessions, hstate, if_false, UInt64.add_zero] at balance
    simp only [Core.openSessions, hnew, if_true, balance]

/-- The session that ends here is added to the closed ones; the sum stays in range because
the wall clock does. -/
lemma leave {c : Core} (h : Booked ended c) {since : LocalTime}
    (hsince : c.connectedSince = some since) (status : ConnectionStatus) (attached : Bool)
    (lost ended' : UInt64) (hnew : status.state ≠ .connected)
    (hbalance : lost + ended' = c.connectionsLost + ended + 1) :
    Booked ended'
      { c with
        status := status
        attached := attached
        connectedSince := none
        totalConnectedBefore := saturatingAdd c.totalConnectedBefore (c.wall.since since)
        connectionsLost := lost } := by
  have hstate : c.status.state = .connected := h.session.mp (by simp [hsince])
  refine ⟨by simp [hnew], fun _ => nofun, fun hclock => ?_, h.bounded,
    fun hresets => ?_⟩
  · have total := h.total hclock
    simp only [Core.sessionLength, hsince] at total
    have inRange : c.totalConnectedBefore + c.wall.since since ≤ durationMax := by
      rw [total]
      exact Nat.le_trans (h.bounded hclock) c.wall.inRange
    simp only [Core.sessionLength, saturatingAdd, Nat.min_eq_left inRange, Nat.add_zero]
    exact total
  · have balance := h.balance hresets
    simp only [Core.openSessions, hstate, if_true] at balance
    simp only [Core.openSessions, hnew, if_false, UInt64.add_zero, balance, hbalance]

end Booked

lemma steady_booked (ended : UInt64) : Steady (Booked ended) where
  act w o h := by
    rw [core_act]
    cases o with
    | wallClock now => exact h.setWall now
    | resetStatistics => exact .reset ended w.core
    | _ => exact h

lemma booked_detached {ended : UInt64} {w : World} (h : Booked ended w.core) :
    Booked ended { w with stream := none, consecutiveMissedPings := 0 }.interleave.core :=
  (steady_booked ended).interleave ⟨h.session, h.started, h.total, h.bounded, h.balance⟩

lemma booked_connectionLost {ended : UInt64} {u : World} (h : Booked ended u.core) :
    Booked ended (u.mapTelemetry (enterConnectionLost u)).core := by
  by_cases hstate : u.connectionState = .connected
  · obtain ⟨since, hsince⟩ := Option.isSome_iff_exists.mp (h.session.mpr hstate)
    have hsince' : u.state.telemetry.connectedSince = some since := hsince
    have left := h.leave hsince (enterConnectionLost u u.telemetry).status u.stream.isSome
      (u.telemetry.connectionsLost + 1) ended (by simp [enterConnectionLost])
      (by simp only [World.core]; ac_rfl)
    convert left using 1
    simp [World.core, World.mapTelemetry, enterConnectionLost, hstate, closeSession, hsince']
  · have moved := h.move hstate (enterConnectionLost u u.telemetry).status u.stream.isSome
      (by simp [enterConnectionLost])
    convert moved using 1
    simp [World.core, World.mapTelemetry, enterConnectionLost, hstate]

lemma booked_lose {ended : UInt64} {w : World} (h : Booked ended w.core) :
    Booked ended w.lose.core :=
  booked_connectionLost (booked_detached h)

/-- A property of the core that other tasks and a lost connection keep. -/
structure Stable (P : Core → Prop) : Prop extends Steady P where
  lose : ∀ w : World, P w.core → P w.lose.core

lemma stable_booked (ended : UInt64) : Stable (Booked ended) where
  toSteady := steady_booked ended
  lose _ h := booked_lose h

lemma stable_status {p : ConnectionState → Bool → Prop} (lost : p .connectionLost false) :
    Stable fun c => p c.status.state c.attached where
  toSteady := steady_status p
  lose w _ := by
    obtain ⟨state, stream⟩ := gaveUp_lose w
    simpa [World.core, state, stream] using lost

lemma Stable.and {P R : Core → Prop} (hP : Stable P) (hR : Stable R) :
    Stable fun c => P c ∧ R c where
  act w o h := ⟨hP.act w o h.1, hR.act w o h.2⟩
  lose w h := ⟨hP.lose w h.1, hR.lose w h.2⟩

section Quiet
variable {P : Core → Prop}

lemma keeps_elapsedSince (start : Instant) :
    Preserves (fun w => P w.core) (elapsedSince start) := fun _ h => h

lemma keeps_notifyStateWorker (msg : StateWorkerMessage) :
    Preserves (fun w => P w.core) (notifyStateWorker msg) := fun _ h => h

lemma keeps_sleep (duration : Duration) :
    Preserves (fun w => P w.core) (sleep duration) := fun _ h => h

lemma keeps_resetMissedPings : Preserves (fun w => P w.core) resetMissedPings := fun _ h => h

lemma keeps_awaitRead (timeout : Duration) :
    Preserves (fun w => P w.core) (awaitRead timeout) := by
  intro w hw
  unfold awaitRead
  rw [IfEnds, wp_bind, wp_get]
  cases w.reads with
  | nil => exact hw
  | cons answer later => exact hw

end Quiet

namespace Steady
variable {P : Core → Prop} (hP : Steady P)
include hP

lemma updateTelemetry {f : World → ConnectionTelemetry → ConnectionTelemetry}
    (hf : ∀ u v : World, (u.mapTelemetry (f v)).core = u.core) :
    Preserves (fun w => P w.core) (updateTelemetry f) :=
  fun w h => Onward.count w (fun u => hf u _) P hP h

lemma readConfig : Preserves (fun w => P w.core) readConfig :=
  fun _ h => hP.interleave h

lemma readTelemetry : Preserves (fun w => P w.core) readTelemetry :=
  fun _ h => hP.interleave h

lemma localNow : Preserves (fun w => P w.core) localNow :=
  fun _ h => hP.interleave h

lemma swapAutoReadDirty (dirty : Bool) :
    Preserves (fun w => P w.core) (swapAutoReadDirty dirty) :=
  fun _ h => hP.interleave h

lemma takePush : Preserves (fun w => P w.core) takePush := by
  refine preserves_get.bind fun w => ?_
  cases w.stream with
  | none => exact preserves_pure _
  | some _ =>
    refine (keeps_awaitRead _).bind fun outcome => ?_
    cases outcome with
    | frame frame =>
      exact (hP.updateTelemetry fun _ _ => rfl).bind fun _ =>
        (preserves_lift _).bind fun _ => preserves_pure _
    | failed => exact (hP.updateTelemetry fun _ _ => rfl).bind fun _ => preserves_pure _
    | closed => exact preserves_pure _
    | timedOut => exact preserves_pure _

lemma getCurrentState : Preserves (fun w => P w.core) getCurrentState :=
  hP.readTelemetry.bind fun _ => preserves_pure _

end Steady

namespace Stable
variable {P : Core → Prop} (hP : Stable P)
include hP

lemma onward {w w' : World} (h : Onward w w') (hw : P w.core) : P w'.core := h P hP.toSteady hw

lemma failed {w w' : World} (h : Failed w w') (hw : P w.core) : P w'.core := by
  rcases h with kept | ⟨u, hu, rfl⟩
  · exact hP.onward kept hw
  · exact hP.lose u (hP.onward hu hw)

lemma connectionLost : Preserves (fun w => P w.core) connectionLost :=
  fun w h => hP.lose w h

lemma exchange (data : Frame) (expectedCmd : UInt8) (writeTimeout readTimeout : Duration)
    (isPing : Bool) :
    Preserves (fun w => P w.core) (exchange data expectedCmd writeTimeout readTimeout isPing) := by
  intro w hw
  refine Ends.ifEnds (wp_imp (exchange_ends data expectedCmd writeTimeout readTimeout isPing w) ?_)
  intro r w' h
  unfold Exchanged at h
  split at h
  case h_1 => exact hP.onward h.2.2.1 hw
  case h_2 => exact hP.failed h.2 hw

lemma sendPushMask (connTimeout : Duration) :
    Preserves (fun w => P w.core) (sendPushMask connTimeout) := by
  intro w hw
  refine Ends.ifEnds (wp_imp (sendPushMask_ends connTimeout w) ?_)
  rintro r w' (⟨-, h, -⟩ | ⟨-, h⟩)
  · exact hP.onward h hw
  · exact hP.failed h hw

lemma queryVersion {ν : Type} (command : SatelCommand) (expectedCmd : UInt8)
    (process : Frame → LocalTime → Parsed ν) (message : ν → StateWorkerMessage)
    (connTimeout : Duration) :
    Preserves (fun w => P w.core)
      (queryVersion command expectedCmd process message connTimeout) := by
  refine (hP.exchange _ _ _ _ _).bind fun r => ?_
  cases r with
  | error e => exact hP.connectionLost.bind fun _ => preserves_pure _
  | ok response =>
    refine hP.localNow.bind fun now => (preserves_lift _).bind fun parsed => ?_
    cases parsed with
    | error e => exact preserves_pure _
    | ok version => exact (keeps_notifyStateWorker _).bind fun _ => preserves_pure _

lemma connectHandshake (connTimeout : Duration) :
    Preserves (fun w => P w.core) (connectHandshake connTimeout) := by
  refine (hP.queryVersion _ _ _ _ _).bind fun r => ?_
  cases r with
  | error e => exact preserves_pure _
  | ok _ =>
    refine (hP.queryVersion _ _ _ _ _).bind fun r => ?_
    cases r with
    | error e => exact preserves_pure _
    | ok _ => exact (keeps_sleep _).bind fun _ => preserves_pure _

lemma connectAutoReadIfEnabled (connTimeout : Duration) :
    Preserves (fun w => P w.core) (connectAutoReadIfEnabled connTimeout) := by
  refine hP.readConfig.bind fun config => Preserves.ite ?_ (preserves_pure _)
  refine (hP.sendPushMask connTimeout).bind fun r => ?_
  cases r with
  | ok _ => exact preserves_pure _
  | error e => exact hP.connectionLost.bind fun _ => preserves_pure _

lemma pushBranch : Preserves (fun w => P w.core) pushBranch := by
  have received : Preserves (fun w => P w.core) receivePushInternal := by
    refine hP.takePush.bind fun r => ?_
    rcases r with e | ⟨received, _ | frame⟩
    · exact preserves_pure _
    · exact preserves_pure _
    · exact (keeps_notifyStateWorker _).bind fun _ => preserves_pure _
  refine received.bind fun r => ?_
  rcases r with e | _ | _
  · exact hP.connectionLost
  · exact preserves_pure _
  · exact keeps_resetMissedPings

lemma handlePingTimeout : Preserves (fun w => P w.core) handlePingTimeout := by
  refine Preserves.bind (preserves_modify ?_) fun _ => hP.readConfig.bind fun _ =>
    preserves_get.bind fun _ => preserves_pure _
  exact fun _ h => h

lemma tickWatchdog (status : ConnectionStatus) :
    Preserves (fun w => P w.core) (tickWatchdog status) :=
  Preserves.ite
    ((keeps_elapsedSince _).bind fun _ => Preserves.ite hP.connectionLost (preserves_pure _))
    (preserves_pure _)

lemma tickPushMask (status : ConnectionStatus) :
    Preserves (fun w => P w.core) (tickPushMask status) := by
  refine Preserves.ite ((hP.swapAutoReadDirty _).bind fun dirty => ?_) (preserves_pure _)
  refine Preserves.ite (hP.readConfig.bind fun _ => ?_) (preserves_pure _)
  refine (hP.sendPushMask _).bind fun r => ?_
  cases r with
  | ok _ => exact preserves_pure _
  | error e => exact (hP.swapAutoReadDirty _).bind fun _ => preserves_pure _

lemma tickPing (status : ConnectionStatus) :
    Preserves (fun w => P w.core) (tickPing status) := by
  refine hP.readTelemetry.bind fun _ => Preserves.ite ?_ (preserves_pure _)
  refine (keeps_elapsedSince _).bind fun _ => Preserves.ite ?_ (preserves_pure _)
  refine (hP.exchange _ _ _ _ _).bind fun r => ?_
  split
  · exact hP.handlePingTimeout.bind fun _ => Preserves.ite hP.connectionLost (preserves_pure _)
  · exact preserves_pure _

lemma exchangeStandard (data : Frame) (writeTimeout readTimeout : Duration) (createdAt : Instant)
    (maxQueueTime : Duration) :
    Preserves (fun w => P w.core)
      (handleMessageInternal
        (.exchangeStandard data writeTimeout readTimeout createdAt maxQueueTime)) := by
  refine hP.getCurrentState.bind fun _ => Preserves.ite (preserves_pure _) ?_
  refine (keeps_elapsedSince _).bind fun _ => Preserves.ite (preserves_pure _) ?_
  exact (hP.exchange _ _ _ _ _).bind fun _ => preserves_pure _

lemma exchangePriority (data : Frame) (writeTimeout readTimeout : Duration) :
    Preserves (fun w => P w.core)
      (handleMessageInternal (.exchangePriority data writeTimeout readTimeout)) := by
  refine hP.getCurrentState.bind fun _ => Preserves.ite (preserves_pure _) ?_
  exact (hP.exchange _ _ _ _ _).bind fun _ => preserves_pure _

end Stable
/-- Between two sessions. -/
def Idle (ended : UInt64) (c : Core) : Prop := Booked ended c ∧ c.status.state ≠ .connected

lemma stable_idle (ended : UInt64) : Stable (Idle ended) :=
  (stable_booked ended).and (stable_status (p := fun s _ => s ≠ .connected) nofun)

section Connect
variable {ended : UInt64}

lemma Idle.move {c : Core} (h : Idle ended c) (status : ConnectionStatus) (attached : Bool)
    (hnew : status.state ≠ .connected) :
    Idle ended { c with status := status, attached := attached } :=
  ⟨h.1.move h.2 status attached hnew, hnew⟩

lemma idle_setStateConnecting : Preserves (fun w => Idle ended w.core) setStateConnecting := by
  intro w hw
  have idle := (stable_idle ended).interleave hw
  exact idle.move { w.interleave.telemetry.status with
    state := .connecting, lastEventAt := w.interleave.clock } w.interleave.core.attached (by simp)

lemma idle_setStateHandshake : Preserves (fun w => Idle ended w.core) setStateHandshake := by
  intro w hw
  have idle := (stable_idle ended).interleave hw
  exact idle.move { w.interleave.telemetry.status with
    state := .handshake, lastEventAt := w.interleave.clock } w.interleave.core.attached (by simp)

lemma idle_connectPhysical (connTimeout : Duration) :
    Preserves (fun w => Idle ended w.core) (connectPhysical connTimeout) := by
  have steady := stable_idle ended
  refine steady.readConfig.bind fun _ => steady.readConfig.bind fun _ =>
    steady.readConfig.bind fun _ => Preserves.bind ?_ fun _ => preserves_pure _
  intro w hw
  unfold awaitOpen
  rw [IfEnds, wp_bind, wp_get]
  cases w.opens with
  | nil => exact hw
  | cons answer later => exact hw

lemma booked_connectOpened (connTimeout : Duration) {w : World} (hw : Idle ended w.core) :
    IfEnds (connectOpened connTimeout) (fun _ w' => Booked ended w'.core) w := by
  have steady := stable_idle ended
  unfold connectOpened
  rw [IfEnds, wp_bind]
  refine wp_imp (steady.connectHandshake connTimeout w hw) fun r w₁ h₁ => ?_
  cases r with
  | error e => exact h₁.1
  | ok _ =>
    rw [wp_bind]
    refine wp_imp (steady.connectAutoReadIfEnabled connTimeout w₁ h₁) fun r w₂ h₂ => ?_
    cases r with
    | error e => exact h₂.1
    | ok _ =>
      have idle : Idle ended { w₂ with consecutiveMissedPings := 0 }.interleave.core :=
        steady.interleave h₂
      exact idle.1.arrive idle.2 rfl

/-- An attempt made without a session books at most the one it starts. -/
lemma booked_connect {w : World} (hw : Idle ended w.core) :
    IfEnds connect (fun _ w' => Booked ended w'.core) w := by
  have steady := stable_idle ended
  unfold connect
  rw [IfEnds, wp_bind]
  refine wp_imp (idle_setStateConnecting w hw) fun _ w₁ h₁ => ?_
  rw [wp_bind]
  refine wp_imp (steady.readConfig w₁ h₁) fun _ w₂ h₂ => ?_
  rw [wp_bind]
  refine wp_imp (steady.swapAutoReadDirty false w₂ h₂) fun _ w₃ h₃ => ?_
  rw [wp_bind]
  refine wp_imp (idle_connectPhysical _ w₃ h₃) fun r w₄ h₄ => ?_
  cases r with
  | error e =>
    rw [wp_bind, wp_connectionLost]
    exact booked_lose h₄.1
  | ok stream =>
    have opened : Idle ended { w₄ with stream := some stream }.core :=
      h₄.move w₄.core.status true h₄.2
    rw [wp_bind, wp_modify, wp_bind]
    refine wp_imp (idle_setStateHandshake _ opened) fun _ w₅ h₅ => ?_
    rw [wp_bind, wp_sleep]
    exact booked_connectOpened _ h₅

/-- Connected means a stream, and without a connection there is none. -/
lemma atRest_connect {w : World} (hw : Idle ended w.core) :
    IfEnds connect (fun _ w' => AtRest ended w'.core) w := by
  refine wp_mono (wp_and (booked_connect hw) (connect_ends w)) ?_ fun _ _ => trivial
  rintro r w' ⟨booked, h⟩
  refine ⟨booked, ?_⟩
  change Attached w'.connectionState w'.stream.isSome
  split at h
  · obtain ⟨-, state, -⟩ := h
    simp [Attached, state]
  · cases h with
    | connected state stream => simp [Attached, state, stream]
    | gaveUp e gone => simp [Attached, gone.1, gone.2]

end Connect
lemma stable_attached : Stable fun c => Attached c.status.state c.attached :=
  stable_status (by simp [Attached])

lemma stable_atRest (ended : UInt64) : Stable (AtRest ended) :=
  (stable_booked ended).and stable_attached

lemma AtRest.idle {ended : UInt64} {c : Core} (h : AtRest ended c)
    (hstate : c.status.state ≠ .connected) : Idle ended c := ⟨h.1, hstate⟩

/-- A disconnect books the session it ends. -/
lemma atRest_disconnect {ended : UInt64} {w : World} (hw : AtRest ended w.core) :
    IfEnds disconnect (fun _ w' => AtRest (ended + w.core.openSessions) w'.core) w := by
  let u : World := { w with stream := none, consecutiveMissedPings := 0 }.interleave
  have booked : Booked ended u.core := booked_detached hw.1
  have state : u.connectionState = w.connectionState :=
    (Onward.interleave { w with stream := none, consecutiveMissedPings := 0 }).state_eq
  have gone : u.stream = none := detached_stream w
  refine ⟨?_, ?_⟩
  · change Booked _ (u.mapTelemetry (enterDisconnected u)).core
    by_cases hstate : u.connectionState = .connected
    · obtain ⟨since, hsince⟩ := Option.isSome_iff_exists.mp (booked.session.mpr hstate)
      have hsince' : u.state.telemetry.connectedSince = some since := hsince
      have one : w.core.openSessions = 1 := if_pos (state.symm.trans hstate)
      have left := booked.leave hsince (enterDisconnected u u.telemetry).status u.stream.isSome
        u.telemetry.connectionsLost (ended + 1) (by simp [enterDisconnected])
        (by simp only [World.core]; ac_rfl)
      rw [one]
      convert left using 1
      simp [World.core, World.mapTelemetry, enterDisconnected, closeSession, hsince']
    · have hnone : u.state.telemetry.connectedSince = none := booked.since_none hstate
      have zero : w.core.openSessions = 0 := if_neg fun h => hstate (state.trans h)
      have moved := booked.move hstate (enterDisconnected u u.telemetry).status u.stream.isSome
        (by simp [enterDisconnected])
      rw [zero, UInt64.add_zero]
      convert moved using 1
      simp [World.core, World.mapTelemetry, enterDisconnected, closeSession, hnone]
  · change Attached .disconnected u.stream.isSome
    simp [Attached, gone]

/-- How many connected sessions a client ends with this event. -/
def endedBy (branch : Branch) (state : ConnectionState) : Nat :=
  if branch = .message .disconnect ∧ state = .connected then 1 else 0

lemma endedBy_other {branch : Branch} (h : branch ≠ .message .disconnect) (ended : UInt64)
    (state : ConnectionState) : ended + UInt64.ofNat (endedBy branch state) = ended := by
  simp [endedBy, h]

lemma endedBy_disconnect (w : World) :
    UInt64.ofNat (endedBy (.message .disconnect) w.connectionState) = w.core.openSessions := by
  by_cases h : w.connectionState = .connected
  · have one : w.core.openSessions = 1 := if_pos h
    simp [endedBy, h, one]
  · have zero : w.core.openSessions = 0 := if_neg h
    simp [endedBy, h, zero]

section Events
variable {ended : UInt64}

lemma atRest_handleMessage (msg : InternalMessage) {w : World} (hw : AtRest ended w.core) :
    IfEnds (handleMessageInternal msg)
      (fun _ w' =>
        AtRest (ended + UInt64.ofNat (endedBy (.message msg) w.connectionState)) w'.core) w := by
  have steady := stable_atRest ended
  have state : w.interleave.connectionState = w.connectionState := (Onward.interleave w).state_eq
  have before : AtRest ended w.interleave.core := steady.interleave hw
  cases msg with
  | exchangeStandard data writeTimeout readTimeout createdAt maxQueueTime =>
    rw [endedBy_other]
    · exact steady.exchangeStandard data writeTimeout readTimeout createdAt maxQueueTime w hw
    · intro h; cases h
  | exchangePriority data writeTimeout readTimeout =>
    rw [endedBy_other]
    · exact steady.exchangePriority data writeTimeout readTimeout w hw
    · intro h; cases h
  | connect =>
    rw [endedBy_other]
    · simp only [handleMessageInternal, getCurrentState, IfEnds, wp_bind, wp_readTelemetry,
        wp_pure, wp_ite]
      refine ⟨fun _ => before, fun hstate => ?_⟩
      exact atRest_connect (before.idle fun h => hstate (.inl h))
    · intro h; cases h
  | disconnect =>
    rw [endedBy_disconnect]
    simp only [handleMessageInternal, getCurrentState, IfEnds, wp_bind, wp_readTelemetry, wp_pure,
      wp_ite]
    have same : w.interleave.core.openSessions = w.core.openSessions := by
      unfold Core.openSessions
      rw [show w.interleave.core.status.state = w.core.status.state from state]
    refine ⟨fun hstate => ?_, fun _ => ?_⟩
    · have zero : w.core.openSessions = 0 := by
        rw [← same]
        exact if_neg fun h => ConnectionState.noConfusion (hstate.symm.trans h)
      rw [zero, UInt64.add_zero]
      exact before
    · rw [← same]
      exact atRest_disconnect before

lemma atRest_tickReconnect (shouldReconnect : Bool) (status : ConnectionStatus) (w : World)
    (hw : AtRest ended w.core ∧ (status.state = .connectionLost → w.core.status.state ≠ .connected)) :
    IfEnds (tickReconnect shouldReconnect status) (fun _ w' => AtRest ended w'.core) w := by
  have steady : Stable fun c =>
      AtRest ended c ∧ (status.state = .connectionLost → c.status.state ≠ .connected) :=
    (stable_atRest ended).and
      (stable_status (p := fun s _ => status.state = .connectionLost → s ≠ .connected) (by simp))
  have backoff : Preserves (fun w => AtRest ended w.core ∧
      (status.state = .connectionLost → w.core.status.state ≠ .connected)) calculateBackoff :=
    steady.readTelemetry.bind fun _ => preserves_pure _
  have counted : Preserves (fun w => AtRest ended w.core ∧
      (status.state = .connectionLost → w.core.status.state ≠ .connected)) countReconnectAttempt :=
    steady.updateTelemetry fun _ _ => rfl
  unfold tickReconnect
  by_cases hreconnect : shouldReconnect = true ∧ status.state = .connectionLost
  · rw [if_pos hreconnect, IfEnds, wp_bind, wp_elapsedSince, wp_bind]
    refine wp_imp (backoff w hw) fun wait w₁ h₁ => ?_
    rw [wp_ite]
    refine ⟨fun _ => ?_, fun _ => h₁.1⟩
    rw [wp_bind]
    refine wp_imp (counted w₁ h₁) fun _ w₂ h₂ => ?_
    rw [wp_bind]
    exact atRest_connect (h₂.1.idle (h₂.2 hreconnect.2))
  · rw [if_neg hreconnect]
    exact hw.1

/-- A tick reconnects only if the state it looked at is `ConnectionLost`, and none of the steps
before it in the tick leaves that state. -/
lemma atRest_tick (shouldReconnect : Bool) {w : World} (hw : AtRest ended w.core) :
    IfEnds (pingIntervalTick shouldReconnect) (fun _ w' => AtRest ended w'.core) w := by
  unfold pingIntervalTick
  rw [IfEnds, wp_bind, wp_readTelemetry]
  let status := w.interleave.telemetry.status
  have steady : Stable fun c =>
      AtRest ended c ∧ (status.state = .connectionLost → c.status.state ≠ .connected) :=
    (stable_atRest ended).and
      (stable_status (p := fun s _ => status.state = .connectionLost → s ≠ .connected) (by simp))
  have looked : AtRest ended w.interleave.core ∧
      (status.state = .connectionLost → w.interleave.core.status.state ≠ .connected) := by
    refine ⟨(stable_atRest ended).interleave hw, fun hlost hconnected => ?_⟩
    have both : status.state = .connected := hconnected
    rw [hlost] at both
    cases both
  rw [wp_bind]
  refine wp_imp (steady.tickWatchdog status _ looked) fun _ w₁ h₁ => ?_
  rw [wp_bind]
  refine wp_imp (steady.tickPushMask status w₁ h₁) fun _ w₂ h₂ => ?_
  rw [wp_bind]
  refine wp_imp (steady.tickPing status w₂ h₂) fun _ w₃ h₃ => ?_
  exact atRest_tickReconnect shouldReconnect status w₃ h₃

lemma atRest_runBranch (shouldReconnect enabled : Bool) (branch : Branch) {w : World}
    (hw : AtRest ended w.core) :
    IfEnds (runBranch shouldReconnect enabled branch)
      (fun _ w' => AtRest (ended + UInt64.ofNat (endedBy branch w.connectionState)) w'.core) w := by
  have steady := stable_atRest ended
  cases branch with
  | message msg =>
    rw [runBranch, IfEnds, wp_bind]
    exact wp_imp (atRest_handleMessage msg hw) fun _ _ h => h
  | push =>
    rw [endedBy_other]
    · exact (Preserves.ite steady.pushBranch (preserves_pure _) : Preserves _ _) w hw
    · intro h; cases h
  | tick =>
    rw [endedBy_other]
    · exact atRest_tick shouldReconnect hw
    · intro h; cases h

/-- An iteration up to its branch: the auto-reconnect setting and whether a push was awaited. -/
def beforeBranch (turn : Turn) : Task (Bool × Bool) := do
  modify (World.receive turn)
  let shouldReconnect := (← readConfig).autoReconnect
  let enabled ← pushEnabled
  runIf (enabled && turn.pushAbandoned && turn.branch != .push) abandonPush
  return (shouldReconnect, enabled)

lemma runLoopTurn_eq_branch (turn : Turn) :
    runLoopTurn turn = beforeBranch turn >>= fun found => runBranch found.1 found.2 turn.branch := by
  simp only [runLoopTurn, beforeBranch, bind_assoc, pure_bind]

/-- Until the branch runs, an iteration only looks at the shared data and at one frame. -/
lemma Steady.beforeBranch {P : Core → Prop} (hP : Steady P) (turn : Turn) (w : World)
    (hw : P w.core) :
    IfEnds (beforeBranch turn)
      (fun found w' =>
        P w'.core ∧ found.1 = (w.receive turn).interleave.config.autoReconnect) w := by
  have enabled : Preserves (fun u => P u.core) pushEnabled :=
    preserves_get.bind fun _ =>
      Preserves.ite (hP.getCurrentState.bind fun _ => preserves_pure _) (preserves_pure _)
  have abandoned (c : Bool) : Preserves (fun u => P u.core) (runIf c abandonPush) :=
    Preserves.ite
      (preserves_get.bind fun _ =>
        Preserves.ite (hP.takePush.bind fun _ => preserves_pure _) (preserves_pure _))
      (preserves_pure _)
  have received : P (w.receive turn).interleave.core := hP.interleave (w := w.receive turn) hw
  simp only [SatelIntegra.beforeBranch, IfEnds, wp_bind, wp_modify, wp_readConfig, wp_pure]
  refine wp_imp (enabled _ received) fun enabled w₁ h₁ => ?_
  refine wp_imp (abandoned _ w₁ h₁) fun _ w₂ h₂ => ?_
  exact ⟨h₂, trivial⟩

lemma atRest_turn (turn : Turn) {w : World} (hw : AtRest ended w.core) :
    IfEnds (runLoopTurn turn)
      (fun _ w' =>
        AtRest (ended + UInt64.ofNat (endedBy turn.branch w.connectionState)) w'.core) w := by
  have same : Steady fun c => c.status.state = w.connectionState :=
    steady_status fun s _ => s = w.connectionState
  have steady : Steady fun c => AtRest ended c ∧ c.status.state = w.connectionState :=
    ⟨fun u o h => ⟨(stable_atRest ended).act u o h.1, same.act u o h.2⟩⟩
  rw [runLoopTurn_eq_branch, IfEnds, wp_bind]
  refine wp_imp (steady.beforeBranch turn w ⟨hw, rfl⟩) ?_
  rintro found w₁ ⟨⟨h₁, state⟩, -⟩
  have state : w₁.connectionState = w.connectionState := state
  rw [← state]
  exact atRest_runBranch found.1 found.2 turn.branch h₁

end Events

/-- How many connected sessions clients end in the loop. -/
def endedByLoop : List Turn → World → Nat
  | [], _ => 0
  | turn :: turns, w =>
    endedBy turn.branch w.connectionState +
      match (runLoopTurn turn).run w with
      | .ok (_, w') => endedByLoop turns w'
      | .error _ => 0

def endedByRun (first : Turn) (turns : List Turn) (w : World) : Nat :=
  match (runConnect first).run w with
  | .ok (_, w') => endedByLoop turns w'
  | .error _ => 0

lemma atRest_runLoop (turns : List Turn) {ended : UInt64} {w : World}
    (hw : AtRest ended w.core) :
    IfEnds (runLoop turns)
      (fun _ w' => AtRest (ended + UInt64.ofNat (endedByLoop turns w)) w'.core) w := by
  induction turns generalizing ended w with
  | nil =>
    have zero : ended + UInt64.ofNat (endedByLoop [] w) = ended := by simp [endedByLoop]
    rw [zero]
    exact hw
  | cons turn turns ih =>
    have stepped := atRest_turn turn hw
    unfold runLoop endedByLoop
    rw [IfEnds, wp_bind]
    cases hrun : (runLoopTurn turn).run w with
    | error e => exact (wp_of_error hrun).mpr trivial
    | ok out =>
      have rest := ih ((wp_of_ok hrun).mp stepped)
      rw [UInt64.add_assoc, ← UInt64.ofNat_add] at rest
      exact (wp_of_ok hrun).mpr rest

lemma atRest_new (config : Config) (clock : Instant) (wall : LocalTime) :
    AtRest 0 (World.new config clock wall).core := by
  refine ⟨⟨?_, fun _ => nofun, fun _ => rfl, fun _ => Nat.zero_le _, fun _ => rfl⟩, ?_⟩
  · simp [World.core, World.new, SatelState.new, ConnectionTelemetry.new]
  · simp [Attached, World.core, World.new, SatelState.new, ConnectionTelemetry.new]

lemma atRest_run (first : Turn) (turns : List Turn) (config : Config) (clock : Instant)
    (wall : LocalTime) :
    IfEnds (run first turns)
      (fun _ w => AtRest (UInt64.ofNat (endedByRun first turns (.new config clock wall))) w.core)
      (.new config clock wall) := by
  have connected : IfEnds (runConnect first) (fun _ w => AtRest 0 w.core)
      (.new config clock wall) := by
    unfold runConnect
    rw [IfEnds, wp_bind, wp_modify, wp_bind]
    exact wp_imp (atRest_connect ((atRest_new config clock wall).idle (by intro h; cases h))) fun _ _ h => h
  unfold run endedByRun
  rw [IfEnds, wp_bind]
  cases hrun : (runConnect first).run (.new config clock wall) with
  | error e => exact (wp_of_error hrun).mpr trivial
  | ok out =>
    have rest := atRest_runLoop turns ((wp_of_ok hrun).mp connected)
    rw [UInt64.zero_add] at rest
    exact (wp_of_ok hrun).mpr rest

/-- What holds while the worker waits for its next event, `ended` connected sessions having
been ended by clients. -/
structure Accounted (ended : Nat) (w : World) : Prop where
  connected_stream : w.connectionState = .connected → w.stream.isSome
  no_stream : w.connectionState = .disconnected ∨ w.connectionState = .connectionLost →
    w.stream = none
  session : w.telemetry.connectedSince.isSome ↔ w.connectionState = .connected
  total : w.clockTurnedBack = false →
    (w.telemetry.statistics w.wall).totalConnected = w.timeConnected
  balance : w.resets = 0 →
    w.telemetry.connectionsEstablished = w.telemetry.connectionsLost + UInt64.ofNat ended +
      (if w.connectionState = .connected then 1 else 0)

lemma AtRest.accounted {ended : Nat} {w : World} (h : AtRest (UInt64.ofNat ended) w.core) :
    Accounted ended w := by
  obtain ⟨booked, attached⟩ := h
  refine ⟨attached.1, fun hgone => ?_, booked.session, fun hclock => ?_, booked.balance⟩
  · exact Option.not_isSome_iff_eq_none.mp fun hsome => by
      have gone := attached.2 hgone
      rw [show w.core.attached = true from hsome] at gone
      cases gone
  · have total : w.telemetry.totalConnectedBefore + w.core.sessionLength = w.timeConnected :=
      booked.total hclock
    have bounded : w.timeConnected ≤ w.wall.nanos := booked.bounded hclock
    have statistics : (w.telemetry.statistics w.wall).totalConnected =
        saturatingAdd w.telemetry.totalConnectedBefore w.core.sessionLength := by
      by_cases hstate : w.telemetry.status.state = .connected
      · simp only [ConnectionTelemetry.statistics, hstate, if_true]
        rfl
      · have hnone : w.telemetry.connectedSince = none := booked.since_none hstate
        simp [ConnectionTelemetry.statistics, Core.sessionLength, World.core, hstate, hnone]
    rw [statistics, saturatingAdd, total]
    exact Nat.min_eq_left (Nat.le_trans bounded w.wall.inRange)

/-- The telemetry of any run of the worker, at any moment at which it waits. -/
theorem telemetry_accounts (first : Turn) (turns : List Turn) (config : Config) (clock : Instant)
    (wall : LocalTime) :
    IfEnds (run first turns)
      (fun _ w => ∀ acts : List Outside,
        Accounted (endedByRun first turns (.new config clock wall)) (acts.foldl World.act w))
      (.new config clock wall) := by
  refine wp_imp (atRest_run first turns config clock wall) fun _ w h acts => ?_
  exact ((stable_atRest _).acts acts h).accounted

end SatelIntegra
