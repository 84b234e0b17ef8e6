import SatelIntegra.Temperatures

/-!
# Which failures of a temperature read concern the sensor

A timeout and a reading of 0xFFFF are counted against the sensor and reported with a
status of their own. Every other failure is reported too, with whatever status the
zone has, and stamps the zone's read time.
-/

namespace SatelIntegra

open CheckedAccess AtomicCalls ClientCall

def TemperatureSensorStatus.isFault : TemperatureSensorStatus → Bool
  | .sensorMissing | .communicationError | .blockSensorMissing | .blockCommunicationError => true
  | .noRead | .ok | .retryRead => false

/-- Neither a timeout nor a reading of 0xFFFF. -/
def foreignError (e : SatelError) : Bool :=
  !(ZoneItem.isTimeout e || e = .temperatureSensorError)

/-- The statuses of the error events sent so far. -/
def ClientWorld.reported (w : ClientWorld) : List TemperatureSensorStatus :=
  w.events.filterMap fun
    | .zoneTemperatureError _ status => some status
    | _ => none

/-- The reads of one zone a client can call. The scan of all zones and the polling task
make reads of the first and the last kind. -/
inductive TemperatureRead where
  | raw (zoneId : UInt16) (timeout : Option Duration)
  | withBlocking (zoneId : UInt16)
  | configured (zoneId : UInt16)

namespace TemperatureRead

def zoneId : TemperatureRead → UInt16
  | raw zoneId _ | withBlocking zoneId | configured zoneId => zoneId

def call : TemperatureRead → ClientCall ZoneTemperature
  | raw zoneId timeout => getZoneTemperatureRawTimeout zoneId timeout
  | withBlocking zoneId => getZoneTemperatureWithBlocking zoneId
  | configured zoneId => getZoneTemperature zoneId

/-- The read is not held back by a block. -/
def queries (w : ClientWorld) (r : TemperatureRead) : Bool :=
  let blocked := (w.cache.zones (itemIndex 256 r.zoneId)).isBlocked (tempLimits w.config r.zoneId)
  match r with
  | raw _ _ => true
  | withBlocking _ => !blocked
  | configured _ => !(w.config.tempBlockingEnabled && blocked)

/-- Why the query of the read fails, if it makes one that does. -/
def failure (env : Surroundings) (w : ClientWorld) (r : TemperatureRead) : Option SatelError :=
  if r.queries w then
    match reading (env.answer w.asked (temperatureRequest r.zoneId)) with
    | .ok _ => none
    | .error e => some e
  else none

def after (env : Surroundings) (w : ClientWorld) (r : TemperatureRead) : ClientWorld :=
  (r.call.run (ClientOp.exec env) w).2

end TemperatureRead

/-- The temperature fields of the zone are as before, and no error was reported. -/
structure SensorUntouched (zoneId : UInt16) (w w' : ClientWorld) : Prop where
  value : (w'.cache.zones (itemIndex 256 zoneId)).temperatureValue =
    (w.cache.zones (itemIndex 256 zoneId)).temperatureValue
  readAt : (w'.cache.zones (itemIndex 256 zoneId)).temperatureReadAt =
    (w.cache.zones (itemIndex 256 zoneId)).temperatureReadAt
  status : (w'.cache.zones (itemIndex 256 zoneId)).temperatureStatus =
    (w.cache.zones (itemIndex 256 zoneId)).temperatureStatus
  timeoutsTotal : (w'.cache.zones (itemIndex 256 zoneId)).temperatureTimeoutErrorsTotal =
    (w.cache.zones (itemIndex 256 zoneId)).temperatureTimeoutErrorsTotal
  timeoutsCurrent : (w'.cache.zones (itemIndex 256 zoneId)).temperatureTimeoutErrorsCurrent =
    (w.cache.zones (itemIndex 256 zoneId)).temperatureTimeoutErrorsCurrent
  sensorErrorsTotal : (w'.cache.zones (itemIndex 256 zoneId)).temperatureSensorErrorsTotal =
    (w.cache.zones (itemIndex 256 zoneId)).temperatureSensorErrorsTotal
  sensorErrorsCurrent : (w'.cache.zones (itemIndex 256 zoneId)).temperatureSensorErrorsCurrent =
    (w.cache.zones (itemIndex 256 zoneId)).temperatureSensorErrorsCurrent
  blockedCycles : (w'.cache.zones (itemIndex 256 zoneId)).temperatureBlockedCycles =
    (w.cache.zones (itemIndex 256 zoneId)).temperatureBlockedCycles
  silent : w'.reported = w.reported

/-- A read that fails for a reason that is not the sensor's leaves the sensor alone. -/
def SparesSensor (env : Surroundings) (w : ClientWorld) (r : TemperatureRead) : Prop :=
  ∀ e, r.failure env w = some e → foreignError e = true →
    SensorUntouched r.zoneId w (r.after env w)

/-- What was reported since `before` are faults. -/
def FaultsSince (before : List TemperatureSensorStatus) (w : ClientWorld) : Prop :=
  ∃ more, w.reported = before ++ more ∧ ∀ status ∈ more, status.isFault = true

/-! ### One read -/

section Read
variable {env : Surroundings} {w w' : ClientWorld}

lemma blockedStatus_isFault (limits : TempLimits) (z : ZoneItem) :
    (z.blockedStatus limits).isFault = true := by
  unfold ZoneItem.blockedStatus
  split <;> rfl

lemma reportedStatus_isFault {e : SatelError} {z : ZoneItem} :
    (z.reportedStatus e).isFault = true ↔
      (foreignError e = true → z.temperatureStatus.isFault = true) := by
  unfold ZoneItem.reportedStatus foreignError
  by_cases timeout : ZoneItem.isTimeout e = true
  · simp [timeout, TemperatureSensorStatus.isFault]
  · by_cases sensor : e = .temperatureSensorError
    · subst sensor
      simp [TemperatureSensorStatus.isFault, ZoneItem.isTimeout]
    · simp [timeout, sensor]

lemma reported_countTempError (zoneId : UInt16) (e : SatelError) :
    (w.countTempError env zoneId e).reported = w.reported ++
      [(w.cache.zones (itemIndex 256 zoneId)).reportedStatus e] := by
  simp [ClientWorld.countTempError, ClientWorld.reported, ClientWorld.send, ClientWorld.enter,
    ClientWorld.readClock]

lemma reported_eq_of_events (h : w'.events = w.events) : w'.reported = w.reported :=
  congrArg (List.filterMap _) h

lemma reported_changed {id : UInt16} {temp : HalfDegrees}
    (h : w'.events = w.events ++ [.zoneTemperatureChanged id temp]) :
    w'.reported = w.reported := by
  simp [ClientWorld.reported, h]

/-- A query that fails is counted in a world that differs by requests and clock readings. -/
lemma run_raw_failed {zoneId : UInt16} {timeout : Option Duration} {e : SatelError}
    (failed : reading (env.answer w.asked (temperatureRequest zoneId)) = .error e) :
    ((getZoneTemperatureRawTimeout zoneId timeout).run (ClientOp.exec env) w).2 =
      (w.ask (temperatureRequest zoneId)).countTempError env zoneId e := by
  rw [run_getZoneTemperatureRawTimeout, failed]

lemma run_raw_silent {zoneId : UInt16} {timeout : Option Duration} {value : UInt16 × HalfDegrees}
    (taken : reading (env.answer w.asked (temperatureRequest zoneId)) = .ok value) :
    ((getZoneTemperatureRawTimeout zoneId timeout).run (ClientOp.exec env) w).2.reported =
      w.reported := by
  obtain ⟨id, temp⟩ := value
  rw [run_getZoneTemperatureRawTimeout, taken]
  obtain ⟨w', run, -, -, -, events⟩ :=
    @run_takeTemperature env (w.ask (temperatureRequest zoneId)) id temp
  simp only [run]
  rcases events with same | changed
  · exact reported_eq_of_events same
  · exact reported_changed changed

lemma stayBlocked_reports (zoneId : UInt16) (limits : TempLimits) (info : ZoneItem) :
    FaultsSince w.reported ((stayBlocked zoneId limits info).run (ClientOp.exec env) w).2 := by
  simp only [stayBlocked]
  split
  · exact ⟨[], (List.append_nil _).symm, by simp⟩
  · by_cases emit : w.config.emitUnchangedTemperatures = true
    · refine ⟨[info.blockedStatus limits], ?_, ?_⟩
      · simp [emit, ClientWorld.reported, ClientWorld.send, ClientWorld.enter,
          ClientWorld.readClock]
      · intro status mem
        rw [List.mem_singleton.mp mem]
        exact blockedStatus_isFault limits info
    · refine ⟨[], ?_, by simp⟩
      simp [emit, ClientWorld.reported, ClientWorld.enter, ClientWorld.readClock]

/-- The configuration decides which of the other two reads is made. -/
lemma after_configured (env : Surroundings) (w : ClientWorld) (zoneId : UInt16) :
    TemperatureRead.after env w (.configured zoneId) =
      if w.config.tempBlockingEnabled then TemperatureRead.after env w (.withBlocking zoneId)
      else TemperatureRead.after env w (.raw zoneId none) := by
  simp only [TemperatureRead.after, TemperatureRead.call, getZoneTemperature,
    CallTree.run_perform_bind, ClientOp.exec_readConfig]
  by_cases enabled : w.config.tempBlockingEnabled = true
  · simp only [enabled, if_true]
  · simp only [enabled]
    rfl

/-- A read that is not held back is a query, made once the configuration and the zone have
been looked at. -/
lemma after_of_queries {r : TemperatureRead} (free : r.queries w = true) :
    ∃ w₁ timeout, w₁.cache = w.cache ∧ w₁.config = w.config ∧ w₁.asked = w.asked ∧
      w₁.events = w.events ∧
      r.after env w =
        ((getZoneTemperatureRawTimeout r.zoneId timeout).run (ClientOp.exec env) w₁).2 := by
  have blocking {zoneId : UInt16}
      (free : (w.cache.zones (itemIndex 256 zoneId)).isBlocked (tempLimits w.config zoneId) =
        false) :
      ((getZoneTemperatureWithBlocking zoneId).run (ClientOp.exec env) w).2 =
        ((getZoneTemperatureRawTimeout zoneId none).run (ClientOp.exec env) w.readClock).2 := by
    have run := @run_getZoneTemperatureWithBlocking env w zoneId
    simp only [free, Bool.false_eq_true, if_false] at run
    rw [run]
    rfl
  cases r with
  | raw zoneId timeout => exact ⟨w, timeout, rfl, rfl, rfl, rfl, rfl⟩
  | withBlocking zoneId =>
    have open' := Bool.not_eq_true' _ |>.mp free
    exact ⟨w.readClock, none, rfl, rfl, rfl, rfl, blocking open'⟩
  | configured zoneId =>
    rw [after_configured]
    by_cases enabled : w.config.tempBlockingEnabled = true
    · have open' : (w.cache.zones (itemIndex 256 zoneId)).isBlocked (tempLimits w.config zoneId) =
          false := by simpa [TemperatureRead.queries, enabled, TemperatureRead.zoneId] using free
      rw [if_pos enabled]
      exact ⟨w.readClock, none, rfl, rfl, rfl, rfl, blocking open'⟩
    · rw [if_neg enabled]
      exact ⟨w, none, rfl, rfl, rfl, rfl, rfl⟩

lemma after_of_blocked {r : TemperatureRead} (held : r.queries w = false) :
    FaultsSince w.reported (r.after env w) := by
  have blocking {zoneId : UInt16}
      (blocked : (w.cache.zones (itemIndex 256 zoneId)).isBlocked (tempLimits w.config zoneId) =
        true) :
      FaultsSince w.reported
        ((getZoneTemperatureWithBlocking zoneId).run (ClientOp.exec env) w).2 := by
    rw [run_of_blocked zoneId blocked]
    exact stayBlocked_reports (w := w.readClock) zoneId _ _
  cases r with
  | raw zoneId timeout => cases held
  | withBlocking zoneId =>
    have blocked := Bool.not_eq_false' _ |>.mp held
    exact blocking blocked
  | configured zoneId =>
    have both : w.config.tempBlockingEnabled = true ∧
        (w.cache.zones (itemIndex 256 zoneId)).isBlocked (tempLimits w.config zoneId) = true := by
      simpa [TemperatureRead.queries, TemperatureRead.zoneId] using held
    rw [after_configured, if_pos both.1]
    exact blocking both.2

/-- What a read reports: the status of its failure, or faults only. -/
lemma after_failure (env : Surroundings) (w : ClientWorld) (r : TemperatureRead) :
    match r.failure env w with
    | some e => (r.after env w).reported = w.reported ++
        [(w.cache.zones (itemIndex 256 r.zoneId)).reportedStatus e]
    | none => FaultsSince w.reported (r.after env w) := by
  unfold TemperatureRead.failure
  cases free : r.queries w with
  | false => exact after_of_blocked free
  | true =>
    obtain ⟨w₁, timeout, cache, -, asked, events, after⟩ := @after_of_queries env _ _ free
    have same := reported_eq_of_events events
    rw [after, ← asked, ← cache, ← same]
    cases read : reading (env.answer w₁.asked (temperatureRequest r.zoneId)) with
    | error e =>
      simp only [if_true]
      rw [run_raw_failed read]
      exact reported_countTempError r.zoneId e
    | ok value =>
      simp only [if_true]
      refine ⟨[], ?_, by simp⟩
      rw [run_raw_silent read, List.append_nil]

/-- Such a read is reported, so it never leaves the sensor alone. -/
lemma sparesSensor_iff {r : TemperatureRead} :
    SparesSensor env w r ↔ ∀ e, r.failure env w = some e → foreignError e = false := by
  constructor
  · intro spares e failed
    by_contra foreign
    simp only [Bool.not_eq_false] at foreign
    have untouched := spares e failed foreign
    have reports := after_failure env w r
    rw [failed] at reports
    simp [untouched.silent] at reports
  · intro own e failed foreign
    cases (own e failed).symm.trans foreign

lemma faultsSince_iff {r : TemperatureRead} :
    FaultsSince w.reported (r.after env w) ↔
      ∀ e, r.failure env w = some e → foreignError e = true →
        (w.cache.zones (itemIndex 256 r.zoneId)).temperatureStatus.isFault = true := by
  have reports := after_failure env w r
  cases failed : r.failure env w with
  | none =>
    rw [failed] at reports
    simpa using reports
  | some e =>
    rw [failed] at reports
    constructor
    · rintro ⟨more, appended, faults⟩ e' same foreign
      obtain rfl := Option.some.inj same
      have single := List.append_cancel_left (appended.symm.trans reports)
      subst single
      exact reportedStatus_isFault.mp (faults _ (List.mem_singleton.mpr rfl)) foreign
    · intro faulty
      refine ⟨_, reports, ?_⟩
      intro status mem
      rw [List.mem_singleton.mp mem]
      exact reportedStatus_isFault.mpr (faulty e rfl)

end Read

/-! ### Tasks that share a client -/

/-- The operation sends no temperature error. -/
def SendsNoError (op : ClientOp) : Prop := ∀ id status, op ≠ .send (.zoneTemperatureError id status)

/-- A temperature error that the operation sends is a fault. -/
def SendsFault (op : ClientOp) : Prop :=
  ∀ id status, op = .send (.zoneTemperatureError id status) → status.isFault = true

/-- The calls of the tasks: reads of any zone, and all that send no temperature error of
their own, such as resets, reloads and name queries. -/
inductive SensorCall : ClientCall Unit → Prop where
  | read (r : TemperatureRead) : SensorCall (do let _ ← r.call)
  | other (c : ClientCall Unit) (silent : c.Only SendsNoError) : SensorCall c

/-- A failure that is not the sensor's is counted only for a zone with a fault. -/
def OnlyFaulty {ι : Type} (m : ClientMoment ι) (_ : ι) (op : ClientOp) : Prop :=
  ∀ id e limits, op = .underLock (.temperatureError id e limits) → foreignError e = true →
    (m.shared.cache.zones (itemIndex 256 id)).temperatureStatus.isFault = true

section Tasks
variable {ι : Type} {env : Surroundings} {before : List TemperatureSensorStatus}

def faultContract (ι : Type) (env : Surroundings) (before : List TemperatureSensorStatus) :
    Contract ι ClientOp ClientOp.Answer ClientWorld where
  exec := ClientOp.exec env
  allowed := OnlyFaulty
  Inv m := FaultsSince before m.shared
  promise _ _ _ := True

variable {i : ι} {m : ClientMoment ι}

lemma reported_exec {op : ClientOp} (silent : SendsNoError op) (w : ClientWorld) :
    (ClientOp.exec env op w).2.reported = w.reported := by
  cases op with
  | send event =>
    cases event with
    | zoneTemperatureError id status => exact absurd rfl (silent id status)
    | _ => simp [ClientWorld.reported, ClientWorld.send]
  | _ => rfl

lemma faultsSince_exec {op : ClientOp} (fault : SendsFault op) {w : ClientWorld}
    (h : FaultsSince before w) : FaultsSince before (ClientOp.exec env op w).2 := by
  obtain ⟨more, appended, faults⟩ := h
  by_cases silent : SendsNoError op
  · exact ⟨more, (reported_exec silent w).trans appended, faults⟩
  · simp only [SendsNoError, ne_eq, not_forall, not_not] at silent
    obtain ⟨id, status, rfl⟩ := silent
    refine ⟨more ++ [status], ?_, ?_⟩
    · rw [← List.append_assoc, ← appended]
      simp [ClientWorld.reported, ClientWorld.send]
    · intro status' mem
      rcases List.mem_append.mp mem with earlier | last
      · exact faults status' earlier
      · rw [List.mem_singleton.mp last]
        exact fault id status rfl

lemma sendsFault_of_none {op : ClientOp} (silent : SendsNoError op) : SendsFault op := by
  rintro id status rfl
  exact absurd rfl (silent id status)

lemma safe_of_sendsFault {α : Type} {c : ClientCall α} (h : c.Only SendsFault) :
    (faultContract ι env before).Safe i (fun _ _ => True) c m :=
  Contract.safe_of_only
    (fun _ _ fault since _ => ⟨trivial, faultsSince_exec fault since⟩) h

/-- An operation that sends no other error, then the rest of the call. -/
lemma safe_step {α : Type} {op : ClientOp} {f : op.Answer → ClientCall α} (fault : SendsFault op)
    (rest : ∀ answer m', (faultContract ι env before).Safe i (fun _ _ => True) (f answer) m') :
    (faultContract ι env before).Safe i (fun _ _ => True) (CallTree.perform op >>= f) m := by
  refine Contract.safe_perform_bind.mpr ?_
  intro m' _ since _
  exact ⟨trivial, @faultsSince_exec env _ _ fault _ since, rest _ _⟩

/-- Reading the configuration, then the rest of the call. -/
lemma safe_readConfig {α : Type} {f : Config → ClientCall α}
    (rest : ∀ config m', (faultContract ι env before).Safe i (fun _ _ => True) (f config) m') :
    (faultContract ι env before).Safe i (fun _ _ => True) (ClientCall.readConfig >>= f) m := by
  apply safe_step
  · intro id status same
    cases same
  · exact rest

/-- The status reported is the one the zone had under the lock. -/
lemma updateTempError_safe (zoneId : UInt16) (e : SatelError) :
    (faultContract ι env before).Safe i (fun _ _ => True) (updateTempError zoneId e) m := by
  apply safe_readConfig
  intro config m₁
  refine Contract.safe_perform_bind.mpr ?_
  intro m₂ _ since faulty
  have counts : SendsFault
      (.underLock (.temperatureError zoneId e (tempLimits config zoneId))) := by
    intro id status same
    cases same
  refine ⟨trivial, @faultsSince_exec env _ _ counts _ since, ?_⟩
  apply safe_of_sendsFault
  rw [CallTree.only_perform]
  intro id status same
  cases same
  exact reportedStatus_isFault.mpr (faulty zoneId e _ rfl)

lemma failed_safe {α : Type} (zoneId : UInt16) (e : SatelError) (f : Failure) :
    (faultContract ι env before).Safe i (fun _ _ => True)
      (do updateTempError zoneId e; throw f : ClientCall α) m :=
  Contract.Safe.bind ((updateTempError_safe zoneId e).imp fun r _ _ => by cases r <;> exact trivial)

lemma takeTemperature_sendsFault (id : UInt16) (temp : HalfDegrees) :
    (takeTemperature id temp).Only SendsFault := by
  have stores : (updateTemperatureSuccessInternal id temp).Only SendsFault := by
    simp [updateTemperatureSuccessInternal, SendsFault]
  apply CallTree.Only.bind stores
  intro oldTemp
  simp [getCachedZoneTemperature, SendsFault]

lemma queryTemperature_safe (zoneId : UInt16) (timeout : Duration) :
    (faultContract ι env before).Safe i (fun _ _ => True) (queryTemperature zoneId timeout) m := by
  apply safe_step
  · intro id status same
    cases same
  intro answer m'
  cases answer with
  | error e => exact failed_safe zoneId e _
  | ok response =>
    simp only [ExceptT.run, processZoneTemperature_eq, orPanic_ok, Contract.safe_pure_bind]
    cases temperatureReply response with
    | none => exact failed_safe zoneId _ _
    | some reply =>
      obtain ⟨id, raw⟩ := reply
      by_cases silent : raw = 0xFFFF
      · simp only [silent, if_true]
        exact failed_safe zoneId _ _
      · simp only [silent, if_false]
        exact safe_of_sendsFault (takeTemperature_sendsFault id _)

lemma rawTimeout_safe (zoneId : UInt16) (timeout : Option Duration) :
    (faultContract ι env before).Safe i (fun _ _ => True)
      (getZoneTemperatureRawTimeout zoneId timeout) m := by
  cases timeout with
  | some timeout => exact queryTemperature_safe zoneId timeout
  | none =>
    apply safe_readConfig
    intro config m'
    exact queryTemperature_safe zoneId _

lemma stayBlocked_sendsFault (zoneId : UInt16) (limits : TempLimits) (info : ZoneItem) :
    (stayBlocked zoneId limits info).Only SendsFault := by
  simp only [stayBlocked]
  split
  · simp [SendsFault]
  · simp [SendsFault, blockedStatus_isFault]

lemma withBlocking_safe (zoneId : UInt16) :
    (faultContract ι env before).Safe i (fun _ _ => True)
      (getZoneTemperatureWithBlocking zoneId) m := by
  apply safe_readConfig
  intro config m₁
  apply safe_step
  · intro id status same
    cases same
  intro cache m₂
  dsimp only
  split
  · exact safe_of_sendsFault (stayBlocked_sendsFault zoneId _ _)
  · exact rawTimeout_safe zoneId none

lemma read_safe (r : TemperatureRead) :
    (faultContract ι env before).Safe i (fun _ _ => True) r.call m := by
  cases r with
  | raw zoneId timeout => exact rawTimeout_safe zoneId timeout
  | withBlocking zoneId => exact withBlocking_safe zoneId
  | configured zoneId =>
    apply safe_readConfig
    intro config m'
    split
    · exact withBlocking_safe zoneId
    · exact rawTimeout_safe zoneId none

lemma sensorCall_starts {c : ClientCall Unit} (call : SensorCall c) :
    (faultContract ι env before).Starts c := by
  intro i m _
  cases call with
  | read r => exact (read_safe r).andThen fun _ _ => trivial
  | other c silent =>
    exact Contract.safe_of_only
      (fun _ op quiet since _ =>
        ⟨trivial, @faultsSince_exec env _ op (sendsFault_of_none quiet) _ since⟩) silent

end Tasks

/-- A read whose failure is not the sensor's always touches the sensor: it is reported. What a
read reports is a fault exactly when such a failure finds the zone with a fault, and in every
run of tasks in which each such failure does, only faults are reported. -/
theorem sensor_faults_iff {ι : Type} [DecidableEq ι] (env : Surroundings) (w : ClientWorld) :
    (∀ r : TemperatureRead, SparesSensor env w r ↔
      ∀ e, r.failure env w = some e → foreignError e = false) ∧
    (∀ r : TemperatureRead, FaultsSince w.reported (r.after env w) ↔
      ∀ e, r.failure env w = some e → foreignError e = true →
        (w.cache.zones (itemIndex 256 r.zoneId)).temperatureStatus.isFault = true) ∧
    ∀ p : ClientPool ι, p.Reachable (ClientOp.exec env) SensorCall OnlyFaulty w →
      FaultsSince w.reported p.moment.shared := by
  refine ⟨fun _ => sparesSensor_iff, fun _ => faultsSince_iff, ?_⟩
  intro p run
  have first : FaultsSince w.reported w := ⟨[], (List.append_nil _).symm, by simp⟩
  exact Contract.invariant (C := faultContract ι env w.reported)
    (fun c call => sensorCall_starts call) first run

/-- No connection to a panel. -/
def offline : Surroundings :=
  ⟨fun _ _ => .error .notConnected, fun _ => .error .notConnected, fun _ => ⟨0, Nat.zero_le _⟩⟩

def freshClient : ClientWorld := .new {} ⟨0, Nat.zero_le _⟩

def readZone1 : TemperatureRead := .raw 1 none

/-- A read without a connection reports that zone 1 has not been read yet, as its fault. -/
theorem not_connected_reported :
    (¬ ∀ (env : Surroundings) (w : ClientWorld) (r : TemperatureRead), SparesSensor env w r) ∧
    ¬ ∀ (env : Surroundings) (w : ClientWorld) (p : ClientPool Unit),
      p.Reachable (ClientOp.exec env) SensorCall (fun _ _ _ => True) w →
        FaultsSince w.reported p.moment.shared := by
  constructor
  · intro all
    have silent := (all offline freshClient readZone1 .notConnected rfl rfl).silent
    have sent : (readZone1.after offline freshClient).reported = [.noRead] := by decide
    cases silent.symm.trans sent
  · intro all
    have started : Pool.Reachable (ClientOp.exec offline) SensorCall (fun _ _ _ => True)
        freshClient _ := Pool.Reachable.start .refl () _ (.read readZone1) rfl
    obtain ⟨more, sent, faults⟩ := all _ _ _ (started.turns (List.replicate 5 ()) (by decide))
    have first : TemperatureSensorStatus.noRead ∈ more := by
      have unread : freshClient.reported ++ more = [.noRead] := sent.symm.trans (by decide)
      have none : freshClient.reported = [] := rfl
      rw [none, List.nil_append] at unread
      rw [unread]
      exact List.mem_singleton.mpr rfl
    cases faults _ first

end SatelIntegra
