import SatelIntegra.Temperatures

/-!
# Resets and good readings beside calls with blocking

A call with blocking decides by a snapshot, and writes the status that follows from
it in a later block under the lock. What another task did to the zone in between is
lost then, and only then.
-/

namespace SatelIntegra

open AtomicCalls ClientCall

variable {ι : Type}

def ZoneItem.below (limits : TempLimits) (z : ZoneItem) : Bool :=
  z.temperatureTimeoutErrorsCurrent < limits.maxTimeoutErrors
    && z.temperatureSensorErrorsCurrent < limits.maxSensorErrors

section Trace
variable (zoneId : UInt16) (limits : TempLimits)

/-- A reset of the zone, or a success that leaves both its counters below their limits. -/
def settles : (op : ClientOp) → op.Answer → Bool
  | .underLock (.resetTemperature id), _ => itemIndex 256 id == itemIndex 256 zoneId
  | .underLock (.temperatureSuccess id temp), before =>
    let z := before.zones (itemIndex 256 zoneId)
    itemIndex 256 id == itemIndex 256 zoneId
      && (z.temperatureSuccess temp z.temperatureReadAt).below limits
  | _, _ => false

/-- A failing query of the zone is counted. -/
def recordsFailure : ClientOp → Bool
  | .underLock (.temperatureError id error _) =>
    itemIndex 256 id == itemIndex 256 zoneId
      && (ZoneItem.isTimeout error || error = .temperatureSensorError)
  | _ => false

/-- After a reset or such a success, and before the next failing query is counted. -/
def settled : List (ClientEvent ι) → Bool
  | [] => false
  | e :: earlier =>
    settles zoneId limits e.op e.answer || (!recordsFailure zoneId e.op && settled earlier)

def snapshot : (op : ClientOp) → op.Answer → Option ItemCache
  | .underLock .look, cache => some cache
  | _, _ => none

variable [DecidableEq ι]

/-- The last snapshot a task has taken. -/
def lastSnapshot (i : ι) : List (ClientEvent ι) → Option ItemCache
  | [] => none
  | e :: earlier =>
    if e.task = i then (snapshot e.op e.answer).or (lastSnapshot i earlier)
    else lastSnapshot i earlier

/-- There was a reset or such a success after the last snapshot of the task. -/
def settledSince (i : ι) : List (ClientEvent ι) → Bool
  | [] => false
  | e :: earlier =>
    !(e.task = i && (snapshot e.op e.answer).isSome)
      && (settles zoneId limits e.op e.answer || settledSince i earlier)

/-- A task that keeps the zone blocked does so by a snapshot that is not older than a reset or
success that still stands. -/
def NoStaleBlock (m : ClientMoment ι) (i : ι) (op : ClientOp) : Prop :=
  ∀ id status cycles, op = .underLock (.keepBlocked id status cycles) →
    itemIndex 256 id = itemIndex 256 zoneId →
      ¬ (settled zoneId limits m.trace = true ∧ settledSince zoneId limits i m.trace = true)

end Trace

/-- The calls a task may make: on this zone, with their values left out. -/
inductive ProbeCall (zoneId : UInt16) : ClientCall Unit → Prop where
  | read : ProbeCall zoneId (do let _ ← getZoneTemperatureWithBlocking zoneId)
  | reset : ProbeCall zoneId (resetTemperatureSensor zoneId)
  | success (temp : HalfDegrees) :
      ProbeCall zoneId (do let _ ← updateTemperatureSuccessInternal zoneId temp)

/-! ### What an operation does to the zone -/

section Zone
variable {limits : TempLimits} {z : ZoneItem}

lemma ZoneItem.isBlocked_eq_false_iff : z.isBlocked limits = false ↔
    z.temperatureStatus ≠ .blockSensorMissing ∧ z.temperatureStatus ≠ .blockCommunicationError ∧
      z.below limits = true := by
  simp [isBlocked, below, and_assoc]

lemma pred_lt_of_lt {u max : UInt32} (positive : 0 < u) (h : u < max) : u - 1 < max := by
  have one : (1 : UInt32) ≤ u := UInt32.le_iff_toNat_le.mpr (UInt32.lt_iff_toNat_lt.mp positive)
  rw [UInt32.lt_iff_toNat_lt] at h ⊢
  rw [UInt32.toNat_sub_of_le _ _ one]
  exact Nat.lt_of_le_of_lt (Nat.sub_le _ _) h

lemma ZoneItem.below_success (temp : HalfDegrees) (now : LocalTime) (h : z.below limits = true) :
    (z.temperatureSuccess temp now).below limits = true := by
  have fewer {u max : UInt32} (h : u < max) : (if u > 0 then u - 1 else u) < max := by
    split
    · rename_i positive
      exact pred_lt_of_lt positive h
    · exact h
  simp only [below, Bool.and_eq_true, decide_eq_true_eq] at h ⊢
  exact ⟨fewer h.1, fewer h.2⟩

lemma lowered_lt {u max max' : UInt32} (h : u < max) : ZoneItem.lowered u max' < max := by
  unfold ZoneItem.lowered
  split
  · split
    · rename_i zero
      exact zero ▸ h
    · rename_i positive
      exact pred_lt_of_lt (UInt32.pos_iff_ne_zero.mpr positive) h
  · exact h

lemma ZoneItem.below_unblock (limits' : TempLimits) (h : z.below limits = true) :
    (z.unblock limits').below limits = true := by
  simp only [below, Bool.and_eq_true, decide_eq_true_eq] at h ⊢
  exact ⟨lowered_lt h.1, lowered_lt h.2⟩

lemma ZoneItem.isBlocked_success {temp : HalfDegrees} {now : LocalTime}
    (h : (z.temperatureSuccess temp now).below limits = true) :
    (z.temperatureSuccess temp now).isBlocked limits = false := by
  refine isBlocked_eq_false_iff.mpr ⟨?_, ?_, h⟩
  · simp [temperatureSuccess]
  · simp [temperatureSuccess]

lemma ZoneItem.isBlocked_reset (positive : 0 < limits.maxTimeoutErrors ∧ 0 < limits.maxSensorErrors) :
    z.resetTemperature.isBlocked limits = false := by
  refine isBlocked_eq_false_iff.mpr ⟨?_, ?_, ?_⟩
  · simp [resetTemperature]
  · simp [resetTemperature]
  · simp [below, resetTemperature, positive]

lemma ZoneItem.isBlocked_unblock (limits' : TempLimits) (h : z.isBlocked limits = false) :
    (z.unblock limits').isBlocked limits = false := by
  obtain ⟨-, -, below⟩ := isBlocked_eq_false_iff.mp h
  refine isBlocked_eq_false_iff.mpr ⟨?_, ?_, below_unblock limits' below⟩
  · simp [unblock]
  · simp [unblock]

/-- An error that is not counted leaves status and counters alone. -/
lemma ZoneItem.isBlocked_error {error : SatelError} {limits' : TempLimits} {now : LocalTime}
    (uncounted : (isTimeout error || error = .temperatureSensorError) = false) :
    (z.temperatureError error limits' now).isBlocked limits = z.isBlocked limits := by
  obtain ⟨timeout, sensor⟩ := Bool.or_eq_false_iff.mp uncounted
  have sensor' : error ≠ .temperatureSensorError := of_decide_eq_false sensor
  simp [temperatureError, timeout, sensor', isBlocked]

/-- What a block under the lock leaves true of a zone that is not blocked, if it neither counts an
error for the zone nor keeps it blocked. -/
lemma isBlocked_enter {zoneId : UInt16} {cache : ItemCache} {now : LocalTime} (code : CacheSection)
    (positive : 0 < limits.maxTimeoutErrors ∧ 0 < limits.maxSensorErrors)
    (quiet : recordsFailure zoneId (.underLock code) = false)
    (free : ∀ id status cycles, code = .keepBlocked id status cycles →
      itemIndex 256 id ≠ itemIndex 256 zoneId)
    (h : settles zoneId limits (.underLock code) cache = true ∨
      (cache.zones (itemIndex 256 zoneId)).isBlocked limits = false) :
    ((cache.enter now code).zones (itemIndex 256 zoneId)).isBlocked limits = false := by
  cases code with
  | temperatureSuccess id temp =>
    rw [ItemCache.enter, ItemCache.modifyZone_zones]
    split
    · rename_i same
      apply ZoneItem.isBlocked_success
      rcases h with settles | free
      · exact (Bool.and_eq_true_iff.mp settles).2
      · exact ZoneItem.below_success _ _ (ZoneItem.isBlocked_eq_false_iff.mp free).2.2
    · rename_i other
      exact h.resolve_left (by simp [settles, other])
  | temperatureError id error limits' =>
    rw [ItemCache.enter, ItemCache.modifyZone_zones]
    have unsettled := h.resolve_left (by simp [settles])
    split
    · rename_i same
      rw [ZoneItem.isBlocked_error (by simpa [recordsFailure, same] using quiet)]
      exact unsettled
    · exact unsettled
  | resetTemperature id =>
    rw [ItemCache.enter, ItemCache.modifyZone_zones]
    split
    · exact ZoneItem.isBlocked_reset positive
    · rename_i other
      exact h.resolve_left (by simp [settles, other])
  | unblock id limits' =>
    rw [ItemCache.enter, ItemCache.modifyZone_zones]
    have unsettled := h.resolve_left (by simp [settles])
    split
    · exact ZoneItem.isBlocked_unblock _ unsettled
    · exact unsettled
  | keepBlocked id status cycles =>
    rw [ItemCache.enter, ItemCache.modifyZone_zones, if_neg (free id status cycles rfl)]
    exact h.resolve_left (by simp [settles])
  | storeZone id name params =>
    rw [ItemCache.enter, ItemCache.modifyZone_zones]
    have unsettled := h.resolve_left (by simp [settles])
    split <;> exact unsettled
  | clearZone id now' =>
    rw [ItemCache.enter, ItemCache.modifyZone_zones]
    have unsettled := h.resolve_left (by simp [settles])
    split <;> exact unsettled
  | look | storeOutput id name params | clearOutput id now' | storePartition id name params
  | clearPartition id now' => exact h.resolve_left (by simp [settles])

end Zone

/-! ### What every operation keeps -/

section Invariant
variable (zoneId : UInt16) (limits : TempLimits)

/-- A settled zone is not blocked, and was not when a task took a snapshot that nothing has
overtaken. -/
structure Calm [DecidableEq ι] (m : ClientMoment ι) : Prop where
  current : tempLimits m.shared.config zoneId = limits
  zone : settled zoneId limits m.trace = true →
    (m.shared.cache.zones (itemIndex 256 zoneId)).isBlocked limits = false
  snapshots : ∀ i cache, lastSnapshot i m.trace = some cache →
    settledSince zoneId limits i m.trace = false → settled zoneId limits m.trace = true →
      (cache.zones (itemIndex 256 zoneId)).isBlocked limits = false

variable {zoneId limits} {env : Surroundings} {m : ClientMoment ι}

lemma not_recordsFailure_of_settles {op : ClientOp} {answer : op.Answer}
    (h : settles zoneId limits op answer = true) : recordsFailure zoneId op = false := by
  cases op with
  | underLock code =>
    cases code with
    | temperatureSuccess id temp => rfl
    | resetTemperature id => rfl
    | _ => cases h
  | _ => cases h

lemma settled_cons {e : ClientEvent ι} {earlier : List (ClientEvent ι)}
    (h : settled zoneId limits (e :: earlier) = true) :
    recordsFailure zoneId e.op = false ∧
      (settles zoneId limits e.op e.answer = true ∨ settled zoneId limits earlier = true) := by
  simp only [settled, Bool.or_eq_true, Bool.and_eq_true, Bool.not_eq_true'] at h
  rcases h with settles | ⟨quiet, earlier⟩
  · exact ⟨not_recordsFailure_of_settles settles, .inl settles⟩
  · exact ⟨quiet, .inr earlier⟩

variable [DecidableEq ι]

/-- An operation that keeps a settled zone unblocked. -/
lemma Calm.zone_perform (calm : Calm zoneId limits m)
    (positive : 0 < limits.maxTimeoutErrors ∧ 0 < limits.maxSensorErrors) (i : ι) (op : ClientOp)
    (free : ∀ id status cycles, op = .underLock (.keepBlocked id status cycles) →
      itemIndex 256 id = itemIndex 256 zoneId → settled zoneId limits m.trace = false)
    (h : settled zoneId limits (m.perform (ClientOp.exec env) i op).trace = true) :
    ((m.perform (ClientOp.exec env) i op).shared.cache.zones (itemIndex 256 zoneId)).isBlocked
      limits = false := by
  obtain ⟨quiet, before⟩ := settled_cons h
  cases op with
  | underLock code =>
    refine isBlocked_enter code positive quiet ?_ (before.imp_right calm.zone)
    rintro id status cycles rfl same
    rcases before with settles | before
    · cases settles
    · cases before.symm.trans (free id status cycles rfl same)
  | _ => exact calm.zone (before.resolve_left Bool.false_ne_true)

lemma eq_look_of_snapshot {op : ClientOp} {answer : op.Answer} {cache : ItemCache}
    (h : snapshot op answer = some cache) : op = .underLock .look ∧ answer ≍ cache := by
  cases op with
  | underLock code =>
    cases code with
    | look => exact ⟨rfl, heq_of_eq (Option.some.inj h)⟩
    | _ => cases h
  | _ => cases h

lemma Calm.perform (calm : Calm zoneId limits m)
    (positive : 0 < limits.maxTimeoutErrors ∧ 0 < limits.maxSensorErrors) (i : ι) (op : ClientOp)
    (same : ∀ newConfig, op ≠ .swapConfig newConfig)
    (free : ∀ id status cycles, op = .underLock (.keepBlocked id status cycles) →
      itemIndex 256 id = itemIndex 256 zoneId → settled zoneId limits m.trace = false) :
    Calm zoneId limits (m.perform (ClientOp.exec env) i op) := by
  refine ⟨?_, calm.zone_perform positive i op free, ?_⟩
  · cases op with
    | swapConfig newConfig => exact absurd rfl (same newConfig)
    | _ => exact calm.current
  · intro j cache last fresh now
    obtain ⟨-, before⟩ := settled_cons now
    by_cases mine : i = j ∧ op = .underLock .look
    · -- the snapshot is of this very state
      obtain ⟨rfl, rfl⟩ := mine
      have taken : lastSnapshot i (m.perform (ClientOp.exec env) i (.underLock .look)).trace =
          some m.shared.cache := by simp [Moment.perform, lastSnapshot, snapshot]
      obtain rfl := Option.some.inj (taken.symm.trans last)
      exact calm.zone (before.resolve_left Bool.false_ne_true)
    · have older : (decide (i = j) && (snapshot op (ClientOp.exec env op m.shared).1).isSome) =
          false := by
        by_contra taken
        simp only [Bool.not_eq_false, Bool.and_eq_true, decide_eq_true_eq,
          Option.isSome_iff_exists] at taken
        obtain ⟨here, cache', taken⟩ := taken
        exact mine ⟨here, (eq_look_of_snapshot taken).1⟩
      have last' : lastSnapshot j m.trace = some cache := by
        simp only [Moment.perform, lastSnapshot] at last
        split at last
        · rename_i here
          rw [here] at older
          simp only [decide_true, Bool.true_and, Option.isSome_eq_false_iff,
            Option.isNone_iff_eq_none] at older
          simpa [older] using last
        · exact last
      simp only [Moment.perform, settledSince, older, Bool.not_false, Bool.true_and,
        Bool.or_eq_false_iff] at fresh
      refine calm.snapshots j cache last' fresh.2 (before.resolve_left ?_)
      exact ne_true_of_eq_false fresh.1

end Invariant

/-! ### Calls -/

section Calls

def probeContract (ι : Type) [DecidableEq ι] (env : Surroundings) (zoneId : UInt16)
    (limits : TempLimits) : Contract ι ClientOp ClientOp.Answer ClientWorld where
  exec := ClientOp.exec env
  allowed := NoStaleBlock zoneId limits
  Inv := Calm zoneId limits
  promise _ _ _ := True

/-- All operations but a reload and the write of a blocked status. -/
def Harmless : ClientOp → Prop
  | .swapConfig _ | .underLock (.keepBlocked _ _ _) => False
  | _ => True

variable [DecidableEq ι] {env : Surroundings} {zoneId : UInt16} {limits : TempLimits} {i : ι}
  {m : ClientMoment ι}

lemma Calm.perform_harmless (calm : Calm zoneId limits m)
    (positive : 0 < limits.maxTimeoutErrors ∧ 0 < limits.maxSensorErrors) {op : ClientOp}
    (harmless : Harmless op) : Calm zoneId limits (m.perform (ClientOp.exec env) i op) := by
  refine calm.perform positive i op ?_ ?_
  · rintro newConfig rfl
    exact harmless
  · rintro id status cycles rfl
    exact harmless.elim

lemma safe_of_harmless {α : Type} {c : ClientCall α}
    (positive : 0 < limits.maxTimeoutErrors ∧ 0 < limits.maxSensorErrors) (h : c.Only Harmless) :
    (probeContract ι env zoneId limits).Safe i (fun _ _ => True) c m :=
  Contract.safe_of_only
    (fun _ _ harmless calm _ => ⟨trivial, Calm.perform_harmless calm positive harmless⟩) h

lemma updateTempError_harmless (error : SatelError) :
    (updateTempError zoneId error).Only Harmless := by
  simp [updateTempError, Harmless]

lemma updateTemperatureSuccessInternal_harmless (id : UInt16) (temp : HalfDegrees) :
    (updateTemperatureSuccessInternal id temp).Only Harmless := by
  simp [updateTemperatureSuccessInternal, Harmless]

lemma takeTemperature_harmless (id : UInt16) (temp : HalfDegrees) :
    (takeTemperature id temp).Only Harmless := by
  apply CallTree.Only.bind (updateTemperatureSuccessInternal_harmless id temp)
  intro oldTemp
  simp [getCachedZoneTemperature, Harmless]

lemma queryTemperature_harmless (timeout : Duration) :
    (queryTemperature zoneId timeout).Only Harmless := by
  rw [queryTemperature, CallTree.only_perform_bind]
  refine ⟨trivial, ?_⟩
  intro answer
  cases answer with
  | error e => exact (updateTempError_harmless e).bind fun _ => CallTree.only_throw _
  | ok response =>
    simp only [ExceptT.run, processZoneTemperature_eq, orPanic_ok, CallTree.only_pure_bind]
    cases temperatureReply response with
    | none => exact (updateTempError_harmless _).bind fun _ => CallTree.only_throw _
    | some reply =>
      obtain ⟨id, raw⟩ := reply
      by_cases silent : raw = 0xFFFF
      · simp only [silent, if_true]
        exact (updateTempError_harmless _).bind fun _ => CallTree.only_throw _
      · simp only [silent, if_false]
        exact takeTemperature_harmless id _

lemma getZoneTemperatureRaw_harmless : (getZoneTemperatureRaw zoneId).Only Harmless :=
  ⟨trivial, fun _ => queryTemperature_harmless _⟩

/-- What follows a snapshot that found the zone blocked. -/
lemma stayBlocked_safe {info : ItemCache}
    (positive : 0 < limits.maxTimeoutErrors ∧ 0 < limits.maxSensorErrors)
    (blocked : (info.zones (itemIndex 256 zoneId)).isBlocked limits = true)
    (taken : lastSnapshot i m.trace = some info) :
    (probeContract ι env zoneId limits).Safe i (fun _ _ => True)
      (stayBlocked zoneId limits (info.zones (itemIndex 256 zoneId))) m := by
  have stable : (probeContract ι env zoneId limits).Stable i fun m =>
      lastSnapshot i m.trace = some info := by
    intro m j op other _ _ taken
    simpa [Moment.perform, lastSnapshot, other] using taken
  simp only [stayBlocked]
  split
  · refine safe_of_harmless positive ?_
    simp [Harmless]
  · refine Contract.safe_perform_bind.mpr ?_
    intro m' others calm fresh
    have taken' := stable.others others taken
    have unsettled : settled zoneId limits m'.trace = false := by
      by_contra settled
      simp only [Bool.not_eq_false] at settled
      have overtaken := fresh _ _ _ rfl rfl
      have free := calm.snapshots i info taken'
        (Bool.eq_false_iff.mpr fun since => overtaken ⟨settled, since⟩) settled
      cases blocked.symm.trans free
    refine ⟨trivial, calm.perform positive i _ ?_ fun _ _ _ _ _ => unsettled, ?_⟩
    · intro newConfig same
      cases same
    · refine safe_of_harmless positive ?_
      simp [Harmless]

lemma getZoneTemperatureWithBlocking_safe
    (positive : 0 < limits.maxTimeoutErrors ∧ 0 < limits.maxSensorErrors) :
    (probeContract ι env zoneId limits).Safe i (fun _ _ => True)
      (getZoneTemperatureWithBlocking zoneId) m := by
  refine Contract.safe_perform_bind.mpr ?_
  intro m₁ _ (calm : Calm zoneId limits m₁) _
  refine ⟨trivial, calm.perform_harmless positive trivial, ?_⟩
  refine Contract.safe_perform_bind.mpr ?_
  intro m₂ _ (calm' : Calm zoneId limits m₂) _
  refine ⟨trivial, calm'.perform_harmless positive trivial, ?_⟩
  have current := calm.current
  subst current
  change (probeContract ι env zoneId _).Safe i (fun _ _ => True)
    (if (m₂.shared.cache.zones (itemIndex 256 zoneId)).isBlocked (tempLimits m₁.shared.config zoneId)
      then _ else _) _
  split
  · rename_i blocked
    refine @stayBlocked_safe ι _ env zoneId _ i _ _ positive blocked ?_
    simp [Moment.perform, lastSnapshot, snapshot]
  · exact safe_of_harmless positive getZoneTemperatureRaw_harmless

lemma probeCall_starts {c : ClientCall Unit}
    (positive : 0 < limits.maxTimeoutErrors ∧ 0 < limits.maxSensorErrors)
    (call : ProbeCall zoneId c) : (probeContract ι env zoneId limits).Starts c := by
  intro i m calm
  cases call with
  | read => exact (getZoneTemperatureWithBlocking_safe positive).andThen fun _ _ => trivial
  | reset =>
    refine safe_of_harmless positive ?_
    simp [resetTemperatureSensor, Harmless]
  | success temp =>
    exact (safe_of_harmless positive
      (updateTemperatureSuccessInternal_harmless zoneId temp)).andThen fun _ _ => trivial

end Calls

/-- Where both limits are positive and no blocked status is written by a snapshot that a reset or a
success has overtaken, a settled zone has no blocked status, in every state reached. -/
theorem settled_zone_not_blocked [DecidableEq ι] (env : Surroundings) (zoneId : UInt16)
    (w : ClientWorld)
    (positive : 0 < (tempLimits w.config zoneId).maxTimeoutErrors ∧
      0 < (tempLimits w.config zoneId).maxSensorErrors)
    {p : ClientPool ι}
    (run : p.Reachable (ClientOp.exec env) (ProbeCall zoneId)
      (NoStaleBlock zoneId (tempLimits w.config zoneId)) w)
    (settled : settled zoneId (tempLimits w.config zoneId) p.moment.trace = true) :
    let z := p.moment.shared.cache.zones (itemIndex 256 zoneId)
    z.temperatureStatus ≠ .blockSensorMissing ∧ z.temperatureStatus ≠ .blockCommunicationError := by
  have first : Calm zoneId (tempLimits w.config zoneId)
      (⟨w, []⟩ : ClientMoment ι) := by
    refine ⟨rfl, ?_, ?_⟩
    · intro settled
      cases settled
    · intro i cache last
      cases last
  have calm := Contract.invariant (C := probeContract ι env zoneId (tempLimits w.config zoneId))
    (fun c call => probeCall_starts positive call) first run
  obtain ⟨first, second, -⟩ := ZoneItem.isBlocked_eq_false_iff.mp (calm.zone settled)
  exact ⟨first, second⟩

/-- A panel without probes. -/
def silentPanel : Surroundings :=
  ⟨fun _ _ => .error .timeout, fun _ => .ok (), fun _ => ⟨0, Nat.zero_le _⟩⟩

/-- Four timeouts have blocked zone 5. -/
def blockedZone5 : ClientWorld :=
  (getZoneTemperatureWithBlocking 5).times (ClientOp.exec silentPanel) 4
    (.new {} ⟨0, Nat.zero_le _⟩)

/-- A reset alone unblocks the zone. -/
theorem settled_zone_not_blocked_reset :
    let limits := tempLimits blockedZone5.config 5
    ∃ p : ClientPool Bool,
      p.Reachable (ClientOp.exec silentPanel) (ProbeCall 5) (NoStaleBlock 5 limits) blockedZone5 ∧
      settled 5 limits p.moment.trace = true ∧
      (p.moment.shared.cache.zones 4).temperatureStatus ≠ .blockSensorMissing := by
  intro limits
  have positive : 0 < limits.maxTimeoutErrors ∧ 0 < limits.maxSensorErrors := by decide
  let started : ClientPool Bool :=
    (Pool.idle blockedZone5).put true (resetTemperatureSensor 5) ⟨blockedZone5, []⟩
  have run : (started.turn (ClientOp.exec silentPanel) true).Reachable (ClientOp.exec silentPanel)
      (ProbeCall 5) (NoStaleBlock 5 limits) blockedZone5 := by
    apply Pool.Reachable.turn
    · exact Pool.Reachable.start .refl true _ .reset rfl
    · intro op next runs
      cases runs
      intro id status cycles same
      cases same
  have settled : settled 5 limits (started.turn (ClientOp.exec silentPanel) true).moment.trace =
      true := by decide
  exact ⟨_, run, settled, (settled_zone_not_blocked silentPanel 5 blockedZone5 positive run settled).1⟩

/-- A snapshot, then a reset by another task, then the write that follows from the snapshot: the
zone is blocked, and no failing query was counted since the reset. -/
theorem stale_snapshot_undoes_reset :
    let limits := tempLimits blockedZone5.config 5
    ∃ p : ClientPool Bool,
      p.Reachable (ClientOp.exec silentPanel) (ProbeCall 5) (fun _ _ _ => True) blockedZone5 ∧
      settled 5 limits p.moment.trace = true ∧
      (p.moment.shared.cache.zones 4).temperatureStatus = .blockSensorMissing := by
  intro limits
  have started : Pool.Reachable (ClientOp.exec silentPanel) (ProbeCall 5) (fun _ _ _ => True)
      blockedZone5 _ := (Pool.Reachable.start .refl false _ .read rfl).start true _ .reset rfl
  exact ⟨_, started.turns [false, false, true, false] (by decide), by decide, by decide⟩

end SatelIntegra
