import SatelIntegra.CircuitBreaker
import SatelIntegra.Temperatures

/-!
# Blocked temperature probes

The counters, the status and the cycle count of a zone are a circuit breaker. A call
with blocking is one of its steps, so what holds of every breaker bounds the queries
of a dead probe and says when a blocked one is tried again.
-/

namespace SatelIntegra

open AtomicCalls ClientCall CircuitBreaker

def TempLimits.breaker (limits : TempLimits) : Limits where
  first := limits.maxTimeoutErrors.toNat
  second := limits.maxSensorErrors.toNat
  patience := if limits.unblockEnabled then some limits.unblockAfterCycles.toNat else none

def ZoneItem.breaker (z : ZoneItem) : Breaker where
  first := z.temperatureTimeoutErrorsCurrent.toNat
  second := z.temperatureSensorErrorsCurrent.toNat
  waited := z.temperatureBlockedCycles.toNat
  tripped := z.temperatureStatus = .blockSensorMissing
    || z.temperatureStatus = .blockCommunicationError

section Refinement
variable {limits : TempLimits} {z : ZoneItem}

lemma ZoneItem.isBlocked_iff : z.isBlocked limits = true ↔ Blocked limits.breaker z.breaker := by
  simp [isBlocked, Blocked, breaker, TempLimits.breaker, UInt32.le_iff_toNat_le, or_assoc]

lemma mem_patience {n : Nat} (h : n ∈ limits.breaker.patience) :
    limits.unblockEnabled = true ∧ n = limits.unblockAfterCycles.toNat := by
  by_cases enabled : limits.unblockEnabled = true
  · simp only [TempLimits.breaker, enabled, if_true, Option.mem_some_iff] at h
    exact ⟨enabled, h.symm⟩
  · simp only [TempLimits.breaker, enabled] at h
    cases h

lemma patience_of_enabled (enabled : limits.unblockEnabled = true) :
    limits.breaker.patience = some limits.unblockAfterCycles.toNat := by
  simp [TempLimits.breaker, enabled]

lemma ZoneItem.breaker_keepBlocked (cycles : UInt32) :
    (z.keepBlocked (z.blockedStatus limits) cycles).breaker =
      { z.breaker with waited := cycles.toNat, tripped := true } := by
  have block : z.blockedStatus limits = .blockSensorMissing ∨
      z.blockedStatus limits = .blockCommunicationError := by
    unfold blockedStatus
    split
    · exact .inl rfl
    · exact .inr rfl
  rcases block with block | block
  · simp [breaker, keepBlocked, block]
  · simp [breaker, keepBlocked, block]

lemma toNat_lowered (current max : UInt32) :
    (ZoneItem.lowered current max).toNat = lower max.toNat current.toNat := by
  unfold ZoneItem.lowered lower
  by_cases full : current ≥ max
  · rw [if_pos full, if_pos (UInt32.le_iff_toNat_le.mp full)]
    by_cases zero : current = 0
    · simp [zero]
    · have one : (1 : UInt32) ≤ current :=
        UInt32.le_iff_toNat_le.mpr (Nat.pos_of_ne_zero fun h => zero (UInt32.toNat_inj.mp h))
      rw [if_neg zero, UInt32.toNat_sub_of_le _ _ one]
      rfl
  · rw [if_neg full, if_neg fun h => full (UInt32.le_iff_toNat_le.mpr h)]

lemma ZoneItem.breaker_unblock : (z.unblock limits).breaker = release limits.breaker z.breaker := by
  simp [breaker, unblock, release, TempLimits.breaker, toNat_lowered]

lemma toNat_succ {n bound : UInt32} (h : n.toNat < bound.toNat) : (n + 1).toNat = n.toNat + 1 := by
  have := bound.toNat_lt
  rw [UInt32.toNat_add]
  exact Nat.mod_eq_of_lt (by simp only [UInt32.toNat_one]; omega)

lemma toNat_succ_of_ne {n : UInt32} (h : n ≠ 0xFFFFFFFF) : (n + 1).toNat = n.toNat + 1 := by
  refine @toNat_succ n 0xFFFFFFFF ?_
  have largest : n.toNat ≠ 4294967295 := fun same => h (UInt32.toNat_inj.mp same)
  have := n.toNat_lt
  simp only [UInt32.reduceToNat]
  omega

lemma ZoneItem.failed_timeout (free : ¬ Blocked limits.breaker z.breaker) (now : LocalTime) :
    CircuitBreaker.Failed limits.breaker z.breaker (z.temperatureError .timeout limits now).breaker := by
  have succ : (z.temperatureTimeoutErrorsCurrent + 1).toNat = _ :=
    toNat_succ (not_blocked_iff.mp free).2.1
  have failed := CircuitBreaker.Failed.first free
  by_cases full : z.temperatureTimeoutErrorsCurrent + 1 ≥ limits.maxTimeoutErrors
  · have full' := UInt32.le_iff_toNat_le.mp full
    rw [succ] at full'
    simpa [breaker, TempLimits.breaker, temperatureError, isTimeout, timeoutError, full, full', succ]
      using failed
  · have full' := mt UInt32.le_iff_toNat_le.mpr full
    rw [succ] at full'
    simpa [breaker, TempLimits.breaker, temperatureError, isTimeout, timeoutError, full, full', succ]
      using failed

lemma ZoneItem.failed_sensor (free : ¬ Blocked limits.breaker z.breaker) (now : LocalTime) :
    CircuitBreaker.Failed limits.breaker z.breaker
      (z.temperatureError .temperatureSensorError limits now).breaker := by
  have succ : (z.temperatureSensorErrorsCurrent + 1).toNat = _ :=
    toNat_succ (not_blocked_iff.mp free).2.2
  have failed := CircuitBreaker.Failed.second free
  by_cases full : z.temperatureSensorErrorsCurrent + 1 ≥ limits.maxSensorErrors
  · have full' := UInt32.le_iff_toNat_le.mp full
    rw [succ] at full'
    simpa [breaker, TempLimits.breaker, temperatureError, isTimeout, sensorError, full, full', succ]
      using failed
  · have full' := mt UInt32.le_iff_toNat_le.mpr full
    rw [succ] at full'
    simpa [breaker, TempLimits.breaker, temperatureError, isTimeout, sensorError, full, full', succ]
      using failed

end Refinement

/-! ### Calls -/

section Calls
variable {env : Surroundings} {w : ClientWorld} {zoneId : UInt16}

abbrev ClientWorld.zone (w : ClientWorld) (zoneId : UInt16) : ZoneItem :=
  w.cache.zones (itemIndex 256 zoneId)

/-- A blocked call makes no query and is an idle step, if the cycle count can be raised. -/
lemma blocked_call (blocked : (w.zone zoneId).isBlocked (tempLimits w.config zoneId) = true)
    (room : (tempLimits w.config zoneId).unblockEnabled = true →
      (w.zone zoneId).temperatureBlockedCycles ≠ 0xFFFFFFFF) :
    let w' := ((getZoneTemperatureWithBlocking zoneId).run (ClientOp.exec env) w).2
    w'.asked = w.asked ∧
      CircuitBreaker.Idle (tempLimits w.config zoneId).breaker (w.zone zoneId).breaker
        (w'.zone zoneId).breaker := by
  intro w'
  have result := @run_getZoneTemperatureWithBlocking env w zoneId
  simp only [if_pos blocked] at result
  obtain ⟨-, -, asked, cache⟩ := result
  refine ⟨asked, ?_⟩
  have blocked' := ZoneItem.isBlocked_iff.mp blocked
  have zone : w'.zone zoneId = _ := congrArg (·.zones (itemIndex 256 zoneId)) cache
  by_cases due : (tempLimits w.config zoneId).unblockEnabled = true ∧
      (w.zone zoneId).temperatureBlockedCycles + 1 ≥
        (tempLimits w.config zoneId).unblockAfterCycles
  · rw [if_pos due, ItemCache.modifyZone_zones_self] at zone
    rw [zone, ZoneItem.breaker_unblock]
    refine .release blocked' (patience_of_enabled due.1) ?_
    rw [ZoneItem.breaker, ← toNat_succ_of_ne (room due.1)]
    exact UInt32.le_iff_toNat_le.mp due.2
  · rw [if_neg due, ItemCache.modifyZone_zones_self] at zone
    rw [zone, ZoneItem.breaker_keepBlocked]
    refine .wait blocked' _ ?_
    intro n hn
    obtain ⟨enabled, rfl⟩ := mem_patience hn
    have early := UInt32.not_le.mp fun long => due ⟨enabled, long⟩
    exact ⟨toNat_succ_of_ne (room enabled), UInt32.lt_iff_toNat_lt.mp early⟩

/-- A count below the patience can be raised. -/
lemma room_of_waited {limits : TempLimits} {z : ZoneItem}
    (few : ∀ n ∈ limits.breaker.patience, z.breaker.waited = 0 ∨ z.breaker.waited < n)
    (enabled : limits.unblockEnabled = true) : z.temperatureBlockedCycles ≠ 0xFFFFFFFF := by
  intro full
  have bound := limits.unblockAfterCycles.toNat_lt
  have count := few _ (patience_of_enabled enabled)
  simp only [ZoneItem.breaker, full, UInt32.reduceToNat] at count
  omega

/-- A free call makes one query, whatever the answer. -/
lemma free_call (free : (w.zone zoneId).isBlocked (tempLimits w.config zoneId) = false) :
    let w' := ((getZoneTemperatureWithBlocking zoneId).run (ClientOp.exec env) w).2
    w'.config = w.config ∧ w'.asked = w.asked ++ [temperatureRequest zoneId] := by
  intro w'
  have result := @run_getZoneTemperatureWithBlocking env w zoneId
  simp only [free, Bool.false_eq_true, if_false] at result
  have read := @run_getZoneTemperatureRawTimeout env w.readClock zoneId none
  rw [← getZoneTemperatureRaw, ← result] at read
  cases outcome : reading (env.answer w.asked (temperatureRequest zoneId)) with
  | error e =>
    simp only [ClientWorld.asked_readClock, outcome] at read
    exact ⟨congrArg (·.2.config) read, congrArg (·.2.asked) read⟩
  | ok value =>
    obtain ⟨id, temp⟩ := value
    simp only [ClientWorld.asked_readClock, outcome] at read
    obtain ⟨w'', taken, -, config, asked, -⟩ := @run_takeTemperature env
      (w.readClock.ask (temperatureRequest zoneId)) id temp
    rw [taken] at read
    exact ⟨(congrArg (·.2.config) read).trans config, (congrArg (·.2.asked) read).trans asked⟩

lemma config_call :
    ((getZoneTemperatureWithBlocking zoneId).run (ClientOp.exec env) w).2.config = w.config := by
  cases blocked : (w.zone zoneId).isBlocked (tempLimits w.config zoneId) with
  | true =>
    have result := @run_getZoneTemperatureWithBlocking env w zoneId
    simp only [blocked, if_true] at result
    exact result.2.1
  | false => exact (free_call blocked).1

lemma config_times (k : Nat) :
    ((getZoneTemperatureWithBlocking zoneId).times (ClientOp.exec env) k w).config = w.config := by
  induction k with
  | zero => rfl
  | succ k ih => exact config_call.trans ih

/-- An answer of a probe that is missing or broken. -/
def DeadAnswer (answer : Except SatelError Frame) : Prop :=
  reading answer = .error .timeout ∨ reading answer = .error .temperatureSensorError

lemma zone_countTempError (e : SatelError) :
    (w.countTempError env zoneId e).zone zoneId =
      (w.zone zoneId).temperatureError e (tempLimits w.config zoneId) (env.now w.clockReadings) := by
  exact ItemCache.modifyZone_zones_self _ _ _

/-- A query of a dead probe is a failed attempt. -/
lemma dead_call (free : (w.zone zoneId).isBlocked (tempLimits w.config zoneId) = false)
    (dead : DeadAnswer (env.answer w.asked (temperatureRequest zoneId))) :
    CircuitBreaker.Failed (tempLimits w.config zoneId).breaker (w.zone zoneId).breaker
      (((getZoneTemperatureWithBlocking zoneId).run (ClientOp.exec env) w).2.zone zoneId).breaker := by
  have result := @run_getZoneTemperatureWithBlocking env w zoneId
  simp only [free, Bool.false_eq_true, if_false] at result
  have read := @run_getZoneTemperatureRawTimeout env w.readClock zoneId none
  rw [← getZoneTemperatureRaw, ← result] at read
  have free' := mt ZoneItem.isBlocked_iff.mpr (Bool.eq_false_iff.mp free)
  rcases dead with outcome | outcome
  · simp only [ClientWorld.asked_readClock, outcome] at read
    rw [read, zone_countTempError]
    exact ZoneItem.failed_timeout free' _
  · simp only [ClientWorld.asked_readClock, outcome] at read
    rw [read, zone_countTempError]
    exact ZoneItem.failed_sensor free' _

/-! ### A dead probe -/

/-- A zone whose temperature was never read, or was reset. -/
structure ZoneItem.Fresh (z : ZoneItem) : Prop where
  status : z.temperatureStatus = .noRead
  timeouts : z.temperatureTimeoutErrorsCurrent = 0
  sensorErrors : z.temperatureSensorErrorsCurrent = 0
  cycles : z.temperatureBlockedCycles = 0

lemma ZoneItem.Fresh.breaker {z : ZoneItem} (h : z.Fresh) : z.breaker = .fresh := by
  simp [ZoneItem.breaker, Breaker.fresh, h.status, h.timeouts, h.sensorErrors, h.cycles]

/-- Calls on a dead probe are the calls of a breaker, with a query for each attempt. -/
lemma dead_calls (dead : ∀ asked, DeadAnswer (env.answer asked (temperatureRequest zoneId)))
    (fresh : (w.zone zoneId).Fresh) (k : Nat) :
    let w' := (getZoneTemperatureWithBlocking zoneId).times (ClientOp.exec env) k w
    ∃ q, w'.asked.length = w.asked.length + q ∧
      Calls (tempLimits w.config zoneId).breaker k q (w'.zone zoneId).breaker := by
  induction k with
  | zero => exact ⟨0, rfl, fresh.breaker.symm ▸ .none⟩
  | succ k ih =>
    obtain ⟨q, asked, calls⟩ := ih
    have config := @config_times env w zoneId k
    rw [CallTree.times]
    generalize (getZoneTemperatureWithBlocking zoneId).times (ClientOp.exec env) k w = w₁ at *
    rw [← config] at calls ⊢
    cases blocked : (w₁.zone zoneId).isBlocked (tempLimits w₁.config zoneId) with
    | true =>
      obtain ⟨asked', idle⟩ := blocked_call blocked (room_of_waited calls.waited_lt)
      exact ⟨q, by rw [asked', asked], .idle calls idle⟩
    | false =>
      refine ⟨q + 1, ?_, .failed calls (dead_call blocked (dead w₁.asked))⟩
      rw [(free_call blocked).2, List.length_append, asked]
      rfl

/-- Queries of a dead probe: as many as its limits allow together, and one for each release. -/
theorem dead_probe_queries_le (env : Surroundings) (w : ClientWorld) (zoneId : UInt16)
    (fresh : (w.zone zoneId).Fresh)
    (dead : ∀ asked, DeadAnswer (env.answer asked (temperatureRequest zoneId))) (k : Nat) :
    let limits := tempLimits w.config zoneId
    let w' := (getZoneTemperatureWithBlocking zoneId).times (ClientOp.exec env) k w
    w'.asked.length ≤ w.asked.length +
      ((limits.maxTimeoutErrors.toNat + limits.maxSensorErrors.toNat - 1) +
        if limits.unblockEnabled then k / (limits.unblockAfterCycles.toNat + 1) else 0) := by
  intro limits w'
  obtain ⟨q, asked, calls⟩ := dead_calls dead fresh k
  have bound := calls.attempts_le
  rw [asked]
  refine Nat.add_le_add_left (bound.trans_eq ?_) _
  by_cases enabled : limits.unblockEnabled = true
  · simp [TempLimits.breaker, limits, enabled]
  · simp [TempLimits.breaker, limits, enabled]

/-- With the default limits of 4 and 10, 40 calls on a silent probe make at most 13 queries. -/
theorem dead_probe_queries_le_default :
    let env : Surroundings :=
      ⟨fun _ _ => .error .timeout, fun _ => .ok (), fun _ => ⟨0, Nat.zero_le _⟩⟩
    let w := ClientWorld.new {} ⟨0, Nat.zero_le _⟩
    (w.zone 5).Fresh ∧ (∀ asked, DeadAnswer (env.answer asked (temperatureRequest 5))) ∧
      ((getZoneTemperatureWithBlocking 5).times (ClientOp.exec env) 40 w).asked.length ≤ 13 := by
  intro env w
  have fresh : (w.zone 5).Fresh := ⟨rfl, rfl, rfl, rfl⟩
  have dead : ∀ asked, DeadAnswer (env.answer asked (temperatureRequest 5)) := fun _ => .inl rfl
  exact ⟨fresh, dead, dead_probe_queries_le env w 5 fresh dead 40⟩

end Calls
end SatelIntegra
