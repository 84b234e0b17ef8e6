import SatelIntegra.ProbeBlocking

/-!
# When a blocked probe is tried again

A release lowers a counter by one, which is enough where the blocking calls
themselves brought it to its limit. Reads that do not look at the block first, and
limits changed at run time, bring it further, and then the calls wait again.
-/

namespace SatelIntegra

open AtomicCalls ClientCall CircuitBreaker

/-- A zone that is not blocked, or that one release unblocks before the count can wrap. -/
def OneReleaseEnough (limits : TempLimits) (z : ZoneItem) : Prop :=
  z.isBlocked limits = false ∨
    0 < limits.maxTimeoutErrors ∧ 0 < limits.maxSensorErrors ∧
      z.temperatureTimeoutErrorsCurrent ≤ limits.maxTimeoutErrors ∧
      z.temperatureSensorErrorsCurrent ≤ limits.maxSensorErrors ∧
      z.temperatureBlockedCycles ≠ 0xFFFFFFFF

/-- Among so many calls in a row at least one makes a query. -/
def RetriedWithin (env : Surroundings) (zoneId : UInt16) (calls : Nat) (w : ClientWorld) : Prop :=
  w.asked.length <
    ((getZoneTemperatureWithBlocking zoneId).times (ClientOp.exec env) calls w).asked.length

section Calls
variable {env : Surroundings} {w : ClientWorld} {zoneId : UInt16}

/-- An accepted probe waits for at least ten calls. -/
lemma unblockAfterCycles_ge {config : Config} (valid : config.validate = .ok ())
    (enabled : (tempLimits config zoneId).unblockEnabled = true) :
    minUnblockAfterCycles ≤ (tempLimits config zoneId).unblockAfterCycles := by
  have probes := (Config.validateProbes_ok (Config.validate_probes valid)).1
  unfold tempLimits at enabled ⊢
  cases found : config.temperatureProbes.find? fun probe => probe.zoneId == zoneId with
  | none =>
    rw [found] at enabled
    cases enabled
  | some probe =>
    rw [found] at enabled
    exact (probes probe (List.mem_of_find?_eq_some found)).1.cycles enabled

lemma asked_mono {α : Type} (c : ClientCall α) (w : ClientWorld) :
    w.asked.length ≤ (c.run (ClientOp.exec env) w).2.asked.length := by
  refine CallTree.run_invariant (I := fun w' : ClientWorld => w.asked.length ≤ w'.asked.length)
    ?_ c le_rfl
  intro op w' h
  cases op with
  | exchange data readTimeout =>
    refine h.trans ?_
    simp
  | _ => exact h

lemma asked_times_mono {j k : Nat} (h : j ≤ k) (w : ClientWorld) :
    ((getZoneTemperatureWithBlocking zoneId).times (ClientOp.exec env) j w).asked.length ≤
      ((getZoneTemperatureWithBlocking zoneId).times (ClientOp.exec env) k w).asked.length := by
  induction h with
  | refl => exact le_rfl
  | step _ ih => exact ih.trans (asked_mono _ _)

/-- The first call that is not blocked makes a query. -/
lemma retried_of_free {j k : Nat} (early : j < k)
    (free : (((getZoneTemperatureWithBlocking zoneId).times (ClientOp.exec env) j w).zone
      zoneId).isBlocked (tempLimits w.config zoneId) = false) :
    RetriedWithin env zoneId k w := by
  have before := @asked_times_mono env zoneId _ _ (Nat.zero_le j) w
  have after := @asked_times_mono env zoneId _ _ (Nat.succ_le_of_lt early) w
  have config := @config_times env w zoneId j
  rw [← config] at free
  rw [CallTree.times, (free_call free).2, List.length_append] at after
  exact Nat.lt_of_lt_of_le (Nat.lt_succ_of_le before) after

/-- Blocked calls in a row are idle steps in a row. -/
lemma blocked_calls (k : Nat)
    (room : (tempLimits w.config zoneId).unblockEnabled = true →
      (w.zone zoneId).temperatureBlockedCycles ≠ 0xFFFFFFFF)
    (quiet : ∀ j < k,
      (((getZoneTemperatureWithBlocking zoneId).times (ClientOp.exec env) j w).zone
        zoneId).isBlocked (tempLimits w.config zoneId) = true) :
    let w' := (getZoneTemperatureWithBlocking zoneId).times (ClientOp.exec env) k w
    w'.asked = w.asked ∧
      Idles (tempLimits w.config zoneId).breaker k (w.zone zoneId).breaker
        (w'.zone zoneId).breaker := by
  induction k generalizing w with
  | zero => exact ⟨rfl, .none⟩
  | succ k ih =>
    obtain ⟨asked, idle⟩ := @blocked_call env _ _ (quiet 0 (Nat.succ_pos k)) room
    have next := ih (w := ((getZoneTemperatureWithBlocking zoneId).run (ClientOp.exec env) w).2)
    rw [config_call] at next
    obtain ⟨asked', idles⟩ := next (room_of_waited idle.waited_lt) (by
      intro j hj
      rw [← CallTree.times_succ]
      exact quiet (j + 1) (Nat.succ_lt_succ hj))
    intro w'
    have last : w' = _ := CallTree.times_succ _ _ k w
    rw [last]
    exact ⟨asked'.trans asked, .step idle idles⟩

/-- Calls that find the zone blocked as long as idle steps leave it blocked make no query. -/
lemma not_retried (k : Nat)
    (room : (tempLimits w.config zoneId).unblockEnabled = true →
      (w.zone zoneId).temperatureBlockedCycles ≠ 0xFFFFFFFF)
    (blocked : ∀ j < k, ∀ b,
      Idles (tempLimits w.config zoneId).breaker j (w.zone zoneId).breaker b →
        Blocked (tempLimits w.config zoneId).breaker b) :
    ¬ RetriedWithin env zoneId k w := by
  have quiet : ∀ j < k,
      (((getZoneTemperatureWithBlocking zoneId).times (ClientOp.exec env) j w).zone
        zoneId).isBlocked (tempLimits w.config zoneId) = true := by
    intro j
    induction j using Nat.strongRecOn with
    | ind j ih =>
      intro hj
      have idles := (@blocked_calls env _ _ j room fun i hi => ih i hi (hi.trans hj)).2
      exact ZoneItem.isBlocked_iff.mpr (blocked j hj _ idles)
  have same := (@blocked_calls env _ _ k room quiet).1
  unfold RetriedWithin
  rw [same]
  exact Nat.lt_irrefl _

/-- A count that is full wraps, and all the waits are before the calls again. -/
lemma wrapped_call (blocked : (w.zone zoneId).isBlocked (tempLimits w.config zoneId) = true)
    (full : (w.zone zoneId).temperatureBlockedCycles = 0xFFFFFFFF)
    (cycles : 0 < (tempLimits w.config zoneId).unblockAfterCycles) :
    let w' := ((getZoneTemperatureWithBlocking zoneId).run (ClientOp.exec env) w).2
    w'.asked = w.asked ∧ (w'.zone zoneId).temperatureBlockedCycles = 0 ∧
      Blocked (tempLimits w.config zoneId).breaker (w'.zone zoneId).breaker := by
  intro w'
  have result := @run_getZoneTemperatureWithBlocking env w zoneId
  simp only [if_pos blocked] at result
  obtain ⟨-, -, asked, cache⟩ := result
  have zero : (w.zone zoneId).temperatureBlockedCycles + 1 = 0 := by rw [full]; rfl
  have waits : ¬ ((tempLimits w.config zoneId).unblockEnabled = true ∧
      (w.zone zoneId).temperatureBlockedCycles + 1 ≥
        (tempLimits w.config zoneId).unblockAfterCycles) := by
    rintro ⟨-, due⟩
    rw [zero] at due
    exact absurd cycles (UInt32.not_lt.mpr due)
  have zone : w'.zone zoneId = _ := congrArg (·.zones (itemIndex 256 zoneId)) cache
  rw [if_neg waits, ItemCache.modifyZone_zones_self] at zone
  refine ⟨asked, ?_, ?_⟩
  · rw [zone]
    exact zero
  · rw [zone, ZoneItem.breaker_keepBlocked]
    exact .inl rfl

lemma releasable_iff {limits : TempLimits} {z : ZoneItem} :
    Releasable limits.breaker z.breaker ↔
      0 < limits.maxTimeoutErrors ∧ 0 < limits.maxSensorErrors ∧
        z.temperatureTimeoutErrorsCurrent ≤ limits.maxTimeoutErrors ∧
        z.temperatureSensorErrorsCurrent ≤ limits.maxSensorErrors := by
  simp only [Releasable, TempLimits.breaker, ZoneItem.breaker, UInt32.lt_iff_toNat_lt,
    UInt32.le_iff_toNat_le, UInt32.toNat_zero]

end Calls

/-- With a probe that is to be tried again after `n` cycles, one of any `n + 1` calls in a row makes
a query exactly where one release is enough. -/
theorem blocked_probe_retried_iff (env : Surroundings) (w : ClientWorld) (zoneId : UInt16)
    (valid : w.config.validate = .ok ())
    (enabled : (tempLimits w.config zoneId).unblockEnabled = true) :
    RetriedWithin env zoneId ((tempLimits w.config zoneId).unblockAfterCycles.toNat + 1) w ↔
      OneReleaseEnough (tempLimits w.config zoneId) (w.zone zoneId) := by
  have patience := patience_of_enabled enabled
  have ten := UInt32.le_iff_toNat_le.mp (unblockAfterCycles_ge valid enabled)
  simp only [minUnblockAfterCycles, UInt32.reduceToNat] at ten
  cases blocked : (w.zone zoneId).isBlocked (tempLimits w.config zoneId) with
  | false => exact iff_of_true (retried_of_free (Nat.succ_pos _) blocked) (.inl blocked)
  | true =>
    have blocked' := ZoneItem.isBlocked_iff.mp blocked
    by_cases full : (w.zone zoneId).temperatureBlockedCycles = 0xFFFFFFFF
    · have cycles : 0 < (tempLimits w.config zoneId).unblockAfterCycles :=
        UInt32.lt_iff_toNat_lt.mpr (by rw [UInt32.toNat_zero]; omega)
      obtain ⟨asked, zero, still⟩ := @wrapped_call env _ _ blocked full cycles
      refine iff_of_false ?_ ?_
      · have none := @not_retried env
          ((getZoneTemperatureWithBlocking zoneId).run (ClientOp.exec env) w).2 zoneId
          (tempLimits w.config zoneId).unblockAfterCycles.toNat
        rw [config_call] at none
        unfold RetriedWithin at none ⊢
        rw [CallTree.times_succ]
        rw [asked] at none
        refine none (fun _ => by rw [zero]; decide) ?_
        intro j hj b idles
        refine (idles.waits patience still ?_).1
        simp only [ZoneItem.breaker]
        rw [zero, UInt32.toNat_zero]
        omega
      · rintro (free | ⟨-, -, -, -, room⟩)
        · rw [blocked] at free
          cases free
        · exact room full
    by_cases releasable : Releasable (tempLimits w.config zoneId).breaker (w.zone zoneId).breaker
    · refine iff_of_true ?_ (.inr ?_)
      · by_contra never
        have quiet : ∀ j < (tempLimits w.config zoneId).unblockAfterCycles.toNat + 1,
            (((getZoneTemperatureWithBlocking zoneId).times (ClientOp.exec env) j w).zone
              zoneId).isBlocked (tempLimits w.config zoneId) = true := by
          intro j hj
          by_contra free
          exact never (retried_of_free hj (Bool.not_eq_true _ ▸ free))
        have few := (blocked_calls _ (fun _ => full) quiet).2.le patience releasable
        omega
      · obtain ⟨first, second, third, fourth⟩ := releasable_iff.mp releasable
        exact ⟨first, second, third, fourth, full⟩
    · refine iff_of_false ?_ ?_
      · refine not_retried _ (fun _ => full) ?_
        intro j hj b idles
        exact idles.stuck patience blocked' (stuck_iff.mpr releasable) (Nat.le_of_lt_succ hj)
      · rintro (free | ⟨first, second, third, fourth, -⟩)
        · rw [blocked] at free
          cases free
        · exact releasable (releasable_iff.mpr ⟨first, second, third, fourth⟩)

/-- A probe of zone 5 that blocks after three timeouts and is to be tried again after ten calls. -/
def retriedProbe : Config :=
  { temperatureProbes := [
      { zoneId := 5
        intervalMinutes := 15
        maxTimeoutErrors := 3
        maxSensorErrors := 3
        unblockEnabled := true }] }

theorem blocked_probe_retried_iff_three_timeouts :
    let env : Surroundings :=
      ⟨fun _ _ => .error .timeout, fun _ => .ok (), fun _ => ⟨0, Nat.zero_le _⟩⟩
    let w := (getZoneTemperatureRaw 5).times (ClientOp.exec env) 3
      (.new retriedProbe ⟨0, Nat.zero_le _⟩)
    w.config.validate = .ok () ∧ (tempLimits w.config 5).unblockEnabled = true ∧
      RetriedWithin env 5 11 w := by
  intro env w
  have valid : w.config.validate = .ok () := by decide
  have enabled : (tempLimits w.config 5).unblockEnabled = true := by decide
  have enough : OneReleaseEnough (tempLimits w.config 5) (w.zone 5) :=
    .inr (by decide)
  exact ⟨valid, enabled, (blocked_probe_retried_iff env w 5 valid enabled).mpr enough⟩

/-- Five direct reads that time out bring the counter to five, and none of the next eleven calls with
blocking makes a query. -/
theorem direct_reads_delay_retry :
    let env : Surroundings :=
      ⟨fun _ _ => .error .timeout, fun _ => .ok (), fun _ => ⟨0, Nat.zero_le _⟩⟩
    let w := (getZoneTemperatureRaw 5).times (ClientOp.exec env) 5
      (.new retriedProbe ⟨0, Nat.zero_le _⟩)
    w.config.validate = .ok () ∧ (tempLimits w.config 5).unblockEnabled = true ∧
      (tempLimits w.config 5).unblockAfterCycles = 10 ∧ ¬ RetriedWithin env 5 11 w := by
  unfold RetriedWithin
  decide +kernel

end SatelIntegra
