import SatelIntegra.Config
import SatelIntegra.Telemetry
import Mathlib.Data.List.Sort

/-!
# The temperature polling task

A cycle reads the configured probes, drops the marks of zones that are no longer
configured and visits the due zones in ascending order. Each visit marks its zone
before it looks at the connection, and an inactive connection ends the cycle. A
zone is therefore marked once more than the cycle queries exactly when a check
fails.
-/

namespace SatelIntegra.TemperaturePolling

open CheckedAccess

/-- `HashMap<u16, Instant>` -/
abbrev LastRun := UInt16 → Option Instant

def insertRun (lastRun : LastRun) (zoneId : UInt16) (now : Instant) : LastRun :=
  fun z => if z = zoneId then some now else lastRun z

/-- `last_run.retain(|k, _| current_zone_ids.contains(k))` -/
def retainRuns (probes : List TemperatureProbe) (lastRun : LastRun) : LastRun :=
  fun z => if z ∈ probes.map (·.zoneId) then lastRun z else none

/-- `Duration::from_secs(probe.interval_minutes.max(1) * 60)` in nanoseconds. The product panics where
it does not fit, as in a debug build; a release build wraps it. -/
def probeInterval (probe : TemperatureProbe) : Except Panic Duration := do
  let secs ← mulU64 (max probe.intervalMinutes 1) 60
  return secs.toNat * 1000000000

def probeDue (lastRun : LastRun) (now : Instant) (probe : TemperatureProbe) :
    Except Panic Bool := do
  let interval ← probeInterval probe
  match lastRun probe.zoneId with
  | some last => return decide (interval ≤ now - last)
  | none => return true

def collectDue (lastRun : LastRun) (now : Instant) :
    List TemperatureProbe → Except Panic (List UInt16)
  | [] => return []
  | probe :: probes => do
    let due ← probeDue lastRun now probe
    let rest ← collectDue lastRun now probes
    return if due then probe.zoneId :: rest else rest

def dueZones (probes : List TemperatureProbe) (lastRun : LastRun) (now : Instant) :
    Except Panic (List UInt16) := do
  let due ← collectDue lastRun now probes
  return due.mergeSort fun a b => decide (a ≤ b)

/-- What one cycle meets: the configured probes, the time that passes before the
due check and before each visit, and what each visit's connection check sees. -/
structure Cycle where
  probes : List TemperatureProbe
  wait : Duration
  pause : Nat → Duration
  connected : Nat → Bool

structure TaskState where
  lastRun : LastRun
  clock : Instant

/-- `self.last_run.insert(zone_id, Instant::now())` after `pause` has passed. -/
def TaskState.visit (s : TaskState) (zoneId : UInt16) (pause : Duration) : TaskState :=
  let now := s.clock + pause
  ⟨insertRun s.lastRun zoneId now, now⟩

/-- A visit is timed by the one reading of the clock it makes. -/
inductive PollEvent where
  | marked (zoneId : UInt16) (now : Instant)
  | queried (zoneId : UInt16) (now : Instant)
  deriving DecidableEq, Repr

/-- The loop over the due zones, from visit `i` on. -/
def poll (cycle : Cycle) : Nat → List UInt16 → TaskState → TaskState × List PollEvent
  | _, [], s => (s, [])
  | i, zoneId :: zones, s =>
    let visited := s.visit zoneId (cycle.pause i)
    let marked := PollEvent.marked zoneId visited.clock
    if cycle.connected i then
      let (s', events) := poll cycle (i + 1) zones visited
      (s', marked :: .queried zoneId visited.clock :: events)
    else
      (visited, [marked])

def execute (cycle : Cycle) (s : TaskState) : Except Panic (TaskState × List PollEvent) := do
  let lastRun := retainRuns cycle.probes s.lastRun
  let now := s.clock + cycle.wait
  let zones ← dueZones cycle.probes lastRun now
  return poll cycle 0 zones ⟨lastRun, now⟩

/-- A cycle that ran, with the task's state on either side of it. -/
structure Execution where
  cycle : Cycle
  before : TaskState
  after : TaskState
  events : List PollEvent

/-- One cycle after another. A panic ends the task. -/
def executions : TaskState → List Cycle → List Execution
  | _, [] => []
  | s, cycle :: cycles =>
    match execute cycle s with
    | .ok (s', events) => ⟨cycle, s, s', events⟩ :: executions s' cycles
    | .error _ => []

def markedZones (events : List PollEvent) : List UInt16 :=
  events.filterMap fun
    | .marked zoneId _ => some zoneId
    | .queried _ _ => none

def queriedZones (events : List PollEvent) : List UInt16 :=
  events.filterMap fun
    | .queried zoneId _ => some zoneId
    | .marked _ _ => none

/-! ## The due zones -/

lemma due_after {lastRun : LastRun} {now last : Instant} {probe : TemperatureProbe}
    {interval : Duration} (due : probeDue lastRun now probe = .ok true)
    (hlast : lastRun probe.zoneId = some last) (hinterval : probeInterval probe = .ok interval) :
    interval ≤ now - last := by
  rw [probeDue, hinterval, ok_bind, hlast] at due
  have decided := Except.ok.inj due
  exact of_decide_eq_true decided

/-- A due probe stays due until its zone is marked again. -/
lemma due_later {lastRun lastRun' : LastRun} {now now' : Instant} {probe : TemperatureProbe}
    (due : probeDue lastRun now probe = .ok true)
    (same : lastRun' probe.zoneId = lastRun probe.zoneId) (later : now ≤ now') :
    probeDue lastRun' now' probe = .ok true := by
  obtain ⟨interval, hinterval, rest⟩ := bind_eq_ok.mp due
  rw [probeDue, hinterval, ok_bind, same]
  cases hlast : lastRun probe.zoneId with
  | none => rfl
  | some last =>
    have elapsed := due_after due hlast hinterval
    have still : interval ≤ now' - last := Nat.le_trans elapsed (Nat.sub_le_sub_right later last)
    exact congrArg Except.ok (decide_eq_true still)

lemma collectDue_cons {lastRun : LastRun} {now : Instant} {probe : TemperatureProbe}
    {probes : List TemperatureProbe} {zones : List UInt16}
    (h : collectDue lastRun now (probe :: probes) = .ok zones) :
    ∃ due rest, probeDue lastRun now probe = .ok due ∧ collectDue lastRun now probes = .ok rest ∧
      zones = if due then probe.zoneId :: rest else rest := by
  obtain ⟨due, hdue, h⟩ := bind_eq_ok.mp h
  obtain ⟨rest, hrest, h⟩ := bind_eq_ok.mp h
  exact ⟨due, rest, hdue, hrest, (Except.ok.inj h).symm⟩

lemma mem_collectDue {lastRun : LastRun} {now : Instant} {probes : List TemperatureProbe}
    {zones : List UInt16} (h : collectDue lastRun now probes = .ok zones) (z : UInt16) :
    z ∈ zones ↔ ∃ p ∈ probes, p.zoneId = z ∧ probeDue lastRun now p = .ok true := by
  induction probes generalizing zones with
  | nil =>
    have empty := Except.ok.inj h
    simp [← empty]
  | cons probe probes ih =>
    obtain ⟨due, rest, hdue, hrest, rfl⟩ := collectDue_cons h
    have tail := ih hrest
    cases due with
    | true => simp [tail, hdue, eq_comm]
    | false => simp [tail, hdue]

lemma collectDue_sublist {lastRun : LastRun} {now : Instant} {probes : List TemperatureProbe}
    {zones : List UInt16} (h : collectDue lastRun now probes = .ok zones) :
    zones.Sublist (probes.map (·.zoneId)) := by
  induction probes generalizing zones with
  | nil =>
    have empty := Except.ok.inj h
    simp [← empty]
  | cons probe probes ih =>
    obtain ⟨due, rest, hdue, hrest, rfl⟩ := collectDue_cons h
    cases due with
    | true => exact (ih hrest).cons_cons probe.zoneId
    | false => exact (ih hrest).cons probe.zoneId

lemma dueZones_perm {lastRun : LastRun} {now : Instant} {probes : List TemperatureProbe}
    {zones : List UInt16} (h : dueZones probes lastRun now = .ok zones) :
    ∃ due, collectDue lastRun now probes = .ok due ∧ zones.Perm due := by
  obtain ⟨due, hdue, h⟩ := bind_eq_ok.mp h
  have sorted := Except.ok.inj h
  subst sorted
  exact ⟨due, hdue, List.mergeSort_perm due _⟩

lemma mem_dueZones {lastRun : LastRun} {now : Instant} {probes : List TemperatureProbe}
    {zones : List UInt16} (h : dueZones probes lastRun now = .ok zones) (z : UInt16) :
    z ∈ zones ↔ ∃ p ∈ probes, p.zoneId = z ∧ probeDue lastRun now p = .ok true := by
  obtain ⟨due, hdue, perm⟩ := dueZones_perm h
  rw [perm.mem_iff]
  exact mem_collectDue hdue z

lemma dueZones_sorted {lastRun : LastRun} {now : Instant} {probes : List TemperatureProbe}
    {zones : List UInt16} (h : dueZones probes lastRun now = .ok zones) :
    zones.Pairwise (· ≤ ·) := by
  obtain ⟨due, hdue, h⟩ := bind_eq_ok.mp h
  have sorted := Except.ok.inj h
  subst sorted
  have trans : ∀ a b c : UInt16, decide (a ≤ b) → decide (b ≤ c) → decide (a ≤ c) := by
    intro a b c hab hbc
    simp only [decide_eq_true_eq] at hab hbc ⊢
    exact UInt16.le_trans hab hbc
  have total : ∀ a b : UInt16, (decide (a ≤ b) || decide (b ≤ a)) = true := by
    intro a b
    simpa using UInt16.le_total a b
  have ordered := List.pairwise_mergeSort trans total due
  exact ordered.imp fun hab => of_decide_eq_true hab

lemma dueZones_nodup {lastRun : LastRun} {now : Instant} {probes : List TemperatureProbe}
    {zones : List UInt16} (h : dueZones probes lastRun now = .ok zones)
    (distinct : (probes.map (·.zoneId)).Nodup) : zones.Nodup := by
  obtain ⟨due, hdue, perm⟩ := dueZones_perm h
  exact perm.nodup_iff.mpr ((collectDue_sublist hdue).nodup distinct)

/-! ## The visits -/

/-- How many of the next `n` visits, from visit `i` on, find the connection active
before one does not. -/
def Cycle.passed (cycle : Cycle) : Nat → Nat → Nat
  | _, 0 => 0
  | i, n + 1 => if cycle.connected i then cycle.passed (i + 1) n + 1 else 0

lemma queriedZones_poll (cycle : Cycle) (i : Nat) (zones : List UInt16) (s : TaskState) :
    queriedZones (poll cycle i zones s).2 = zones.take (cycle.passed i zones.length) := by
  induction zones generalizing i s with
  | nil => rfl
  | cons zoneId zones ih =>
    cases active : cycle.connected i with
    | false => simp [poll, active, Cycle.passed, queriedZones]
    | true =>
      have rest := ih (i + 1) (s.visit zoneId (cycle.pause i))
      simpa [poll, active, Cycle.passed, queriedZones] using rest

/-- One zone more than is queried is marked, if there is one. -/
lemma markedZones_poll (cycle : Cycle) (i : Nat) (zones : List UInt16) (s : TaskState) :
    markedZones (poll cycle i zones s).2 = zones.take (cycle.passed i zones.length + 1) := by
  induction zones generalizing i s with
  | nil => rfl
  | cons zoneId zones ih =>
    cases active : cycle.connected i with
    | false => simp [poll, active, Cycle.passed, markedZones]
    | true =>
      have rest := ih (i + 1) (s.visit zoneId (cycle.pause i))
      simpa [poll, active, Cycle.passed, markedZones] using rest

lemma lastRun_poll (cycle : Cycle) (i : Nat) (zones : List UInt16) (s : TaskState) (z : UInt16)
    (unmarked : z ∉ markedZones (poll cycle i zones s).2) :
    (poll cycle i zones s).1.lastRun z = s.lastRun z := by
  induction zones generalizing i s with
  | nil => rfl
  | cons zoneId zones ih =>
    cases active : cycle.connected i with
    | false =>
      have other : z ≠ zoneId := by simpa [poll, active, markedZones] using unmarked
      simp [poll, active, TaskState.visit, insertRun, other]
    | true =>
      have split : z ≠ zoneId ∧ z ∉ markedZones
          (poll cycle (i + 1) zones (s.visit zoneId (cycle.pause i))).2 := by
        simpa [poll, active, markedZones] using unmarked
      obtain ⟨other, rest⟩ := split
      have kept := ih (i + 1) _ rest
      simpa [poll, active, TaskState.visit, insertRun, other] using kept

/-- The zone's mark is no older than `m`. -/
def MarkedSince (z : UInt16) (m : Instant) (s : TaskState) : Prop :=
  ∃ last, s.lastRun z = some last ∧ m ≤ last ∧ last ≤ s.clock

lemma markedSince_own (s : TaskState) (z : UInt16) (pause : Duration) :
    MarkedSince z (s.visit z pause).clock (s.visit z pause) :=
  ⟨_, by simp [TaskState.visit, insertRun], Nat.le_refl _, Nat.le_refl _⟩

lemma markedSince_visit {z : UInt16} {m : Instant} {s : TaskState} (h : MarkedSince z m s)
    (zoneId : UInt16) (pause : Duration) : MarkedSince z m (s.visit zoneId pause) := by
  obtain ⟨last, hlast, since, past⟩ := h
  by_cases visited : z = zoneId
  · subst visited
    have later : m ≤ s.clock + pause := Nat.le_add_right_of_le (Nat.le_trans since past)
    exact ⟨s.clock + pause, by simp [TaskState.visit, insertRun], later, Nat.le_refl _⟩
  · exact ⟨last, by simp [TaskState.visit, insertRun, visited, hlast], since,
      Nat.le_add_right_of_le past⟩

lemma markedSince_poll {z : UInt16} {m : Instant} (cycle : Cycle) (i : Nat)
    (zones : List UInt16) {s : TaskState} (h : MarkedSince z m s) :
    MarkedSince z m (poll cycle i zones s).1 := by
  induction zones generalizing i s with
  | nil => exact h
  | cons zoneId zones ih =>
    have visited := markedSince_visit h zoneId (cycle.pause i)
    cases active : cycle.connected i with
    | false => simpa [poll, active] using visited
    | true => simpa [poll, active] using ih (i + 1) visited

/-- A query happens no earlier than its cycle's due check and leaves its own mark. -/
lemma queried_poll {z : UInt16} {t : Instant} (cycle : Cycle) (i : Nat) (zones : List UInt16)
    (s : TaskState) (h : .queried z t ∈ (poll cycle i zones s).2) :
    z ∈ zones ∧ s.clock ≤ t ∧ MarkedSince z t (poll cycle i zones s).1 := by
  induction zones generalizing i s with
  | nil => cases h
  | cons zoneId zones ih =>
    cases active : cycle.connected i with
    | false => simp [poll, active] at h
    | true =>
      have split : (z = zoneId ∧ t = (s.visit zoneId (cycle.pause i)).clock) ∨
          .queried z t ∈ (poll cycle (i + 1) zones (s.visit zoneId (cycle.pause i))).2 := by
        simpa [poll, active] using h
      rcases split with ⟨rfl, rfl⟩ | later
      · have own := markedSince_own s z (cycle.pause i)
        have marked := markedSince_poll cycle (i + 1) zones own
        exact ⟨List.mem_cons_self, Nat.le_add_right _ _, by simpa [poll, active] using marked⟩
      · obtain ⟨mem, after, marked⟩ := ih (i + 1) _ later
        exact ⟨List.mem_cons_of_mem _ mem, Nat.le_trans (Nat.le_add_right _ _) after,
          by simpa [poll, active] using marked⟩

/-! ## One cycle -/

/-- When a cycle checks which probes are due. -/
def Execution.checkedAt (e : Execution) : Instant := e.before.clock + e.cycle.wait

def Execution.Ran (e : Execution) : Prop := execute e.cycle e.before = .ok (e.after, e.events)

/-- The zones of the probes found due. -/
def Execution.Visits (e : Execution) (zones : List UInt16) : Prop :=
  dueZones e.cycle.probes (retainRuns e.cycle.probes e.before.lastRun) e.checkedAt = .ok zones

/-- The marked zones are the queried ones, each queried once, in ascending order,
and a due probe that was not queried is still due. -/
structure Execution.CountsPolled (e : Execution) : Prop where
  marked_iff_queried : ∀ z, z ∈ markedZones e.events ↔ z ∈ queriedZones e.events
  ascending : (queriedZones e.events).Pairwise (· < ·)
  skipped_due : ∀ p ∈ e.cycle.probes, probeDue e.before.lastRun e.checkedAt p = .ok true →
    p.zoneId ∉ queriedZones e.events →
      ∀ now, e.checkedAt ≤ now → probeDue e.after.lastRun now p = .ok true

/-- No zone comes twice before the visit that finds the connection inactive, and
that visit's zone, if there is such a visit, came before it. -/
def Execution.Unbroken (e : Execution) : Prop :=
  ∀ zones, e.Visits zones →
    (zones.take (e.cycle.passed 0 zones.length)).Nodup ∧
    ∀ z ∈ zones[e.cycle.passed 0 zones.length]?, z ∈ zones.take (e.cycle.passed 0 zones.length)

lemma Execution.Ran.polled {e : Execution} (ran : e.Ran) :
    ∃ zones, e.Visits zones ∧ poll e.cycle 0 zones
      ⟨retainRuns e.cycle.probes e.before.lastRun, e.checkedAt⟩ = (e.after, e.events) := by
  obtain ⟨zones, visits, h⟩ := bind_eq_ok.mp ran
  exact ⟨zones, visits, Except.ok.inj h⟩

lemma retainRuns_configured {probes : List TemperatureProbe} {p : TemperatureProbe}
    (configured : p ∈ probes) (lastRun : LastRun) :
    retainRuns probes lastRun p.zoneId = lastRun p.zoneId :=
  if_pos (List.mem_map_of_mem configured)

lemma Execution.Ran.unmarked {e : Execution} (ran : e.Ran) {p : TemperatureProbe}
    (configured : p ∈ e.cycle.probes) (unmarked : p.zoneId ∉ markedZones e.events) :
    e.after.lastRun p.zoneId = e.before.lastRun p.zoneId := by
  obtain ⟨zones, _, polled⟩ := ran.polled
  have kept := lastRun_poll e.cycle 0 zones
    ⟨retainRuns e.cycle.probes e.before.lastRun, e.checkedAt⟩ p.zoneId
  rw [polled] at kept
  exact (kept unmarked).trans (retainRuns_configured configured _)

lemma Execution.Ran.countsPolled_iff {e : Execution} (ran : e.Ran) :
    e.CountsPolled ↔ e.Unbroken := by
  obtain ⟨zones, visits, polled⟩ := ran.polled
  have queried := queriedZones_poll e.cycle 0 zones
    ⟨retainRuns e.cycle.probes e.before.lastRun, e.checkedAt⟩
  have marked := markedZones_poll e.cycle 0 zones
    ⟨retainRuns e.cycle.probes e.before.lastRun, e.checkedAt⟩
  rw [polled] at queried marked
  constructor
  · intro counts others visited
    have same := Except.ok.inj (visits.symm.trans visited)
    subst same
    constructor
    · rw [← queried]
      exact counts.ascending.imp fun less => UInt16.ne_of_lt less
    · intro z hz
      have last : z ∈ markedZones e.events := by
        rw [marked, List.take_add_one]
        exact List.mem_append_right _ (Option.mem_toList.mpr hz)
      rw [← queried]
      exact (counts.marked_iff_queried z).mp last
  · intro unbroken
    obtain ⟨distinct, repeated⟩ := unbroken zones visits
    have same : ∀ z, z ∈ markedZones e.events ↔ z ∈ queriedZones e.events := by
      intro z
      rw [queried, marked, List.take_add_one, List.mem_append]
      constructor
      · rintro (before | last)
        · exact before
        · exact repeated z (Option.mem_toList.mp last)
      · intro before
        exact Or.inl before
    constructor
    · exact same
    · rw [queried]
      have sorted := (dueZones_sorted visits).sublist
        (List.take_sublist (e.cycle.passed 0 zones.length) zones)
      exact sorted.imp₂ (fun _ _ le ne => UInt16.lt_of_le_of_ne le ne) distinct
    · intro p configured due skipped now later
      have unmarked : p.zoneId ∉ markedZones e.events := by rwa [same]
      exact due_later due (ran.unmarked configured unmarked) later

/-! ## Runs -/

lemma Execution.Ran.markedSince {e : Execution} (ran : e.Ran) {z : UInt16} {m : Instant}
    (configured : z ∈ e.cycle.probes.map (·.zoneId)) (h : MarkedSince z m e.before) :
    MarkedSince z m e.after := by
  obtain ⟨zones, _, polled⟩ := ran.polled
  obtain ⟨last, hlast, since, past⟩ := h
  have kept : retainRuns e.cycle.probes e.before.lastRun z = some last :=
    (if_pos configured).trans hlast
  have checked : MarkedSince z m
      ⟨retainRuns e.cycle.probes e.before.lastRun, e.checkedAt⟩ :=
    ⟨last, kept, since, Nat.le_add_right_of_le past⟩
  have visited := markedSince_poll e.cycle 0 zones checked
  rwa [polled] at visited

lemma Execution.Ran.queried {e : Execution} (ran : e.Ran) {z : UInt16} {t : Instant}
    (h : .queried z t ∈ e.events) :
    (∃ p ∈ e.cycle.probes, p.zoneId = z ∧ probeDue e.before.lastRun e.checkedAt p = .ok true) ∧
      e.checkedAt ≤ t ∧ MarkedSince z t e.after := by
  obtain ⟨zones, visits, polled⟩ := ran.polled
  have query := queried_poll (z := z) (t := t) e.cycle 0 zones
    ⟨retainRuns e.cycle.probes e.before.lastRun, e.checkedAt⟩
  rw [polled] at query
  obtain ⟨visited, after, marked⟩ := query h
  obtain ⟨p, configured, zone, due⟩ := (mem_dueZones visits z).mp visited
  have same := (retainRuns_configured configured e.before.lastRun).symm
  exact ⟨⟨p, configured, zone, due_later due same (Nat.le_refl _)⟩, after, marked⟩

/-- `Config::validate` accepts no two probes of one zone. -/
def Cycle.Distinct (cycle : Cycle) : Prop := (cycle.probes.map (·.zoneId)).Nodup

lemma Execution.Ran.spaced {e : Execution} (ran : e.Ran) (distinct : e.cycle.Distinct)
    {z : UInt16} {m t : Instant} (marked : MarkedSince z m e.before)
    (query : .queried z t ∈ e.events) {p : TemperatureProbe} (configured : p ∈ e.cycle.probes)
    (zone : p.zoneId = z) {interval : Duration} (hinterval : probeInterval p = .ok interval) :
    m + interval ≤ t := by
  obtain ⟨⟨q, hq, zone', due⟩, after, _⟩ := ran.queried query
  have same : q = p := List.inj_on_of_nodup_map distinct hq configured (zone'.trans zone.symm)
  subst same
  obtain ⟨last, hlast, since, past⟩ := marked
  have elapsed := due_after due (zone ▸ hlast) hinterval
  have checked : last ≤ e.checkedAt := Nat.le_add_right_of_le past
  have whole : last + interval ≤ e.checkedAt := Nat.add_le_of_le_sub' checked elapsed
  exact Nat.le_trans (Nat.add_le_add_right since interval) (Nat.le_trans whole after)

lemma executions_cons {s : TaskState} {cycles : List Cycle} {e : Execution}
    {rest : List Execution} (h : executions s cycles = e :: rest) :
    e.before = s ∧ e.Ran ∧ ∃ cycles', rest = executions e.after cycles' := by
  cases cycles with
  | nil => cases h
  | cons cycle cycles =>
    rw [executions] at h
    cases ran : execute cycle s with
    | error p => simp [ran] at h
    | ok result =>
      obtain ⟨s', events⟩ := result
      rw [ran] at h
      obtain ⟨rfl, rfl⟩ := List.cons.inj h
      exact ⟨rfl, ran, cycles, rfl⟩

lemma executions_suffix {s : TaskState} {cycles : List Cycle} {before rest : List Execution}
    (h : executions s cycles = before ++ rest) : ∃ s' cycles', rest = executions s' cycles' := by
  induction before generalizing s cycles with
  | nil => exact ⟨s, cycles, h.symm⟩
  | cons e before ih =>
    obtain ⟨_, _, cycles', tail⟩ := executions_cons h
    exact ih tail.symm

lemma ran_of_mem {s : TaskState} {cycles : List Cycle} {e : Execution}
    (h : e ∈ executions s cycles) : e.Ran := by
  obtain ⟨before, rest, split⟩ := List.append_of_mem h
  obtain ⟨s', cycles', suffix⟩ := executions_suffix split
  exact (executions_cons suffix.symm).2.1

/-- A mark of a zone that stays configured lasts until the next cycle that is looked at. -/
lemma markedSince_between {s : TaskState} {cycles : List Cycle} {between after : List Execution}
    {b : Execution} (h : executions s cycles = between ++ b :: after) {z : UInt16} {m : Instant}
    (configured : ∀ e ∈ between, z ∈ e.cycle.probes.map (·.zoneId)) (marked : MarkedSince z m s) :
    b.Ran ∧ MarkedSince z m b.before := by
  induction between generalizing s cycles with
  | nil =>
    obtain ⟨start, ran, _⟩ := executions_cons h
    exact ⟨ran, start ▸ marked⟩
  | cons e between ih =>
    obtain ⟨start, ran, cycles', tail⟩ := executions_cons h
    have kept := ran.markedSince (configured e List.mem_cons_self) (start ▸ marked)
    exact ih tail.symm (fun e' mem => configured e' (List.mem_cons_of_mem e mem)) kept

/-- Two queries of a zone that is configured from one to the other are at least
the interval apart that the later cycle has for it. -/
def Spaced (trace : List Execution) : Prop :=
  ∀ before a between b after, trace = before ++ a :: (between ++ b :: after) →
    ∀ z t₁ t₂, .queried z t₁ ∈ a.events → .queried z t₂ ∈ b.events →
      (∀ e ∈ between, z ∈ e.cycle.probes.map (·.zoneId)) →
        ∀ p ∈ b.cycle.probes, p.zoneId = z →
          ∀ interval, probeInterval p = .ok interval → t₁ + interval ≤ t₂

lemma executions_spaced {start : TaskState} {cycles : List Cycle}
    (distinct : ∀ e ∈ executions start cycles, e.cycle.Distinct) :
    Spaced (executions start cycles) := by
  intro before a between b after split z t₁ t₂ first second configured p hp zone interval hinterval
  have later : b.cycle.Distinct := distinct b (by simp [split])
  obtain ⟨s', cycles', suffix⟩ := executions_suffix split
  obtain ⟨_, ran, cycles'', tail⟩ := executions_cons suffix.symm
  obtain ⟨_, _, own⟩ := ran.queried first
  obtain ⟨ran', marked⟩ := markedSince_between tail.symm configured own
  exact ran'.spaced later marked second hp zone hinterval

/-- What counts as polled was polled in every cycle, and queries keep their intervals. -/
def Polled (trace : List Execution) : Prop :=
  (∀ e ∈ trace, e.CountsPolled) ∧ Spaced trace

/-- Every visit of the cycle finds the connection active. -/
def Execution.Connected (e : Execution) : Prop :=
  ∀ zones, e.Visits zones → ∀ i < zones.length, e.cycle.connected i = true

lemma passed_le (cycle : Cycle) (i n : Nat) : cycle.passed i n ≤ n := by
  induction n generalizing i with
  | zero => exact Nat.le_refl 0
  | succ n ih =>
    rw [Cycle.passed]
    split
    · exact Nat.succ_le_succ (ih (i + 1))
    · exact Nat.zero_le _

lemma passed_eq_iff (cycle : Cycle) (i n : Nat) :
    cycle.passed i n = n ↔ ∀ j < n, cycle.connected (i + j) = true := by
  induction n generalizing i with
  | zero => simp [Cycle.passed]
  | succ n ih =>
    cases active : cycle.connected i with
    | false =>
      constructor
      · intro all
        simp [Cycle.passed, active] at all
      · intro all
        have first := all 0 (Nat.succ_pos n)
        simp [active] at first
    | true =>
      rw [Cycle.passed, if_pos active, Nat.add_right_cancel_iff, ih (i + 1)]
      constructor
      · intro rest j hj
        cases j with
        | zero => exact active
        | succ j =>
          have next := rest j (Nat.lt_of_succ_lt_succ hj)
          rwa [Nat.add_assoc, Nat.add_comm 1 j] at next
      · intro all j hj
        have next := all (j + 1) (Nat.succ_lt_succ hj)
        rwa [Nat.add_assoc, Nat.add_comm 1 j]

/-- With one probe a zone, only an inactive connection breaks a cycle. -/
lemma Execution.Ran.unbroken_iff {e : Execution} (ran : e.Ran) (distinct : e.cycle.Distinct) :
    e.Unbroken ↔ e.Connected := by
  obtain ⟨zones, visits, _⟩ := ran.polled
  have nodup := dueZones_nodup visits distinct
  constructor
  · intro unbroken others visited
    have same := Except.ok.inj (visits.symm.trans visited)
    subst same
    have all : e.cycle.passed 0 zones.length = zones.length := by
      by_contra broken
      have short : e.cycle.passed 0 zones.length < zones.length :=
        Nat.lt_of_le_of_ne (passed_le e.cycle 0 zones.length) broken
      have seen := (unbroken zones visits).2 _ (List.getElem?_eq_getElem short)
      obtain ⟨j, hj, earlier⟩ := List.mem_take_iff_getElem.mp seen
      have index := (nodup.getElem_inj_iff).mp earlier
      omega
    intro i hi
    have active := (passed_eq_iff e.cycle 0 zones.length).mp all i hi
    rwa [Nat.zero_add] at active
  · intro connected others visited
    have all : e.cycle.passed 0 others.length = others.length := by
      rw [passed_eq_iff]
      intro j hj
      rw [Nat.zero_add]
      exact connected others visited j hj
    rw [all, List.take_length]
    exact ⟨dueZones_nodup visited distinct, by simp⟩

/-- The marked zones of a cycle are its queried ones unless a visit finds the
connection inactive at a zone not queried before. In a run with one probe a zone,
the task counts as polled what it polled, and keeps every interval, exactly when
each visit finds the connection active. -/
theorem polled_iff (start : TaskState) (cycles : List Cycle) :
    (∀ e ∈ executions start cycles, e.CountsPolled ↔ e.Unbroken) ∧
    ((∀ e ∈ executions start cycles, e.cycle.Distinct) →
      (Polled (executions start cycles) ↔ ∀ e ∈ executions start cycles, e.Connected)) := by
  constructor
  · intro e mem
    exact (ran_of_mem mem).countsPolled_iff
  · intro distinct
    have cycle_iff : ∀ e ∈ executions start cycles, e.CountsPolled ↔ e.Connected := by
      intro e mem
      have ran := ran_of_mem mem
      exact ran.countsPolled_iff.trans (ran.unbroken_iff (distinct e mem))
    constructor
    · intro polled e mem
      exact (cycle_iff e mem).mp (polled.1 e mem)
    · intro connected
      constructor
      · intro e mem
        exact (cycle_iff e mem).mpr (connected e mem)
      · exact executions_spaced distinct

def neverConnected : Cycle where
  probes := [⟨1, 1, 4, 10, false, 10⟩]
  wait := 0
  pause := fun _ => 0
  connected := fun _ => false

def freshTask : TaskState := ⟨fun _ => none, 0⟩

lemma neverConnected_ran :
    execute neverConnected freshTask = .ok (freshTask.visit 1 0, [.marked 1 0]) := by
  have kept : retainRuns neverConnected.probes freshTask.lastRun = freshTask.lastRun := by
    funext z
    exact ite_self none
  have due : collectDue freshTask.lastRun 0 neverConnected.probes = .ok [1] := rfl
  have visits : dueZones neverConnected.probes freshTask.lastRun 0 = .ok [1] := by
    rw [dueZones, due, ok_bind, List.mergeSort_singleton]
    rfl
  rw [execute, kept, show freshTask.clock + neverConnected.wait = 0 from rfl, visits]
  rfl

/-- A zone whose only visit finds the connection inactive is marked all the same. -/
theorem skipped_probe_marked :
    ¬ ∀ (start : TaskState) (cycles : List Cycle), Polled (executions start cycles) := by
  intro all
  have polled := all freshTask [neverConnected]
  rw [executions, neverConnected_ran] at polled
  have counts := polled.1 _ List.mem_cons_self
  have queried := (counts.marked_iff_queried 1).mp (by decide)
  revert queried
  decide

end SatelIntegra.TemperaturePolling
