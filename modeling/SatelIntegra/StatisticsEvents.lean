import Mathlib.Algebra.GroupWithZero.Nat
import Mathlib.Data.List.Chain
import SatelIntegra.World

/-!
# The statistics that subscribers are told

The polling worker compares the counters with the mark of the last report every 30
seconds of a connection, and reports them if they changed enough; the auto requester
reports them with every change of state. Counters are raised under the read lock,
except for checksum errors, which the decoder counts without it: `late` of them come
between the mark and the counters of one report. An event is sent after the lock is
released, so the two tasks may send theirs in either order.
-/

namespace SatelIntegra

/-- The counters of a mark. -/
inductive Counter where
  | nonPingFrames
  | connectionsEstablished
  | reconnectAttempts
  | connectionsLost
  | timeouts
  | crcErrors
  | rejectedByPanel
  | ioErrors
  deriving DecidableEq, Repr

namespace Counter

def marked (m : StatsMark) : Counter → UInt64
  | nonPingFrames => m.nonPingFrames
  | connectionsEstablished => m.connectionsEstablished
  | reconnectAttempts => m.reconnectAttempts
  | connectionsLost => m.connectionsLost
  | timeouts => m.timeouts
  | crcErrors => m.crcErrors
  | rejectedByPanel => m.rejectedByPanel
  | ioErrors => m.ioErrors

abbrev counted (t : ConnectionTelemetry) (c : Counter) : UInt64 := c.marked t.statsMark

/-- Subscribers are not told the number of frames. -/
def told (s : ConnectionStatistics) : Counter → Option UInt64
  | nonPingFrames => none
  | connectionsEstablished => some s.connectionsEstablished
  | reconnectAttempts => some s.reconnectAttempts
  | connectionsLost => some s.connectionsLost
  | timeouts => some s.timeouts
  | crcErrors => some s.crcErrors
  | rejectedByPanel => some s.rejectedByPanel
  | ioErrors => some s.ioErrors

end Counter

def statsMinNonPingFrames : UInt64 := 5

def saturatingSub (a b : UInt64) : UInt64 := if b ≤ a then a - b else 0

def statisticsChanged (prev now : StatsMark) : Bool :=
  decide (saturatingSub now.nonPingFrames prev.nonPingFrames ≥ statsMinNonPingFrames)
    || prev.connectionsEstablished != now.connectionsEstablished
    || prev.reconnectAttempts != now.reconnectAttempts
    || prev.connectionsLost != now.connectionsLost
    || prev.timeouts != now.timeouts
    || prev.crcErrors != now.crcErrors
    || prev.rejectedByPanel != now.rejectedByPanel
    || prev.ioErrors != now.ioErrors

namespace ConnectionTelemetry

/-- `fetch_add(n)` -/
def raise (t : ConnectionTelemetry) (n : UInt64) : Counter → ConnectionTelemetry
  | .nonPingFrames => { t with nonPingFrames := t.nonPingFrames + n }
  | .connectionsEstablished => { t with connectionsEstablished := t.connectionsEstablished + n }
  | .reconnectAttempts => { t with reconnectAttempts := t.reconnectAttempts + n }
  | .connectionsLost => { t with connectionsLost := t.connectionsLost + n }
  | .timeouts => { t with timeouts := t.timeouts + n }
  | .crcErrors => { t with crcErrors := t.crcErrors + n }
  | .rejectedByPanel => { t with rejectedByPanel := t.rejectedByPanel + n }
  | .ioErrors => { t with ioErrors := t.ioErrors + n }

/-- The block that marks the counters and then reads them, and what it reads. -/
def report (t : ConnectionTelemetry) (late : Nat) (now : LocalTime) :
    ConnectionTelemetry × ConnectionStatistics :=
  let marked := { t with lastSentStatsMark := t.statsMark }
  let counted := marked.raise (.ofNat late) .crcErrors
  (counted, counted.statistics now)

end ConnectionTelemetry

/-- The tasks that tell subscribers. -/
inductive Teller where
  | requester
  | poller
  deriving DecidableEq, Repr

/-- `holding` is what a task has read and not sent yet. The last two fields are about what
happened, and no code reads them: the reports made since the last reset, and the times of those of
the poller, the latest first. -/
structure StatsWorld where
  telemetry : ConnectionTelemetry
  clock : Instant
  holding : Teller → Option ConnectionStatistics
  events : List ConnectionStatistics
  lastStatsCheck : Instant
  polling : Bool
  reports : List ConnectionStatistics
  pollerTimes : List Instant

/-- `change` stands for what the worker does to the rest of the telemetry. An iteration of the
poller begins with `look`. -/
inductive StatsAct where
  | pass (d : Duration)
  | count (c : Counter)
  | change (status : ConnectionStatus) (connectedSince : Option LocalTime)
      (totalConnectedBefore : Duration)
  | reset (now : LocalTime)
  | stateChanged (late : Nat) (now : LocalTime)
  | look
  | check (late : Nat) (now : LocalTime)
  | send (teller : Teller)

namespace StatsWorld

def new (telemetryStart pollerStart : Instant) : StatsWorld where
  telemetry := .new telemetryStart
  clock := pollerStart
  holding _ := none
  events := []
  lastStatsCheck := pollerStart
  polling := false
  reports := []
  pollerTimes := []

/-- A report is made and held by its task. -/
def hold (w : StatsWorld) (teller : Teller) (late : Nat) (now : LocalTime) : StatsWorld :=
  let (telemetry, statistics) := w.telemetry.report late now
  { w with
    telemetry
    holding := Function.update w.holding teller (some statistics)
    reports := w.reports ++ [statistics] }

/-- The block of the poller under the lock. -/
def compareStats (w : StatsWorld) (late : Nat) (now : LocalTime) : StatsWorld :=
  if statisticsChanged w.telemetry.lastSentStatsMark w.telemetry.statsMark then
    { w.hold .poller late now with pollerTimes := w.clock :: w.pollerTimes }
  else { w with telemetry := w.telemetry.raise (.ofNat late) .crcErrors }

/-- The end of an iteration of the poller. -/
def check (w : StatsWorld) (late : Nat) (now : LocalTime) : StatsWorld :=
  if w.clock - w.lastStatsCheck ≥ secs 30 then
    { w with polling := false, lastStatsCheck := w.clock }.compareStats late now
  else { w with polling := false, telemetry := w.telemetry.raise (.ofNat late) .crcErrors }

/-- A task that holds a report sends it before it does anything else. -/
def act (w : StatsWorld) : StatsAct → StatsWorld
  | .pass d => { w with clock := w.clock + d }
  | .count c => { w with telemetry := w.telemetry.raise 1 c }
  | .change status connectedSince totalConnectedBefore =>
    { w with telemetry := { w.telemetry with status, connectedSince, totalConnectedBefore } }
  | .reset now => { w with telemetry := w.telemetry.reset now, reports := [] }
  | .stateChanged late now =>
    if w.holding .requester = none then w.hold .requester late now else w
  | .look =>
    if w.holding .poller = none ∧ ¬ w.polling then
      { w with polling := decide (w.telemetry.status.state = .connected) }
    else w
  | .check late now => if w.holding .poller = none ∧ w.polling then w.check late now else w
  | .send teller =>
    match w.holding teller with
    | some statistics =>
      { w with
        holding := Function.update w.holding teller none
        events := w.events ++ [statistics] }
    | none => w

def run (w : StatsWorld) (acts : List StatsAct) : StatsWorld := acts.foldl act w

end StatsWorld

/-- The reports that the two tasks hold. -/
def heldReports (holding : Teller → Option ConnectionStatistics) : List ConnectionStatistics :=
  [Teller.requester, Teller.poller].filterMap holding

/-- A task that held nothing holds one report more. -/
lemma count_heldReports {holding : Teller → Option ConnectionStatistics} {teller : Teller}
    (free : holding teller = none) (statistics s : ConnectionStatistics) :
    (heldReports (Function.update holding teller (some statistics))).count s =
      (heldReports holding).count s + [statistics].count s := by
  cases teller with
  | requester => cases held : holding .poller <;> simp [heldReports, free, held, List.count_cons]
  | poller =>
    cases held : holding .requester <;>
      simp [heldReports, free, held, List.count_cons, Nat.add_comm]

/-! ### Counters and marks -/

section Counters
variable {t : ConnectionTelemetry} {c c' : Counter}

@[simp] lemma counted_raise (n : UInt64) (c c' : Counter) :
    c'.counted (t.raise n c) = if c' = c then c'.counted t + n else c'.counted t := by
  cases c <;> cases c' <;> rfl

@[simp] lemma mark_raise (n : UInt64) (c : Counter) :
    (t.raise n c).lastSentStatsMark = t.lastSentStatsMark := by
  cases c <;> rfl

lemma told_statistics (now : LocalTime) (c : Counter) :
    c.told (t.statistics now) = if c = .nonPingFrames then none else some (c.counted t) := by
  cases c <;> rfl

lemma counted_reset (now : LocalTime) (c : Counter) : c.counted (t.reset now) = 0 := by
  cases c <;> rfl

lemma saturatingSub_lt {a b n : UInt64} (h : ¬ saturatingSub a b ≥ n) (le : b.toNat ≤ a.toNat) :
    a.toNat < b.toNat + n.toNat := by
  have some : b ≤ a := UInt64.le_iff_toNat_le.mpr le
  rw [saturatingSub, if_pos some, ge_iff_le, UInt64.le_iff_toNat_le, UInt64.toNat_sub_of_le _ _ some]
    at h
  omega

/-- Counters that have not changed are those of the mark, but for a few frames. -/
lemma unchanged_counters {prev now : StatsMark} (h : statisticsChanged prev now = false)
    (le : prev.nonPingFrames.toNat ≤ now.nonPingFrames.toNat) :
    now.nonPingFrames.toNat < prev.nonPingFrames.toNat + 5 ∧
      ∀ c : Counter, c ≠ .nonPingFrames → c.marked prev = c.marked now := by
  simp only [statisticsChanged, Bool.or_eq_false_iff, bne_eq_false_iff_eq, decide_eq_false_iff_not]
    at h
  obtain ⟨⟨⟨⟨⟨⟨⟨frames, established⟩, attempts⟩, lost⟩, timeouts⟩, crc⟩, rejected⟩, io⟩ := h
  constructor
  · exact saturatingSub_lt frames le
  · intro c other
    cases c with
    | nonPingFrames => exact absurd rfl other
    | _ => assumption

end Counters

/-! ### What one act keeps -/

/-- A report tells the counters it marked, and perhaps some later checksum errors. -/
structure Tells (s : ConnectionStatistics) (t : ConnectionTelemetry) : Prop where
  exact : ∀ c : Counter, c ≠ .nonPingFrames → c ≠ .crcErrors → c.told s = some (c.marked t.lastSentStatsMark)
  crc : (Counter.crcErrors.marked t.lastSentStatsMark).toNat ≤ s.crcErrors.toNat ∧
    s.crcErrors.toNat ≤ (Counter.crcErrors.counted t).toNat

/-- At most `n` was counted, the mark is behind the counters, a report tells what is marked, and
each report is sent, or held by its task. -/
structure Told (n : Nat) (w : StatsWorld) : Prop where
  bound : ∀ c, (Counter.counted w.telemetry c).toNat ≤ n
  behind : ∀ c : Counter,
    (c.marked w.telemetry.lastSentStatsMark).toNat ≤ (c.counted w.telemetry).toNat
  told : (w.reports = [] ∧ w.telemetry.lastSentStatsMark = {}) ∨
    ∃ s ∈ w.reports, Tells s w.telemetry
  sent : ∀ s, w.reports.count s ≤ (w.events ++ heldReports w.holding).count s

def StatsAct.raised : StatsAct → Nat
  | .count _ => 1
  | .stateChanged late _ | .check late _ => late
  | _ => 0

section Step
variable {n k : Nat} {w : StatsWorld}

lemma Told.more (h : Told n w) (le : n ≤ k) : Told k w :=
  ⟨fun c => (h.bound c).trans le, h.behind, h.told, h.sent⟩

lemma counted_raise_toNat {t : ConnectionTelemetry} {c : Counter} (c' : Counter)
    (bound : (c'.counted t).toNat ≤ n) (few : n + k < 2 ^ 64) :
    (c'.counted (t.raise (.ofNat k) c)).toNat =
      (c'.counted t).toNat + if c' = c then k else 0 := by
  have size : UInt64.size = 2 ^ 64 := rfl
  rw [counted_raise]
  by_cases same : c' = c
  · rw [if_pos same, if_pos same, UInt64.toNat_add, UInt64.toNat_ofNat_of_lt' (by omega)]
    exact Nat.mod_eq_of_lt (by omega)
  · rw [if_neg same, if_neg same]
    rfl

/-- Counters go up. -/
lemma Told.raise (h : Told n w) (few : n + k < 2 ^ 64) (c : Counter) :
    Told (n + k) { w with telemetry := w.telemetry.raise (.ofNat k) c } := by
  have raised (c' : Counter) := counted_raise_toNat (c := c) c' (h.bound c') few
  constructor
  · intro c'
    have bound := h.bound c'
    rw [raised]
    split <;> omega
  · intro c'
    have behind := h.behind c'
    rw [raised, mark_raise]
    omega
  · rcases h.told with none | ⟨s, mem, exact, crc⟩
    · left
      rw [mark_raise]
      exact none
    · refine .inr ⟨s, mem, ?_, ?_⟩
      · rw [mark_raise]
        exact exact
      · rw [raised, mark_raise]
        omega
  · exact h.sent

/-- A task that holds nothing makes a report. -/
lemma Told.hold (h : Told n w) (late : Nat) (few : n + late < 2 ^ 64) {teller : Teller}
    (now : LocalTime) (free : w.holding teller = none) :
    Told (n + late) (w.hold teller late now) := by
  have raised (c : Counter) : (c.counted (w.hold teller late now).telemetry).toNat =
      (c.counted w.telemetry).toNat + if c = .crcErrors then late else 0 :=
    counted_raise_toNat (t := { w.telemetry with lastSentStatsMark := w.telemetry.statsMark }) c
      (h.bound c) few
  have mark : (w.hold teller late now).telemetry.lastSentStatsMark = w.telemetry.statsMark :=
    mark_raise _ _
  constructor
  · intro c
    have bound : (c.counted w.telemetry).toNat ≤ n := h.bound c
    rw [raised]
    split <;> omega
  · intro c
    rw [raised, mark]
    exact Nat.le_add_right _ _
  · refine .inr ⟨_, List.mem_append_right _ List.mem_cons_self, ?_, ?_⟩
    · intro c frames crc
      rw [mark, told_statistics, if_neg frames, counted_raise, if_neg crc]
      rfl
    · constructor
      · have later := raised .crcErrors
        rw [mark]
        refine Nat.le_trans (Nat.le_add_right _ _) (Nat.le_of_eq later.symm)
      · exact Nat.le_refl _
  · intro s
    have sent := h.sent s
    have held := count_heldReports free (w.telemetry.report late now).2 s
    simp only [StatsWorld.hold, List.count_append] at sent ⊢
    omega

lemma Told.check (h : Told n w) (late : Nat) (few : n + late < 2 ^ 64) (now : LocalTime)
    (free : w.holding .poller = none) : Told (n + late) (w.check late now) := by
  have idle : Told n { w with polling := false } := ⟨h.bound, h.behind, h.told, h.sent⟩
  have checked : Told n { w with polling := false, lastStatsCheck := w.clock } :=
    ⟨h.bound, h.behind, h.told, h.sent⟩
  rw [StatsWorld.check]
  split
  · rw [StatsWorld.compareStats]
    split
    · obtain ⟨bound, behind, told, sent⟩ := checked.hold late few now free
      exact ⟨bound, behind, told, sent⟩
    · exact checked.raise few .crcErrors
  · exact idle.raise few .crcErrors

lemma Told.send (h : Told n w) (teller : Teller) : Told n (w.act (.send teller)) := by
  rw [StatsWorld.act]
  cases held : w.holding teller with
  | none => exact h
  | some statistics =>
    refine ⟨h.bound, h.behind, h.told, ?_⟩
    intro s
    have sent := h.sent s
    have handed := count_heldReports (Function.update_self teller none w.holding) statistics s
    rw [Function.update_idem, ← held, Function.update_eq_self] at handed
    simp only [List.count_append] at sent ⊢
    omega

lemma Told.act (h : Told n w) (a : StatsAct) (few : n + a.raised < 2 ^ 64) :
    Told (n + a.raised) (w.act a) := by
  cases a with
  | pass d => exact ⟨h.bound, h.behind, h.told, h.sent⟩
  | count c => exact h.raise few c
  | change status connectedSince totalConnectedBefore =>
    refine ⟨?_, ?_, ?_, h.sent⟩
    · intro c
      have same := h.bound c
      cases c <;> exact same
    · intro c
      have same := h.behind c
      cases c <;> exact same
    · rcases h.told with none | ⟨s, mem, exact, crc⟩
      · exact .inl none
      · exact .inr ⟨s, mem, exact, crc⟩
  | reset now =>
    refine ⟨?_, ?_, .inl ⟨rfl, rfl⟩, ?_⟩
    · intro c
      rw [StatsWorld.act, counted_reset]
      exact Nat.zero_le _
    · intro c
      cases c <;> exact Nat.le_refl 0
    · intro s
      exact Nat.zero_le _
  | stateChanged late now =>
    rw [StatsWorld.act]
    split
    · rename_i free
      exact h.hold late few now free
    · exact h.more (Nat.le_add_right n _)
  | look =>
    rw [StatsWorld.act]
    split
    · exact ⟨h.bound, h.behind, h.told, h.sent⟩
    · exact h
  | check late now =>
    rw [StatsWorld.act]
    split
    · rename_i free
      exact h.check late few now free.1
    · exact h.more (Nat.le_add_right n _)
  | send teller => exact h.send teller

lemma told_new (a b : Instant) : Told 0 (.new a b) := by
  refine ⟨?_, ?_, .inl ⟨rfl, rfl⟩, ?_⟩
  · intro c
    cases c <;> exact Nat.le_refl 0
  · intro c
    cases c <;> exact Nat.le_refl 0
  · intro s
    exact Nat.zero_le _

lemma Told.run (h : Told n w) (acts : List StatsAct)
    (few : n + (acts.map StatsAct.raised).sum < 2 ^ 64) :
    Told (n + (acts.map StatsAct.raised).sum) (w.run acts) := by
  induction acts generalizing n w with
  | nil => exact h
  | cons a acts ih =>
    rw [List.map_cons, List.sum_cons, ← Nat.add_assoc] at few ⊢
    exact ih (h.act a (by omega)) few

end Step

/-! ### What subscribers know -/

section Checks
variable {n : Nat} {w : StatsWorld}

/-- Reports of the poller are 30 seconds apart. -/
structure Spaced (w : StatsWorld) : Prop where
  chain : w.pollerTimes.IsChain fun later earlier => earlier + secs 30 ≤ later
  last : ∀ time ∈ w.pollerTimes.head?, time ≤ w.lastStatsCheck
  past : w.lastStatsCheck ≤ w.clock

lemma Spaced.act (h : Spaced w) (a : StatsAct) : Spaced (w.act a) := by
  obtain ⟨chain, last, past⟩ := h
  cases a with
  | pass d => exact ⟨chain, last, Nat.le_add_right_of_le past⟩
  | check late now =>
    rw [StatsWorld.act]
    split
    · rw [StatsWorld.check]
      split
      · rename_i due
        have later : ∀ time ∈ w.pollerTimes.head?, time + secs 30 ≤ w.clock := by
          intro time first
          exact Nat.le_trans (Nat.add_le_add_right (last time first) _)
            (Nat.add_le_of_le_sub' past due)
        rw [StatsWorld.compareStats]
        split
        · refine ⟨List.isChain_cons.mpr ⟨later, chain⟩, ?_, Nat.le_refl _⟩
          rintro time ⟨rfl⟩
          exact Nat.le_refl _
        · exact ⟨chain, fun time first => (last time first).trans past, Nat.le_refl _⟩
      · exact ⟨chain, last, past⟩
    · exact ⟨chain, last, past⟩
  | stateChanged late now | look =>
    rw [StatsWorld.act]
    split
    · exact ⟨chain, last, past⟩
    · exact ⟨chain, last, past⟩
  | send teller =>
    rw [StatsWorld.act]
    split
    · exact ⟨chain, last, past⟩
    · exact ⟨chain, last, past⟩
  | _ => exact ⟨chain, last, past⟩

lemma Spaced.run (h : Spaced w) (acts : List StatsAct) : Spaced (w.run acts) := by
  induction acts generalizing w with
  | nil => exact h
  | cons a acts ih => exact ih (h.act a)

/-- What the poller makes sure of by a check: either nothing was reported since the last reset and
there is nothing to tell, or some report tells every counter as the check found it. -/
def UpToDate (t : ConnectionTelemetry) (w' : StatsWorld) : Prop :=
  t.nonPingFrames.toNat < w'.telemetry.lastSentStatsMark.nonPingFrames.toNat + 5 ∧
    ((w'.reports = [] ∧ ∀ c : Counter, c ≠ .nonPingFrames → c.counted t = 0) ∨
      ∃ s ∈ w'.reports, t.crcErrors ≤ s.crcErrors ∧
        ∀ c : Counter, c ≠ .nonPingFrames → c ≠ .crcErrors → c.told s = some (c.counted t))

lemma Told.upToDate (h : Told n w) {late : Nat} (few : n + late < 2 ^ 64) (now : LocalTime)
    (free : w.holding .poller = none) (due : secs 30 ≤ w.clock - w.lastStatsCheck) :
    UpToDate w.telemetry (w.check late now) := by
  have checked : Told n { w with polling := false, lastStatsCheck := w.clock } :=
    ⟨h.bound, h.behind, h.told, h.sent⟩
  rw [StatsWorld.check, if_pos due, StatsWorld.compareStats]
  split
  · have mark : ({ w with polling := false, lastStatsCheck := w.clock }.hold .poller late
        now).telemetry.lastSentStatsMark = w.telemetry.statsMark := mark_raise _ _
    constructor
    · simp only [mark]
      exact Nat.lt_add_of_pos_right (by decide)
    · rcases (checked.hold late few now free).told with ⟨none, -⟩ | ⟨s, mem, exact, crc⟩
      · exact absurd none (List.append_ne_nil_of_right_ne_nil _ (List.cons_ne_nil _ _))
      · rw [mark] at exact crc
        exact .inr ⟨s, mem, UInt64.le_iff_toNat_le.mpr crc.1, exact⟩
  · rename_i unchanged
    obtain ⟨frames, same⟩ := unchanged_counters (Bool.eq_false_iff.mpr unchanged)
      (h.behind .nonPingFrames)
    constructor
    · rw [mark_raise]
      exact frames
    · rcases h.told with ⟨none, mark⟩ | ⟨s, mem, exact, crc⟩
      · refine .inl ⟨none, fun c frames => ?_⟩
        have zero := same c frames
        simp only [mark] at zero
        rw [Counter.counted, ← zero]
        cases c <;> rfl
      · refine .inr ⟨s, mem, ?_, ?_⟩
        · have equal := same .crcErrors (by decide)
          rw [equal] at crc
          exact UInt64.le_iff_toNat_le.mpr crc.1
        · intro c frames other
          rw [exact c frames other, same c frames]

end Checks

/-- In every run that counts less than `2 ^ 64` events: each report since the last reset has been
sent or is about to be, equal ones each for itself; whenever 30 seconds have passed since the last
check, a check leaves nothing untold that it found, but for less than five frames; and the reports
of the poller are 30 seconds apart. -/
theorem statistics_told (telemetryStart pollerStart : Instant) (acts : List StatsAct) (late : Nat)
    (now : LocalTime) (few : (acts.map StatsAct.raised).sum + late < 2 ^ 64) :
    let w := (StatsWorld.new telemetryStart pollerStart).run acts
    (∀ s, w.reports.count s ≤ (w.events ++ heldReports w.holding).count s) ∧
      (w.holding .poller = none → w.polling = true → secs 30 ≤ w.clock - w.lastStatsCheck →
        UpToDate w.telemetry (w.act (.check late now))) ∧
      w.pollerTimes.IsChain fun later earlier => earlier + secs 30 ≤ later := by
  intro w
  have told : Told (0 + (acts.map StatsAct.raised).sum) w :=
    (told_new telemetryStart pollerStart).run acts (by omega)
  have spaced : Spaced w :=
    Spaced.run ⟨List.isChain_nil, by simp [StatsWorld.new], Nat.le_refl _⟩ acts
  refine ⟨told.sent, ?_, spaced.chain⟩
  intro free polling due
  rw [StatsWorld.act, if_pos ⟨free, polling⟩]
  exact told.upToDate (by omega) now free due

/-- A timeout after the connection is reported by the next check. -/
theorem statistics_told_timeout :
    let now : LocalTime := ⟨0, Nat.zero_le _⟩
    let connected : ConnectionStatus := { state := .connected, failedAttempts := 0, lastEventAt := 0 }
    let acts : List StatsAct := [.count .connectionsEstablished, .change connected none 0,
      .stateChanged 0 now, .send .requester, .count .timeouts, .pass (secs 31), .look]
    let w := (StatsWorld.new 0 0).run acts
    UpToDate w.telemetry (w.act (.check 0 now)) ∧
      ((w.act (.check 0 now)).act (.send .poller)).events.map (·.timeouts) = [0, 1] := by
  intro now connected acts w
  have told := statistics_told 0 0 acts 0 now (by decide)
  exact ⟨told.2.1 rfl (by decide) (by decide), by decide⟩

end SatelIntegra
