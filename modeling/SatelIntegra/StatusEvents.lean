import SatelIntegra.AutoRequester

/-!
# When a status event is sent

Status replies reach the cache from the panel's pushes and from queries, through the
same update. It compares whole statuses, the clock among them, so a run of replies
tells as often as the clock moves.
-/

namespace SatelIntegra

open CheckedAccess

/-- `get_system_status`, with what the exchange returned. -/
def getSystemStatus (config : Config) (state : SatelState) (response : Except SatelError Frame)
    (clock : Clock) : Except Panic (Except SatelError SystemStatus × Updated) := do
  match response with
  | .error e => return (.error e, (state, []))
  | .ok response =>
    match ← (processRtcAndStatus response clock).run with
    | .error e => return (.error e, (state, []))
    | .ok status => return (.ok status, updateSystemStatusInternal config state status)

/-- A frame with command `0x1A`, on one of its two ways, and the clock when it is parsed. -/
inductive StatusFrame where
  | pushed (data : Frame) (clock : Clock)
  | queried (data : Frame) (clock : Clock)

namespace StatusFrame

/-- The status of an accepted frame. -/
def status? : StatusFrame → Option SystemStatus
  | pushed data clock | queried data clock => (systemStatus clock (0x1A :: data)).toOption

def apply (config : Config) (state : SatelState) : StatusFrame → Except Panic Updated
  | pushed data clock => handleAutoFrame config state (0x1A :: data) clock
  | queried data clock => do
    let (_, updated) ← getSystemStatus config state (.ok (0x1A :: data)) clock
    return updated

/-- The cache behind a sequence of frames. -/
def run (config : Config) (state : SatelState) : List StatusFrame → Except Panic SatelState
  | [] => return state
  | frame :: frames => do run config (← frame.apply config state).1 frames

/-- The status of the last accepted frame of a sequence. -/
def last? (frames : List StatusFrame) : Option SystemStatus := (frames.filterMap status?).getLast?

section Runs
variable (config : Config) (state : SatelState)

lemma apply_eq (frame : StatusFrame) : frame.apply config state = .ok (match frame.status? with
    | some status => updateSystemStatusInternal config state status
    | none => (state, [])) := by
  cases frame with
  | pushed data clock =>
    have parsed := processRtcAndStatus_eq (0x1A :: data) clock
    have handled : apply config state (pushed data clock) =
        ifParsed state (processRtcAndStatus (0x1A :: data) clock)
          (updateSystemStatusInternal config state) := rfl
    rw [handled, status?]
    cases h : systemStatus clock (0x1A :: data) with
    | ok status =>
      rw [h] at parsed
      exact ifParsed_of_ok parsed
    | error e =>
      rw [h] at parsed
      exact ifParsed_of_error parsed
  | queried data clock =>
    have parsed : (processRtcAndStatus (0x1A :: data) clock).run = _ :=
      processRtcAndStatus_eq (0x1A :: data) clock
    rw [apply, getSystemStatus, parsed, status?]
    cases systemStatus clock (0x1A :: data) <;> rfl

variable {config} (off : config.emitUnchangedSystemStatus = false)
include off

/-- With the option off, an update happens and tells exactly where the whole status is new. -/
lemma update_of_off (status : SystemStatus) :
    (updateSystemStatusInternal config state status).1.systemStatus = some status ∧
      ((∃ told, .systemStatusChanged told ∈ (updateSystemStatusInternal config state status).2) ↔
        state.systemStatus ≠ some status) := by
  by_cases same : state.systemStatus = some status
  · simp [updateSystemStatusInternal, same, off]
  · simp [updateSystemStatusInternal, same]

/-- The cache has the status of the last accepted frame. -/
lemma run_of_off (frames : List StatusFrame) :
    ∃ after, run config state frames = .ok after ∧
      after.systemStatus = (last? frames).or state.systemStatus := by
  induction frames generalizing state with
  | nil => exact ⟨state, rfl, rfl⟩
  | cons frame frames ih =>
    rw [run, apply_eq, ok_bind]
    cases accepted : frame.status? with
    | none =>
      obtain ⟨after, ran, status⟩ := ih state
      refine ⟨after, ran, ?_⟩
      rw [status, last?, last?, List.filterMap_cons_none accepted]
    | some status =>
      obtain ⟨stored, -⟩ := update_of_off state off status
      obtain ⟨after, ran, later⟩ := ih (updateSystemStatusInternal config state status).1
      refine ⟨after, ran, ?_⟩
      rw [later, stored, last?, last?, List.filterMap_cons_some accepted, List.getLast?_cons]
      cases (frames.filterMap status?).getLast? <;> rfl

end Runs

def SameBits (status status' : SystemStatus) : Prop :=
  status.serviceMode = status'.serviceMode ∧ status.troublesPresent = status'.troublesPresent ∧
    status.troublesMemory = status'.troublesMemory

lemma eq_iff_bits (status status' : SystemStatus) :
    status = status' ↔ SameBits status status' ∧ status.rtc = status'.rtc := by
  constructor
  · rintro rfl
    exact ⟨⟨rfl, rfl, rfl⟩, rfl⟩
  · rintro ⟨⟨service, present, memory⟩, rtc⟩
    cases status
    cases status'
    simp_all

/-- Each accepted frame of a sequence, with the frames before it. -/
def EachAccepted (frames : List StatusFrame)
    (holds : List StatusFrame → StatusFrame → SystemStatus → Prop) : Prop :=
  ∀ before frame after, frames = before ++ frame :: after →
    ∀ status, frame.status? = some status → holds before frame status

/-- An event is sent for the first accepted frame and for each with other bits than the last. -/
def TellsBits (config : Config) (start : Instant) (frames : List StatusFrame) : Prop :=
  EachAccepted frames fun before frame status =>
    ∀ state updated, run config (.new start) before = .ok state →
      frame.apply config state = .ok updated →
      ((∃ told, .systemStatusChanged told ∈ updated.2) ↔
        ∀ previous, last? before = some previous → ¬ SameBits previous status)

/-- The clock stands still between accepted frames with the same bits. -/
def ClockStands (frames : List StatusFrame) : Prop :=
  EachAccepted frames fun before _ status =>
    ∀ previous, last? before = some previous → SameBits previous status →
      previous.rtc = status.rtc

lemma tellsBits_of_off {config : Config} (off : config.emitUnchangedSystemStatus = false)
    (start : Instant) (frames : List StatusFrame) :
    TellsBits config start frames ↔ ClockStands frames := by
  have each {before : List StatusFrame} {frame : StatusFrame} {status : SystemStatus}
      (accepted : frame.status? = some status) :
      (∀ state updated, run config (.new start) before = .ok state →
        frame.apply config state = .ok updated →
        ((∃ told, .systemStatusChanged told ∈ updated.2) ↔
          ∀ previous, last? before = some previous → ¬ SameBits previous status)) ↔
      ∀ previous, last? before = some previous → SameBits previous status →
        previous.rtc = status.rtc := by
    obtain ⟨state, ran, cached⟩ := run_of_off (.new start) off before
    have applied := apply_eq config state frame
    rw [accepted] at applied
    obtain ⟨-, told⟩ := update_of_off state off status
    have fresh : state.systemStatus = last? before := by
      rw [cached]
      cases last? before <;> rfl
    rw [fresh] at told
    have here : (∀ state updated, run config (.new start) before = .ok state →
        frame.apply config state = .ok updated →
        ((∃ told, .systemStatusChanged told ∈ updated.2) ↔
          ∀ previous, last? before = some previous → ¬ SameBits previous status)) ↔
        (last? before ≠ some status ↔
          ∀ previous, last? before = some previous → ¬ SameBits previous status) := by
      rw [← told]
      constructor
      · intro all
        exact all state _ ran applied
      · intro one state' updated ran' applied'
        cases ran.symm.trans ran'
        cases applied.symm.trans applied'
        exact one
    rw [here]
    cases last? before with
    | none => simp
    | some previous =>
      have same := eq_iff_bits previous status
      simp only [ne_eq, Option.some.injEq, forall_eq']
      constructor
      · intro follows bits
        by_contra moved
        exact follows.mp (fun eq => moved (same.mp eq).2) bits
      · intro stands
        refine ⟨fun other bits => other (same.mpr ⟨bits, stands bits⟩), fun differ eq => ?_⟩
        exact differ (same.mp eq).1
  constructor
  · intro tells before frame after split status accepted
    exact (each accepted).mp (tells before frame after split status accepted)
  · intro stands before frame after split status accepted
    exact (each accepted).mpr (stands before frame after split status accepted)

/-- With the option off, the events follow the bits in exactly the sequences whose clock moves
only with the bits. -/
theorem tells_bits_iff (config : Config) (start : Instant) (frames : List StatusFrame) :
    TellsBits { config with emitUnchangedSystemStatus := false } start frames ↔
      ClockStands frames :=
  tellsBits_of_off rfl start frames

/-- A time zone that numbers the seconds of a minute. -/
def secondsOnly (_ : Int) (_ _ _ _ sec : UInt32) : Option LocalTime :=
  some ⟨sec.toNat, by have := sec.toNat_lt; unfold durationMax; omega⟩

/-- The same bits a second later are told again. -/
theorem later_second_told_again :
    ¬ ∀ (config : Config) (start : Instant) (frames : List StatusFrame),
      TellsBits { config with emitUnchangedSystemStatus := false } start frames := by
  intro tells
  have stands := (@tellsBits_of_off {} rfl 0
    [.pushed [0x20, 0x24, 1, 1, 0, 0, 0, 0] ⟨⟨0, Nat.zero_le _⟩, secondsOnly⟩,
      .queried [0x20, 0x24, 1, 1, 0, 0, 1, 0] ⟨⟨0, Nat.zero_le _⟩, secondsOnly⟩]).mp
    (tells {} 0 _)
  have moved := stands [_] _ [] rfl _ rfl _ rfl ⟨rfl, rfl, rfl⟩
  have clock : 0 = 1 := congrArg LocalTime.nanos moved
  cases clock

end StatusFrame
end SatelIntegra
