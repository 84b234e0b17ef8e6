import SatelIntegra.CacheUpdates
import SatelIntegra.PanelClock
import SatelIntegra.TroubleLayout

/-!
# Applying frames to the cache

Unsolicited frames go through `handleAutoFrame`, which chooses a routine by the
first byte. A reply to `get_*` or `refresh_*` goes through the routine of the
category that was asked for.
-/

namespace SatelIntegra

open CheckedAccess

inductive ZoneFlag where
  | violation
  | tamper
  | alarm
  | tamperAlarm
  | alarmMemory
  | tamperAlarmMemory
  | bypass
  | noViolationTrouble
  | longViolationTrouble
  deriving DecidableEq, Repr

inductive PartitionFlag where
  | armedSuppressed
  | armedReally
  | alarm
  | alarmMemory
  | entryTime
  | exitTimeGt10s
  | exitTimeLt10s
  deriving DecidableEq, Repr

/-- The seventeen binary categories. -/
inductive Category where
  | zones (flag : ZoneFlag)
  | partitions (flag : PartitionFlag)
  | outputs
  deriving DecidableEq, Repr

namespace Category

def process (config : Config) : Category → Frame → LocalTime → Parsed StatesData
  | .zones .violation, frame, now => processZonesViolation frame config.ioViolationInvert now
  | .zones .tamper, frame, now => processZonesTamper frame config.ioTamperInvert now
  | .zones .alarm, frame, now => processZonesAlarm frame config.ioAlarmInvert now
  | .zones .tamperAlarm, frame, now => processZonesTamperAlarm frame config.ioTamperAlarmInvert now
  | .zones .alarmMemory, frame, now => processZonesAlarmMemory frame config.ioAlarmMemoryInvert now
  | .zones .tamperAlarmMemory, frame, now =>
    processZonesTamperAlarmMemory frame config.ioTamperAlarmMemoryInvert now
  | .zones .bypass, frame, now => processZonesBypass frame config.ioBypassInvert now
  | .zones .noViolationTrouble, frame, now =>
    processZonesNoViolationTrouble frame config.ioNoViolationTroubleInvert now
  | .zones .longViolationTrouble, frame, now =>
    processZonesLongViolationTrouble frame config.ioLongViolationTroubleInvert now
  | .partitions .armedSuppressed, frame, now => processPartitionsArmedSuppressed frame now
  | .partitions .armedReally, frame, now => processPartitionsArmedReally frame now
  | .partitions .alarm, frame, now => processPartitionsAlarm frame now
  | .partitions .alarmMemory, frame, now => processPartitionsAlarmMemory frame now
  | .partitions .entryTime, frame, now => processPartitionsEntryTime frame now
  | .partitions .exitTimeGt10s, frame, now => processPartitionsExitTimeGt10s frame now
  | .partitions .exitTimeLt10s, frame, now => processPartitionsExitTimeLt10s frame now
  | .outputs, frame, now => processOutputsState frame now

def update : Category → Config → SatelState → StatesData → Bool → Updated
  | .zones .violation => updateZonesViolationInternal
  | .zones .tamper => updateZonesTamperInternal
  | .zones .alarm => updateZonesAlarmInternal
  | .zones .tamperAlarm => updateZonesTamperAlarmInternal
  | .zones .alarmMemory => updateZonesAlarmMemoryInternal
  | .zones .tamperAlarmMemory => updateZonesTamperAlarmMemoryInternal
  | .zones .bypass => updateZonesBypassInternal
  | .zones .noViolationTrouble => updateZonesNoViolationTroubleInternal
  | .zones .longViolationTrouble => updateZonesLongViolationTroubleInternal
  | .partitions .armedSuppressed => updatePartitionsArmedInternal
  | .partitions .armedReally => updatePartitionsArmedReallyInternal
  | .partitions .alarm => updatePartitionsAlarmInternal
  | .partitions .alarmMemory => updatePartitionsAlarmMemoryInternal
  | .partitions .entryTime => updatePartitionsEntryTimeInternal
  | .partitions .exitTimeGt10s => updatePartitionsExitTimeGt10sInternal
  | .partitions .exitTimeLt10s => updatePartitionsExitTimeLt10sInternal
  | .outputs => updateOutputsStateInternal

/-- What `get_*` (`emitAll` off) and `refresh_*` (`emitAll` on) do with the reply. The
partition times are three such queries in a row. -/
def applyReply (category : Category) (emitAll : Bool) (config : Config) (state : SatelState)
    (response : Frame) (now : LocalTime) : Parsed Updated := do
  let result ← category.process config response now
  return category.update config state result emitAll

end Category

/-- `if let Ok(d) = parsed { let _ = update(d); }` -/
def ifParsed {α : Type} (state : SatelState) (parsed : Parsed α) (update : α → Updated) :
    Except Panic Updated := do
  match ← parsed.run with
  | .ok d => return update d
  | .error _ => return (state, [])

/-- The common arm of the trouble commands. -/
def handleAutoTroubles (config : Config) (state : SatelState) (first : UInt8) (frame : Frame) :
    Except Panic Updated := do
  match SatelCommand.fromByte first with
  | some cmd =>
    let data ← sliceFrom frame 1
    ifParsed state (updateTroublesInternal config state cmd data) id
  | none => return (state, [])

def handleAutoFrame (config : Config) (state : SatelState) (frame : Frame) (clock : Clock) :
    Except Panic Updated := do
  if frame.isEmpty then return (state, [])
  let first ← index frame 0
  match first with
  | 0x00 =>
    ifParsed state (processZonesViolation frame config.ioViolationInvert clock.now) fun d =>
      updateZonesViolationInternal config state d false
  | 0x01 =>
    ifParsed state (processZonesTamper frame config.ioTamperInvert clock.now) fun d =>
      updateZonesTamperInternal config state d false
  | 0x02 =>
    ifParsed state (processZonesAlarm frame config.ioAlarmInvert clock.now) fun d =>
      updateZonesAlarmInternal config state d false
  | 0x03 =>
    ifParsed state (processZonesTamperAlarm frame config.ioTamperAlarmInvert clock.now) fun d =>
      updateZonesTamperAlarmInternal config state d false
  | 0x04 =>
    ifParsed state (processZonesAlarmMemory frame config.ioAlarmMemoryInvert clock.now) fun d =>
      updateZonesAlarmMemoryInternal config state d false
  | 0x05 =>
    ifParsed state
        (processZonesTamperAlarmMemory frame config.ioTamperAlarmMemoryInvert clock.now) fun d =>
      updateZonesTamperAlarmMemoryInternal config state d false
  | 0x06 =>
    ifParsed state (processZonesBypass frame config.ioBypassInvert clock.now) fun d =>
      updateZonesBypassInternal config state d false
  | 0x07 =>
    ifParsed state
        (processZonesNoViolationTrouble frame config.ioNoViolationTroubleInvert clock.now) fun d =>
      updateZonesNoViolationTroubleInternal config state d false
  | 0x08 =>
    ifParsed state
        (processZonesLongViolationTrouble frame config.ioLongViolationTroubleInvert clock.now) fun d =>
      updateZonesLongViolationTroubleInternal config state d false
  | 0x09 =>
    ifParsed state (processPartitionsArmedSuppressed frame clock.now) fun d =>
      updatePartitionsArmedInternal config state d false
  | 0x0A =>
    ifParsed state (processPartitionsArmedReally frame clock.now) fun d =>
      updatePartitionsArmedReallyInternal config state d false
  | 0x13 =>
    ifParsed state (processPartitionsAlarm frame clock.now) fun d =>
      updatePartitionsAlarmInternal config state d false
  | 0x0E =>
    ifParsed state (processPartitionsEntryTime frame clock.now) fun d =>
      updatePartitionsEntryTimeInternal config state d false
  | 0x0F =>
    ifParsed state (processPartitionsExitTimeGt10s frame clock.now) fun d =>
      updatePartitionsExitTimeGt10sInternal config state d false
  | 0x10 =>
    ifParsed state (processPartitionsExitTimeLt10s frame clock.now) fun d =>
      updatePartitionsExitTimeLt10sInternal config state d false
  | 0x15 =>
    ifParsed state (processPartitionsAlarmMemory frame clock.now) fun d =>
      updatePartitionsAlarmMemoryInternal config state d false
  | 0x17 =>
    ifParsed state (processOutputsState frame clock.now) fun d =>
      updateOutputsStateInternal config state d false
  | 0x1A =>
    ifParsed state (processRtcAndStatus frame clock) fun s =>
      updateSystemStatusInternal config state s
  | 0x1B | 0x1C | 0x1D | 0x1E | 0x1F | 0x2C | 0x2D | 0x30 | 0x20 | 0x21 | 0x22 | 0x23 | 0x24
  | 0x2E | 0x2F | 0x31 =>
    handleAutoTroubles config state first frame
  | 0xEF =>
    let code := (frame[1]?).getD 0xFF
    if code != 0xFF then return (state, [.panelMessage (SatelResult.fromByte code)])
    else return (state, [])
  | _ => return (state, [])

namespace Category

/-- The first byte of the frames of a category. -/
def command : Category → UInt8
  | .zones .violation => 0x00
  | .zones .tamper => 0x01
  | .zones .alarm => 0x02
  | .zones .tamperAlarm => 0x03
  | .zones .alarmMemory => 0x04
  | .zones .tamperAlarmMemory => 0x05
  | .zones .bypass => 0x06
  | .zones .noViolationTrouble => 0x07
  | .zones .longViolationTrouble => 0x08
  | .partitions .armedSuppressed => 0x09
  | .partitions .armedReally => 0x0A
  | .partitions .entryTime => 0x0E
  | .partitions .exitTimeGt10s => 0x0F
  | .partitions .exitTimeLt10s => 0x10
  | .partitions .alarm => 0x13
  | .partitions .alarmMemory => 0x15
  | .outputs => 0x17

def ofCommand (first : UInt8) : Option Category :=
  match first with
  | 0x00 => some (.zones .violation)
  | 0x01 => some (.zones .tamper)
  | 0x02 => some (.zones .alarm)
  | 0x03 => some (.zones .tamperAlarm)
  | 0x04 => some (.zones .alarmMemory)
  | 0x05 => some (.zones .tamperAlarmMemory)
  | 0x06 => some (.zones .bypass)
  | 0x07 => some (.zones .noViolationTrouble)
  | 0x08 => some (.zones .longViolationTrouble)
  | 0x09 => some (.partitions .armedSuppressed)
  | 0x0A => some (.partitions .armedReally)
  | 0x0E => some (.partitions .entryTime)
  | 0x0F => some (.partitions .exitTimeGt10s)
  | 0x10 => some (.partitions .exitTimeLt10s)
  | 0x13 => some (.partitions .alarm)
  | 0x15 => some (.partitions .alarmMemory)
  | 0x17 => some .outputs
  | _ => none

lemma ofCommand_eq_some {first : UInt8} {category : Category} :
    ofCommand first = some category ↔ first = category.command := by
  constructor
  · intro h
    unfold ofCommand at h
    split at h <;> cases h <;> rfl
  · rintro rfl
    rcases category with flag | flag | _
    · cases flag <;> rfl
    · cases flag <;> rfl
    · rfl

end Category

/-- The category, identifier and value an event reports. -/
def SatelEvent.report : SatelEvent → Option (Category × UInt16 × Bool)
  | .zoneViolation id state => some (.zones .violation, id, state)
  | .zoneTamper id state => some (.zones .tamper, id, state)
  | .zoneAlarm id state => some (.zones .alarm, id, state)
  | .zoneTamperAlarm id state => some (.zones .tamperAlarm, id, state)
  | .zoneAlarmMemory id state => some (.zones .alarmMemory, id, state)
  | .zoneTamperAlarmMemory id state => some (.zones .tamperAlarmMemory, id, state)
  | .zoneBypass id state => some (.zones .bypass, id, state)
  | .zoneNoViolationTrouble id state => some (.zones .noViolationTrouble, id, state)
  | .zoneLongViolationTrouble id state => some (.zones .longViolationTrouble, id, state)
  | .partitionArmed id state => some (.partitions .armedSuppressed, id, state)
  | .partitionArmedReally id state => some (.partitions .armedReally, id, state)
  | .partitionAlarm id state => some (.partitions .alarm, id, state)
  | .partitionAlarmMemory id state => some (.partitions .alarmMemory, id, state)
  | .partitionEntryTime id state => some (.partitions .entryTime, id, state)
  | .partitionExitTimeGt10s id state => some (.partitions .exitTimeGt10s, id, state)
  | .partitionExitTimeLt10s id state => some (.partitions .exitTimeLt10s, id, state)
  | .outputChanged id state => some (.outputs, id, state)
  | _ => none

section OtherFrames

/-- Zones, partitions and outputs are as before, and no event reports on them. -/
structure Quiet (state : SatelState) (updated : Updated) : Prop where
  zones : updated.1.zones = state.zones
  partitions : updated.1.partitions = state.partitions
  outputs : updated.1.outputs = state.outputs
  events : ∀ event ∈ updated.2, event.report = none

lemma Quiet.refl (state : SatelState) : Quiet state (state, []) :=
  ⟨rfl, rfl, rfl, by simp⟩

lemma updateSystemStatusInternal_quiet (config : Config) (state : SatelState)
    (status : SystemStatus) : Quiet state (updateSystemStatusInternal config state status) := by
  dsimp only [updateSystemStatusInternal]
  split
  · exact ⟨rfl, rfl, rfl, by simp [SatelEvent.report]⟩
  · exact Quiet.refl state

lemma updateTrouble_quiet (emitUnchanged : Bool) (state : SatelState) (item : TroubleItem) :
    Quiet state (updateTrouble emitUnchanged state item) := by
  cases item with
  | flag trouble memory active =>
    refine ⟨rfl, rfl, rfl, ?_⟩
    intro event hevent
    simp only [updateTrouble] at hevent
    split at hevent
    · cases memory <;> simp_all [SatelEvent.report]
    · cases hevent
  | acuJamLevel module level =>
    refine ⟨rfl, rfl, rfl, ?_⟩
    intro event hevent
    simp only [updateTrouble] at hevent
    split at hevent
    · simp_all [SatelEvent.report]
    · cases hevent
  | cmeError source sim memory code =>
    refine ⟨rfl, rfl, rfl, ?_⟩
    intro event hevent
    simp only [updateTrouble] at hevent
    split at hevent
    · simp_all [SatelEvent.report]
    · cases hevent

lemma updateTroubles_quiet (emitUnchanged : Bool) (state : SatelState) (items : List TroubleItem) :
    Quiet state (updateTroubles emitUnchanged state items) := by
  induction items generalizing state with
  | nil => exact Quiet.refl state
  | cons item items ih =>
    have first := updateTrouble_quiet emitUnchanged state item
    have rest := ih (updateTrouble emitUnchanged state item).1
    refine ⟨rest.zones.trans first.zones, rest.partitions.trans first.partitions,
      rest.outputs.trans first.outputs, ?_⟩
    intro event hevent
    rcases List.mem_append.mp hevent with h | h
    · exact first.events event h
    · exact rest.events event h

lemma ifParsed_of_ok {α : Type} {state : SatelState} {parsed : Parsed α} {update : α → Updated}
    {d : α} (h : parsed = (.ok (.ok d) : Except Panic _)) :
    ifParsed state parsed update = .ok (update d) := by
  rw [ifParsed, h]
  rfl

lemma ifParsed_of_error {α : Type} {state : SatelState} {parsed : Parsed α}
    {update : α → Updated} {e : SatelError} (h : parsed = (.ok (.error e) : Except Panic _)) :
    ifParsed state parsed update = .ok (state, []) := by
  rw [ifParsed, h]
  rfl

lemma ifParsed_quiet {α : Type} {state : SatelState} {parsed : Parsed α} {update : α → Updated}
    {result : Except SatelError α} (h : parsed = (.ok result : Except Panic _))
    (quiet : ∀ d, result = .ok d → Quiet state (update d)) :
    ∃ updated, ifParsed state parsed update = .ok updated ∧ Quiet state updated := by
  cases result with
  | ok d => exact ⟨_, ifParsed_of_ok h, quiet d rfl⟩
  | error e => exact ⟨_, ifParsed_of_error h, Quiet.refl state⟩

lemma updateTroublesInternal_eq (config : Config) (state : SatelState) (cmd : SatelCommand)
    (data : Frame) : ∃ result, updateTroublesInternal config state cmd data =
      (.ok result : Except Panic _) ∧ ∀ updated, result = .ok updated → Quiet state updated := by
  rcases decodeTroubles_flags cmd.toByte data with ⟨-, items, h, -⟩ | ⟨-, h⟩
  · refine ⟨.ok (updateTroubles config.emitUnchangedTroubles state items), ?_, ?_⟩
    · rw [updateTroublesInternal, h]
      rfl
    · rintro updated ⟨⟩
      exact updateTroubles_quiet _ _ _
  · refine ⟨.error .invalidFrame, ?_, ?_⟩
    · rw [updateTroublesInternal, h]
      rfl
    · rintro updated ⟨⟩

lemma handleAutoTroubles_quiet (config : Config) (state : SatelState) (first : UInt8)
    (data : Frame) : ∃ updated,
      handleAutoTroubles config state first (first :: data) = .ok updated ∧ Quiet state updated := by
  unfold handleAutoTroubles
  cases SatelCommand.fromByte first with
  | none => exact ⟨_, rfl, Quiet.refl state⟩
  | some cmd =>
    obtain ⟨result, h, quiet⟩ := updateTroublesInternal_eq config state cmd data
    simp only [sliceFrom_cons_one, bind, Except.bind]
    exact ifParsed_quiet h quiet

/-- A frame of none of the seventeen categories does not touch them. -/
lemma handleAutoFrame_other (config : Config) (state : SatelState) {first : UInt8}
    (other : Category.ofCommand first = none) (data : Frame) (clock : Clock) :
    ∃ updated, handleAutoFrame config state (first :: data) clock = .ok updated ∧
      Quiet state updated := by
  simp only [handleAutoFrame, List.isEmpty_cons, Bool.false_eq_true, if_false, index_cons_zero,
    bind, Except.bind]
  split
  -- the seventeen arms of the categories
  all_goals try exact absurd other (by decide)
  -- the sixteen arms of the troubles
  all_goals try exact handleAutoTroubles_quiet ..
  · obtain ⟨result, h⟩ := processRtcAndStatus_noPanic (0x1A :: data) clock
    exact ifParsed_quiet h fun d _ => updateSystemStatusInternal_quiet config state d
  · split
    · exact ⟨_, rfl, rfl, rfl, rfl, by simp [SatelEvent.report]⟩
    · exact ⟨_, rfl, Quiet.refl state⟩
  · exact ⟨_, rfl, Quiet.refl state⟩

end OtherFrames

/-- A frame of a category goes to the parser and the routine of that category. -/
lemma handleAutoFrame_category (config : Config) (state : SatelState) (category : Category)
    (data : Frame) (clock : Clock) :
    handleAutoFrame config state (category.command :: data) clock =
      ifParsed state (category.process config (category.command :: data) clock.now)
        fun d => category.update config state d false := by
  rcases category with flag | flag | _
  · cases flag <;> rfl
  · cases flag <;> rfl
  · rfl

lemma process_noPanic (category : Category) (config : Config) (frame : Frame) (now : LocalTime) :
    NoPanic (category.process config frame now) := by
  rcases category with flag | flag | _
  · cases flag <;> exact ⟨_, processMask_eq ..⟩
  · cases flag <;> exact ⟨_, processMask_eq ..⟩
  · exact ⟨_, processMask_eq ..⟩

/-- No frame makes the auto-requester panic. -/
theorem handleAutoFrame_noPanic (config : Config) (state : SatelState) (frame : Frame)
    (clock : Clock) : NoPanic (handleAutoFrame config state frame clock) := by
  cases frame with
  | nil => exact ⟨_, rfl⟩
  | cons first data =>
    cases hc : Category.ofCommand first with
    | none =>
      obtain ⟨updated, h, -⟩ := handleAutoFrame_other config state hc data clock
      exact ⟨updated, h⟩
    | some category =>
      cases Category.ofCommand_eq_some.mp hc
      rw [handleAutoFrame_category]
      obtain ⟨result, h⟩ := process_noPanic category config (category.command :: data) clock.now
      cases result with
      | ok d => exact ⟨_, ifParsed_of_ok h⟩
      | error e => exact ⟨_, ifParsed_of_error h⟩

end SatelIntegra
