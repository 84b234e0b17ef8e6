import SatelIntegra.NameParsers
import SatelIntegra.TroubleAgreement
import SatelIntegra.AutoRead
import SatelIntegra.PanelClock

/-!
# No parser leaves its input

Every public parser is run here with all its checks: no index or slice outside the
input and no addition or multiplication outside its type. Only the masks of zones
and outputs multiply the length of their input, so only there the width of `usize`
matters.
-/

namespace SatelIntegra

open CheckedAccess

/-- A machine, by the number of bits of its `usize`. -/
structure Target where
  bits : Nat
  wide : 16 ≤ bits

namespace Target

def usizeLimit (target : Target) : Nat := 2 ^ target.bits

lemma usizeBound_le (target : Target) : usizeBound ≤ target.usizeLimit :=
  Nat.pow_le_pow_right (by decide) target.wide

end Target

section Masks
variable (target : Target)

/-- `parse_bit_states`, which first makes room for `data.len() * 8` entries. -/
def parseBitStatesChecked (data : Frame) (invertList : List UInt16) :
    Except Panic (List Bool) := do
  let _ ← fit target.usizeLimit (data.length * 8)
  let states ← data.zipIdx.mapM fun (byte, byteIdx) =>
    (List.range 8).mapM fun bit => do
      -- `(byte_idx * 8 + bit + 1) as u16`
      let position ← fit target.usizeLimit ((← fit target.usizeLimit (byteIdx * 8)) + bit)
      let zoneId := UInt16.ofNat (← fit target.usizeLimit (position + 1))
      let rawState := bitSet byte bit
      return if invertList.contains zoneId then !rawState else rawState
  return states.flatten

def parseOutputBitsChecked (data : Frame) : Except Panic (List Bool) := do
  let _ ← fit target.usizeLimit (data.length * 8)
  return parseOutputBits data

def processMaskChecked (command : UInt8) (minLength : Nat)
    (parse : Frame → Except Panic (List Bool)) (frame : Frame) (now : LocalTime) :
    Parsed StatesData := do
  if frame.isEmpty then throw .invalidFrame
  if (← checked (index frame 0)) != command then throw .invalidFrame
  let data ← checked (sliceFrom frame 1)
  if data.length < minLength then throw .invalidFrame
  return { states := ← checked (parse data), readAt := now }

variable {target}

lemma parseBitStatesChecked_eq {data : Frame} (invertList : List UInt16)
    (fits : data.length * 8 < target.usizeLimit) :
    parseBitStatesChecked target data invertList = .ok (parseBitStates data invertList) := by
  have byte_loop := mapM_ok (f := fun (p : UInt8 × Nat) => (List.range 8).mapM fun bit => do
      let position ← fit target.usizeLimit ((← fit target.usizeLimit (p.2 * 8)) + bit)
      let zoneId := UInt16.ofNat (← fit target.usizeLimit (position + 1))
      let rawState := bitSet p.1 bit
      return if invertList.contains zoneId then !rawState else rawState)
    (g := fun p => (List.range 8).map fun bit =>
      if invertList.contains (UInt16.ofNat (p.2 * 8 + bit + 1)) then !bitSet p.1 bit
      else bitSet p.1 bit) data.zipIdx (by
    rintro ⟨byte, byteIdx⟩ mem
    have inside : byteIdx < data.length := by simpa using List.snd_lt_of_mem_zipIdx mem
    apply mapM_ok
    intro bit hbit
    have small := List.mem_range.mp hbit
    dsimp only
    rw [fit_of_lt (by omega), ok_bind, fit_of_lt (by omega), ok_bind, fit_of_lt (by omega)]
    rfl)
  rw [parseBitStatesChecked, fit_of_lt fits, ok_bind]
  refine Eq.trans (congrArg (· >>= _) byte_loop) ?_
  rw [ok_bind, parseBitStates, List.flatMap]
  rfl

lemma parseOutputBitsChecked_eq {data : Frame} (fits : data.length * 8 < target.usizeLimit) :
    parseOutputBitsChecked target data = .ok (parseOutputBits data) := by
  rw [parseOutputBitsChecked, fit_of_lt fits]
  rfl

/-- The checks of a mask parser are safe; what remains is its reader. -/
lemma processMaskChecked_noPanic {command : UInt8} {minLength : Nat}
    {parse : Frame → Except Panic (List Bool)} {frame : Frame} {now : LocalTime} :
    NoPanic (processMaskChecked command minLength parse frame now) ↔
      ∀ data, frame = command :: data → minLength ≤ data.length → NoPanic (parse data) := by
  rcases frame with _ | ⟨first, data⟩
  · refine ⟨fun _ data same => ?_, fun _ => ⟨_, rfl⟩⟩
    cases same
  by_cases hc : first = command
  · subst hc
    by_cases short : data.length < minLength
    · have rejected : processMaskChecked first minLength parse (first :: data) now =
          (.ok (.error .invalidFrame) : Except Panic _) := by
        simp [processMaskChecked, short]
        rfl
      rw [rejected]
      refine ⟨fun _ rest same long => ?_, fun _ => noPanic_ok _⟩
      cases same
      omega
    · have accepted : processMaskChecked first minLength parse (first :: data) now =
          (do return .ok { states := ← parse data, readAt := now } : Except Panic _) := by
        simp only [processMaskChecked, List.isEmpty_cons, Bool.false_eq_true, if_false,
          index_cons_zero, checked_ok_bind, bne_self_eq_false, sliceFrom_cons_one, short]
        cases parse data <;> rfl
      rw [accepted]
      constructor
      · rintro ⟨result, h⟩ rest same -
        cases same
        obtain ⟨states, hstates, -⟩ := bind_eq_ok.mp h
        exact ⟨states, hstates⟩
      · intro h
        exact (h data rfl (Nat.not_lt.mp short)).bind fun _ => noPanic_ok _
  · have rejected : processMaskChecked command minLength parse (first :: data) now =
        (.ok (.error .invalidFrame) : Except Panic _) := by
      simp [processMaskChecked, hc]
      rfl
    rw [rejected]
    refine ⟨fun _ rest same => ?_, fun _ => noPanic_ok _⟩
    cases same
    exact absurd rfl hc

/-- Where its reader agrees, the checked parser is the parser. -/
lemma processMaskChecked_eq {command : UInt8} {minLength : Nat}
    {parse : Frame → Except Panic (List Bool)} {parse' : Frame → List Bool} {frame : Frame}
    {now : LocalTime} (reads : ∀ data, frame = command :: data → parse data = .ok (parse' data)) :
    processMaskChecked command minLength parse frame now =
      processMask command minLength parse' frame now := by
  rcases frame with _ | ⟨first, data⟩
  · rfl
  by_cases hc : first = command
  · subst hc
    simp only [processMaskChecked, processMask, index_cons_zero, checked_ok_bind,
      sliceFrom_cons_one, reads data rfl]
  · simp [processMaskChecked, processMask, hc]

/-- The room for a mask that is read whole must fit. -/
def RoomFor (target : Target) (command : UInt8) (frame : Frame) : Prop :=
  ∀ data, frame = command :: data → data.length * 8 < target.usizeLimit

/-- A reader that makes room for eight entries a byte and then cannot fail. -/
lemma growingMask_noPanic {command : UInt8} {parse : Frame → Except Panic (List Bool)}
    {frame : Frame} {now : LocalTime}
    (reads : ∀ data, NoPanic (parse data) ↔ data.length * 8 < target.usizeLimit) :
    NoPanic (processMaskChecked command 16 parse frame now) ↔ RoomFor target command frame := by
  rw [processMaskChecked_noPanic]
  constructor
  · intro safe data same
    by_cases long : 16 ≤ data.length
    · exact (reads data).mp (safe data same long)
    · have bound := target.usizeBound_le
      have least : 65536 ≤ target.usizeLimit := bound
      omega
  · intro room data same _
    exact (reads data).mpr (room data same)

lemma parseBitStatesChecked_noPanic {data : Frame} {invertList : List UInt16} :
    NoPanic (parseBitStatesChecked target data invertList) ↔
      data.length * 8 < target.usizeLimit := by
  constructor
  · rintro ⟨states, h⟩
    obtain ⟨room, hroom, -⟩ := bind_eq_ok.mp h
    exact fit_noPanic.mp ⟨room, hroom⟩
  · intro fits
    exact ⟨_, parseBitStatesChecked_eq invertList fits⟩

lemma parseOutputBitsChecked_noPanic {data : Frame} :
    NoPanic (parseOutputBitsChecked target data) ↔ data.length * 8 < target.usizeLimit := by
  constructor
  · rintro ⟨states, h⟩
    obtain ⟨room, hroom, -⟩ := bind_eq_ok.mp h
    exact fit_noPanic.mp ⟨room, hroom⟩
  · intro fits
    exact ⟨_, parseOutputBitsChecked_eq fits⟩

end Masks

section Names
variable {π : Type}

/-- `process_zone_name`, `process_output_name` and `process_partition_name`, by their response. -/
def nameOf (response : Frame → LocalTime → Parsed (UInt16 × SatelName × π)) (frame : Frame)
    (now : LocalTime) : Parsed (UInt16 × SatelName) := do
  let (id, name, _) ← response frame now
  return (id, name)

/-- `process_zone_params`, `process_output_params` and `process_partition_params`. -/
def paramsOf (response : Frame → LocalTime → Parsed (UInt16 × SatelName × π)) (frame : Frame)
    (now : LocalTime) : Parsed (UInt16 × π) := do
  let (id, _, params) ← response frame now
  return (id, params)

variable {response : Frame → LocalTime → Parsed (UInt16 × SatelName × π)}
  {number : Frame → Option UInt16} {idOf : π → UInt16}

lemma ReadsNumber.noPanic (reads : ReadsNumber number idOf response) (frame : Frame)
    (now : LocalTime) :
    NoPanic (response frame now) ∧ NoPanic (nameOf response frame now) ∧
      NoPanic (paramsOf response frame now) := by
  rcases reads frame now with ⟨n, -, name, params, -, h⟩ | ⟨-, h⟩
  · refine ⟨⟨_, h⟩, ⟨.ok (n, name), ?_⟩, ⟨.ok (n, params), ?_⟩⟩
    · rw [nameOf, h]
      rfl
    · rw [paramsOf, h]
      rfl
  · refine ⟨⟨_, h⟩, ⟨.error .invalidFrame, ?_⟩, ⟨.error .invalidFrame, ?_⟩⟩
    · rw [nameOf, h]
      rfl
    · rw [paramsOf, h]
      rfl

end Names

section Troubles

lemma troublesPart_noPanic {α : Type} {commands : List UInt8} {minLength : Nat}
    {read : UInt8 → Frame → Except Panic α}
    (reads : ∀ command data, minLength ≤ data.length → NoPanic (read command data))
    (frame : Frame) : NoPanic (troublesPart commands minLength read frame) := by
  rcases frame with _ | ⟨command, data⟩
  · exact ⟨_, rfl⟩
  by_cases short : data.length < minLength
  · exact ⟨_, troublesPart_short read command short⟩
  by_cases known : commands.contains command = true
  · obtain ⟨parsed, h⟩ := reads command data (Nat.not_lt.mp short)
    refine ⟨.ok parsed, ?_⟩
    rw [troublesPart_long read known (Nat.not_lt.mp short), h]
    rfl
  · refine ⟨.error .invalidFrame, ?_⟩
    simp only [troublesPart, List.isEmpty_cons, Bool.false_eq_true, if_false, index_cons_zero,
      checked_ok_bind, known, Bool.not_false, if_true]
    rfl

lemma processTroublesFrame_noPanic (now : LocalTime) (frame : Frame) :
    NoPanic (processTroublesFrame now frame) := by
  rcases frame with _ | ⟨cmd, data⟩
  · exact ⟨_, rfl⟩
  cases known : getRules cmd with
  | none => exact ⟨_, getRules_none now known data⟩
  | some entry =>
    obtain ⟨minLength, rules⟩ := entry
    obtain ⟨reads, rejects⟩ := getRules_parses now known data
    by_cases long : minLength ≤ data.length
    · obtain ⟨parsed, h, -⟩ := reads long
      exact ⟨_, h⟩
    · exact ⟨_, rejects (Nat.not_le.mp long)⟩

lemma decodeTroubles_noPanic (cmd : UInt8) (data : Frame) : NoPanic (decodeTroubles cmd data) := by
  rcases decodeTroubles_flags cmd data with ⟨-, items, h, -⟩ | ⟨-, h⟩
  · exact ⟨_, h⟩
  · exact ⟨_, h⟩

end Troubles

/-- The public functions of the parsers. -/
inductive Parser where
  | zonesViolation | zonesTamper | zonesAlarm | zonesTamperAlarm | zonesAlarmMemory
  | zonesTamperAlarmMemory | zonesBypass | zonesNoViolationTrouble | zonesLongViolationTrouble
  | partitionsArmedSuppressed | partitionsArmedReally | partitionsEntryTime
  | partitionsExitTimeGt10s | partitionsExitTimeLt10s | partitionsAlarm | partitionsAlarmMemory
  | outputsState
  | zoneTemperature
  | ethmVersion | integraVersion | rtcAndStatus
  | troublesPart1 | troublesPart2 | troublesMemoryPart2 | troublesPart3 | troublesMemoryPart3
  | troublesPart4 | troublesPart5 | troublesMemoryPart5 | troublesPart6 | troublesPart7
  | troublesMemoryPart7 | troublesPart8 | troublesFrame
  | decodeTroubles (cmd : UInt8)
  | autoReadResponse (config : Config) (support14Byte : Bool)
  | zoneResponse | zoneName | zoneParams
  | outputResponse | outputName | outputParams
  | partitionResponse | partitionName | partitionParams

namespace Parser

/-- The command of a mask that is read whole, whatever its length. -/
def growingMask : Parser → Option UInt8
  | zonesViolation => some 0x00
  | zonesTamper => some 0x01
  | zonesAlarm => some 0x02
  | zonesTamperAlarm => some 0x03
  | zonesAlarmMemory => some 0x04
  | zonesTamperAlarmMemory => some 0x05
  | zonesBypass => some 0x06
  | zonesNoViolationTrouble => some 0x07
  | zonesLongViolationTrouble => some 0x08
  | outputsState => some 0x17
  | _ => none

section Run
variable (target : Target) (decoder : NameDecoder) (clock : Clock) (invertList : List UInt16)

def processZonesChecked (command : UInt8) (frame : Frame) : Parsed StatesData :=
  processMaskChecked command 16 (parseBitStatesChecked target · invertList) frame clock.now

lemma processZonesChecked_eq {command : UInt8} {frame : Frame}
    (room : RoomFor target command frame) :
    processZonesChecked target clock invertList command frame =
      processZones command frame invertList clock.now :=
  processMaskChecked_eq fun data same => parseBitStatesChecked_eq invertList (room data same)

lemma processOutputsChecked_eq {frame : Frame} (room : RoomFor target 0x17 frame) :
    processMaskChecked 0x17 16 (parseOutputBitsChecked target) frame clock.now =
      processOutputsState frame clock.now :=
  processMaskChecked_eq fun data same => parseOutputBitsChecked_eq (room data same)

/-- Run a parser and forget what it returns. -/
def run (frame : Frame) : Parser → Except Panic Unit
  | zonesViolation => discard (processZonesChecked target clock invertList 0x00 frame).run
  | zonesTamper => discard (processZonesChecked target clock invertList 0x01 frame).run
  | zonesAlarm => discard (processZonesChecked target clock invertList 0x02 frame).run
  | zonesTamperAlarm => discard (processZonesChecked target clock invertList 0x03 frame).run
  | zonesAlarmMemory => discard (processZonesChecked target clock invertList 0x04 frame).run
  | zonesTamperAlarmMemory => discard (processZonesChecked target clock invertList 0x05 frame).run
  | zonesBypass => discard (processZonesChecked target clock invertList 0x06 frame).run
  | zonesNoViolationTrouble => discard (processZonesChecked target clock invertList 0x07 frame).run
  | zonesLongViolationTrouble =>
    discard (processZonesChecked target clock invertList 0x08 frame).run
  | outputsState =>
    discard (processMaskChecked 0x17 16 (parseOutputBitsChecked target) frame clock.now).run
  | partitionsArmedSuppressed => discard (processPartitionsArmedSuppressed frame clock.now).run
  | partitionsArmedReally => discard (processPartitionsArmedReally frame clock.now).run
  | partitionsEntryTime => discard (processPartitionsEntryTime frame clock.now).run
  | partitionsExitTimeGt10s => discard (processPartitionsExitTimeGt10s frame clock.now).run
  | partitionsExitTimeLt10s => discard (processPartitionsExitTimeLt10s frame clock.now).run
  | partitionsAlarm => discard (processPartitionsAlarm frame clock.now).run
  | partitionsAlarmMemory => discard (processPartitionsAlarmMemory frame clock.now).run
  | zoneTemperature => discard (processZoneTemperature frame).run
  | ethmVersion => discard (processEthmVersion frame clock.now).run
  | integraVersion => discard (processIntegraVersion frame clock.now).run
  | rtcAndStatus => discard (processRtcAndStatus frame clock).run
  | troublesPart1 => discard (processTroublesPart1 clock.now frame).run
  | troublesPart2 => discard (processTroublesPart2 clock.now frame).run
  | troublesMemoryPart2 => discard (processTroublesMemoryPart2 clock.now frame).run
  | troublesPart3 => discard (processTroublesPart3 clock.now frame).run
  | troublesMemoryPart3 => discard (processTroublesMemoryPart3 clock.now frame).run
  | troublesPart4 => discard (processTroublesPart4 clock.now frame).run
  | troublesPart5 => discard (processTroublesPart5 clock.now frame).run
  | troublesMemoryPart5 => discard (processTroublesMemoryPart5 clock.now frame).run
  | troublesPart6 => discard (processTroublesPart6 clock.now frame).run
  | troublesPart7 => discard (processTroublesPart7 clock.now frame).run
  | troublesMemoryPart7 => discard (processTroublesMemoryPart7 clock.now frame).run
  | troublesPart8 => discard (processTroublesPart8 clock.now frame).run
  | troublesFrame => discard (processTroublesFrame clock.now frame).run
  | decodeTroubles cmd => discard (SatelIntegra.decodeTroubles cmd frame).run
  | autoReadResponse config support14Byte =>
    discard (processAutoReadResponse config support14Byte frame)
  | zoneResponse => discard (processZoneResponse decoder frame clock.now).run
  | zoneName => discard (nameOf (processZoneResponse decoder) frame clock.now).run
  | zoneParams => discard (paramsOf (processZoneResponse decoder) frame clock.now).run
  | outputResponse => discard (processOutputResponse decoder frame clock.now).run
  | outputName => discard (nameOf (processOutputResponse decoder) frame clock.now).run
  | outputParams => discard (paramsOf (processOutputResponse decoder) frame clock.now).run
  | partitionResponse => discard (processPartitionResponse decoder frame clock.now).run
  | partitionName => discard (nameOf (processPartitionResponse decoder) frame clock.now).run
  | partitionParams => discard (paramsOf (processPartitionResponse decoder) frame clock.now).run

end Run

/-- The inputs a parser handles: a reply to `0x7F` is not empty, and eight entries for each
byte of a mask are counted in a `usize`. -/
def Covers (target : Target) (frame : Frame) : Parser → Prop
  | autoReadResponse _ _ => frame ≠ []
  | parser => ∀ command, parser.growingMask = some command → RoomFor target command frame

lemma discard_noPanic {α : Type} {x : Except Panic α} : NoPanic (discard x) ↔ NoPanic x := by
  cases x with
  | error p =>
    constructor
    · exact fun h => absurd h (not_noPanic_error p)
    · exact fun h => absurd h (not_noPanic_error p)
  | ok a => exact ⟨fun _ => noPanic_ok a, fun _ => noPanic_ok ()⟩

lemma processMask_noPanic {command : UInt8} {minLength : Nat} {parse : Frame → List Bool}
    {frame : Frame} {now : LocalTime} : NoPanic (processMask command minLength parse frame now) :=
  ⟨_, processMask_eq ..⟩

lemma autoReadResponse_noPanic {config : Config} {support14Byte : Bool} {frame : Frame} :
    NoPanic (processAutoReadResponse config support14Byte frame) ↔ frame ≠ [] := by
  constructor
  · rintro safe rfl
    exact not_noPanic_error .indexOutOfBounds safe
  · exact processAutoReadResponse_noPanic config support14Byte

lemma noPanic_of_exists {α : Type} {x : Except Panic α} {Q : α → Prop}
    (h : ∃ a, x = .ok a ∧ Q a) : NoPanic x := by
  obtain ⟨a, ha, -⟩ := h
  exact ⟨a, ha⟩

section Cases
variable {target : Target} {decoder : NameDecoder} {clock : Clock} {invertList : List UInt16}
  {frame : Frame}

lemma grows {command : UInt8} {x : Except Panic Unit}
    (h : NoPanic x ↔ RoomFor target command frame) :
    NoPanic x ↔ ∀ command', some command = some command' → RoomFor target command' frame := by
  rw [h]
  constructor
  · rintro room _ ⟨⟩
    exact room
  · intro room
    exact room command rfl

lemma zones_grow {command : UInt8} :
    NoPanic (discard (processZonesChecked target clock invertList command frame).run) ↔
      ∀ command', some command = some command' → RoomFor target command' frame :=
  grows (discard_noPanic.trans
    (growingMask_noPanic fun data => @parseBitStatesChecked_noPanic target data invertList))

lemma outputs_grow :
    NoPanic (discard (processMaskChecked 0x17 16 (parseOutputBitsChecked target) frame
      clock.now).run) ↔
      ∀ command, some 0x17 = some command → RoomFor target command frame :=
  grows (discard_noPanic.trans (growingMask_noPanic fun _ => parseOutputBitsChecked_noPanic))

lemma safe {α : Type} {x : Except Panic α} (h : NoPanic x) :
    NoPanic (discard x) ↔ ∀ command, none = some command → RoomFor target command frame := by
  refine ⟨fun _ command none => ?_, fun _ => discard_noPanic.mpr h⟩
  cases none

end Cases

/-- A parser stays inside its input and its types on exactly the inputs it covers. -/
theorem run_noPanic_iff (target : Target) (decoder : NameDecoder) (clock : Clock)
    (invertList : List UInt16) (parser : Parser) (frame : Frame) :
    NoPanic (parser.run target decoder clock invertList frame) ↔ parser.Covers target frame := by
  have zone := (processZoneResponse_reads decoder).noPanic frame clock.now
  have output := (processOutputResponse_reads decoder).noPanic frame clock.now
  have partition := (processPartitionResponse_reads decoder).noPanic frame clock.now
  cases parser with
  | zonesViolation => exact zones_grow
  | zonesTamper => exact zones_grow
  | zonesAlarm => exact zones_grow
  | zonesTamperAlarm => exact zones_grow
  | zonesAlarmMemory => exact zones_grow
  | zonesTamperAlarmMemory => exact zones_grow
  | zonesBypass => exact zones_grow
  | zonesNoViolationTrouble => exact zones_grow
  | zonesLongViolationTrouble => exact zones_grow
  | outputsState => exact outputs_grow
  | partitionsArmedSuppressed => exact safe processMask_noPanic
  | partitionsArmedReally => exact safe processMask_noPanic
  | partitionsEntryTime => exact safe processMask_noPanic
  | partitionsExitTimeGt10s => exact safe processMask_noPanic
  | partitionsExitTimeLt10s => exact safe processMask_noPanic
  | partitionsAlarm => exact safe processMask_noPanic
  | partitionsAlarmMemory => exact safe processMask_noPanic
  | zoneTemperature => exact safe ⟨_, processZoneTemperature_eq frame⟩
  | ethmVersion =>
    apply safe
    rcases processEthmVersion_eq frame clock.now with ⟨version, h, -⟩ | ⟨h, -⟩
    · exact ⟨_, h⟩
    · exact ⟨_, h⟩
  | integraVersion =>
    apply safe
    rcases processIntegraVersion_eq frame clock.now with ⟨version, h, -⟩ | ⟨h, -⟩
    · exact ⟨_, h⟩
    · exact ⟨_, h⟩
  | rtcAndStatus => exact safe (processRtcAndStatus_noPanic frame clock)
  | troublesPart1 =>
    exact safe (troublesPart_noPanic (fun _ _ long =>
      noPanic_of_exists (readPart1_readFrom clock.now _ long)) frame)
  | troublesPart2 =>
    exact safe (troublesPart_noPanic (fun _ _ long =>
      noPanic_of_exists (readPart2_readFrom clock.now long)) frame)
  | troublesMemoryPart2 =>
    exact safe (troublesPart_noPanic (fun _ _ long =>
      noPanic_of_exists (readMemoryPart2_readFrom clock.now long)) frame)
  | troublesPart3 =>
    exact safe (troublesPart_noPanic (fun _ _ long =>
      noPanic_of_exists (readPart3_readFrom clock.now long)) frame)
  | troublesMemoryPart3 =>
    exact safe (troublesPart_noPanic (fun _ _ long =>
      noPanic_of_exists (readMemoryPart3_readFrom clock.now long)) frame)
  | troublesPart4 =>
    exact safe (troublesPart_noPanic (fun _ _ long =>
      noPanic_of_exists (readPart4_readFrom clock.now _ long)) frame)
  | troublesPart5 =>
    exact safe (troublesPart_noPanic (fun _ _ long =>
      noPanic_of_exists (readPart5_readFrom clock.now long)) frame)
  | troublesMemoryPart5 =>
    exact safe (troublesPart_noPanic (fun _ _ long =>
      noPanic_of_exists (readMemoryPart5_readFrom clock.now long)) frame)
  | troublesPart6 =>
    exact safe (troublesPart_noPanic (fun _ _ long =>
      noPanic_of_exists (readPart6_readFrom clock.now _ long)) frame)
  | troublesPart7 =>
    exact safe (troublesPart_noPanic (fun _ _ long =>
      noPanic_of_exists (readPart7_readFrom clock.now long)) frame)
  | troublesMemoryPart7 =>
    exact safe (troublesPart_noPanic (fun _ _ long =>
      noPanic_of_exists (readMemoryPart7_readFrom clock.now long)) frame)
  | troublesPart8 =>
    exact safe (troublesPart_noPanic (fun _ _ long =>
      noPanic_of_exists (readPart8_readFrom clock.now _ long)) frame)
  | troublesFrame => exact safe (processTroublesFrame_noPanic clock.now frame)
  | decodeTroubles cmd => exact safe (decodeTroubles_noPanic cmd frame)
  | autoReadResponse config support14Byte =>
    exact discard_noPanic.trans autoReadResponse_noPanic
  | zoneResponse => exact safe zone.1
  | zoneName => exact safe zone.2.1
  | zoneParams => exact safe zone.2.2
  | outputResponse => exact safe output.1
  | outputName => exact safe output.2.1
  | outputParams => exact safe output.2.2
  | partitionResponse => exact safe partition.1
  | partitionName => exact safe partition.2.1
  | partitionParams => exact safe partition.2.2

/-- The error code of an empty reply is looked up in its first byte. -/
theorem empty_reply_indexed :
    ¬ ∀ (target : Target) (decoder : NameDecoder) (clock : Clock) (invertList : List UInt16)
        (parser : Parser) (frame : Frame),
      NoPanic (parser.run target decoder clock invertList frame) := by
  intro safe
  have empty := safe ⟨64, by decide⟩ (fun _ => ([], false))
    ⟨⟨0, Nat.zero_le _⟩, fun _ _ _ _ _ _ => none⟩ [] (.autoReadResponse {} false) []
  exact not_noPanic_error .indexOutOfBounds empty

end Parser
end SatelIntegra
