import SatelIntegra.Codec
import SatelIntegra.State

/-!
# Parsers of the seventeen state masks

A mask frame is a command byte and one bit per zone, partition or output. The
parsers check the command and a minimum length in the same order; they differ in
both numbers and in how the data bytes are read.
-/

namespace SatelIntegra

open CheckedAccess

/-- `(byte & (1 << bit)) != 0` -/
def bitSet (byte : UInt8) (bit : Nat) : Bool := byte &&& (1 <<< UInt8.ofNat bit) != 0

def byteBits (byte : UInt8) : List Bool := (List.range 8).map (bitSet byte)

/-- Zone masks: a listed zone is reported inverted. -/
def parseBitStates (data : Frame) (invertList : List UInt16) : List Bool :=
  data.zipIdx.flatMap fun (byte, byteIdx) =>
    (List.range 8).map fun bit =>
      let zoneId := UInt16.ofNat (byteIdx * 8 + bit + 1)
      let rawState := bitSet byte bit
      if invertList.contains zoneId then !rawState else rawState

/-- Partition masks are four bytes; what follows them is ignored. -/
def parsePartitionBits (data : Frame) : List Bool := (data.take 4).flatMap byteBits

def parseOutputBits (data : Frame) : List Bool := data.flatMap byteBits

/-- The checks every mask parser makes before it reads the data. -/
def processMask (command : UInt8) (minLength : Nat) (parse : Frame → List Bool)
    (frame : Frame) (now : LocalTime) : Parsed StatesData := do
  if frame.isEmpty then throw .invalidFrame
  if (← checked (index frame 0)) != command then throw .invalidFrame
  let data ← checked (sliceFrom frame 1)
  if data.length < minLength then throw .invalidFrame
  return { states := parse data, readAt := now }

def processZones (command : UInt8) (frame : Frame) (invertList : List UInt16)
    (now : LocalTime) : Parsed StatesData :=
  processMask command 16 (parseBitStates · invertList) frame now

def processPartitions (command : UInt8) (frame : Frame) (now : LocalTime) : Parsed StatesData :=
  processMask command 4 parsePartitionBits frame now

def processZonesViolation := processZones 0x00
def processZonesTamper := processZones 0x01
def processZonesAlarm := processZones 0x02
def processZonesTamperAlarm := processZones 0x03
def processZonesAlarmMemory := processZones 0x04
def processZonesTamperAlarmMemory := processZones 0x05
def processZonesBypass := processZones 0x06
def processZonesNoViolationTrouble := processZones 0x07
def processZonesLongViolationTrouble := processZones 0x08

def processPartitionsArmedSuppressed := processPartitions 0x09
def processPartitionsArmedReally := processPartitions 0x0A
def processPartitionsEntryTime := processPartitions 0x0E
def processPartitionsExitTimeGt10s := processPartitions 0x0F
def processPartitionsExitTimeLt10s := processPartitions 0x10
def processPartitionsAlarm := processPartitions 0x13
def processPartitionsAlarmMemory := processPartitions 0x15

def processOutputsState := processMask 0x17 16 parseOutputBits

/-- What a mask parser makes of a frame, as a value. -/
def maskReading (command : UInt8) (minLength : Nat) (parse : Frame → List Bool)
    (now : LocalTime) : Frame → Except SatelError StatesData
  | [] => .error .invalidFrame
  | first :: data =>
    if first = command ∧ minLength ≤ data.length then
      .ok { states := parse data, readAt := now }
    else .error .invalidFrame

/-- A mask parser never indexes outside its frame. -/
theorem processMask_eq (command : UInt8) (minLength : Nat) (parse : Frame → List Bool)
    (frame : Frame) (now : LocalTime) :
    processMask command minLength parse frame now =
      (.ok (maskReading command minLength parse now frame) : Except Panic _) := by
  cases frame with
  | nil => rfl
  | cons first data =>
    by_cases hc : first = command
    · by_cases hl : data.length < minLength
      · simp [processMask, maskReading, hc, hl, Nat.not_le.mpr hl]
        rfl
      · simp [processMask, maskReading, hc, hl, Nat.not_lt.mp hl]
        rfl
    · simp [processMask, maskReading, hc]
      rfl

/-- Bit `i` of a mask, the least significant bit of the first byte being bit 0. -/
def maskBit (data : Frame) (i : Nat) : Bool := bitSet (data.getD (i / 8) 0) (i % 8)

lemma range_eight_mul_succ (n : Nat) :
    List.range (8 * (n + 1)) = List.range (8 * n) ++ (List.range 8).map (8 * n + ·) := by
  rw [Nat.mul_add, Nat.mul_one, List.range_add]

/-- Reading eight bits a byte visits the positions of the mask in order. -/
lemma flatMap_bits {β : Type} (f : UInt8 → Nat → Nat → β) (data : Frame) :
    data.zipIdx.flatMap (fun p => (List.range 8).map (f p.1 p.2)) =
      (List.range (8 * data.length)).map fun i => f (data.getD (i / 8) 0) (i / 8) (i % 8) := by
  induction data using List.reverseRecOn with
  | nil => rfl
  | append_singleton data byte ih =>
    have old : ∀ i ∈ List.range (8 * data.length),
        f ((data ++ [byte]).getD (i / 8) 0) (i / 8) (i % 8) =
          f (data.getD (i / 8) 0) (i / 8) (i % 8) := by
      intro i hi
      have inside : i / 8 < data.length := by
        have := List.mem_range.mp hi
        omega
      simp [List.getElem?_append_left inside]
    have new : ∀ bit ∈ List.range 8,
        f byte data.length bit =
          f ((data ++ [byte]).getD ((8 * data.length + bit) / 8) 0)
            ((8 * data.length + bit) / 8) ((8 * data.length + bit) % 8) := by
      intro bit hbit
      have := List.mem_range.mp hbit
      have hdiv : (8 * data.length + bit) / 8 = data.length := by omega
      have hmod : (8 * data.length + bit) % 8 = bit := by omega
      rw [hdiv, hmod]
      simp
    rw [List.zipIdx_append, List.flatMap_append, ih, List.length_append, List.length_singleton,
      range_eight_mul_succ, List.map_append, List.map_congr_left old, List.map_map]
    simp only [List.zipIdx_singleton, List.flatMap_singleton, Nat.zero_add]
    rw [List.map_congr_left new]
    rfl

lemma flatMap_byteBits (data : Frame) :
    data.flatMap byteBits = (List.range (8 * data.length)).map (maskBit data) := by
  calc data.flatMap byteBits = (data.zipIdx.map Prod.fst).flatMap byteBits := by
        rw [List.zipIdx_map_fst]
    _ = data.zipIdx.flatMap (fun p => byteBits p.1) := List.flatMap_map ..
    _ = _ := flatMap_bits (fun byte _ bit => bitSet byte bit) data

lemma parseBitStates_eq (data : Frame) (invertList : List UInt16) :
    parseBitStates data invertList = (List.range (8 * data.length)).map fun i =>
      maskBit data i ^^ invertList.contains (UInt16.ofNat (i + 1)) := by
  have h := flatMap_bits (fun byte byteIdx bit =>
    if invertList.contains (UInt16.ofNat (byteIdx * 8 + bit + 1)) then !bitSet byte bit
    else bitSet byte bit) data
  refine Eq.trans h (List.map_congr_left fun i _ => ?_)
  have hi : i / 8 * 8 + i % 8 + 1 = i + 1 := by omega
  rw [hi]
  cases invertList.contains (UInt16.ofNat (i + 1)) <;> simp [maskBit]

end SatelIntegra
