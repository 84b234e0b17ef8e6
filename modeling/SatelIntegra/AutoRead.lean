import SatelIntegra.Codec
import SatelIntegra.State

/-!
# What the panel is asked to push

Command `0x7F` carries one bit for each command byte the panel shall send on its
own. The mask has 14 bytes for modules that know eight trouble groups, else 12.
-/

namespace SatelIntegra

open CheckedAccess

/-- `mask[byte] |= 1 << bit` -/
def setMaskBit (mask : List UInt8) (at_ : Nat × UInt8) : List UInt8 :=
  mask.modify at_.1 (· ||| (1 <<< at_.2))

/-- One auto-read category: whether it is enabled, and the byte and bit of its commands. -/
def pushBits (config : Config) : List (Bool × List (Nat × UInt8)) :=
  [(config.autoReadZonesViolation, [(0, 0)]),
   (config.autoReadZonesTamper, [(0, 1)]),
   (config.autoReadZonesAlarm, [(0, 2)]),
   (config.autoReadZonesTamperAlarm, [(0, 3)]),
   (config.autoReadZonesAlarmMemory, [(0, 4)]),
   (config.autoReadZonesTamperAlarmMemory, [(0, 5)]),
   (config.autoReadZonesBypass, [(0, 6)]),
   (config.autoReadZonesNoViolationTrouble, [(0, 7)]),
   (config.autoReadZonesLongViolationTrouble, [(1, 0)]),
   (config.autoReadPartitionsArmedSuppressed, [(1, 1)]),
   (config.autoReadPartitionsArmedReally, [(1, 2)]),
   (config.autoReadPartitionsAlarm, [(2, 3)]),
   (config.autoReadPartitionsAlarmMemory, [(2, 5)]),
   (config.autoReadPartitionsEntryTime, [(1, 6)]),
   (config.autoReadPartitionsExitTime, [(1, 7), (2, 0)]),
   (config.autoReadOutputsState, [(2, 7)]),
   (config.autoReadSystemTroubles,
     [(3, 2), (3, 3), (3, 4), (3, 5), (3, 6), (3, 7), (5, 4), (5, 5), (6, 0)]),
   (config.autoReadTroublesMemory,
     [(4, 0), (4, 1), (4, 2), (4, 3), (4, 4), (5, 6), (5, 7), (6, 1)])]

def pushMaskLen (support14ByteMask : Bool) : Nat := if support14ByteMask then 14 else 12

def SatelConnectionWorker.connectBuildPushMask (config : Config) (support14ByteMask : Bool) :
    List UInt8 :=
  (pushBits config).foldl
    (fun mask (enabled, bits) => if enabled then bits.foldl setMaskBit mask else mask)
    (List.replicate (pushMaskLen support14ByteMask) 0)

/-- Name, byte of the mask and whether it is requested, for each category. -/
def autoReadDefs (config : Config) : List (String × Nat × Bool) :=
  [("Zone violations (0x00)", 0, config.autoReadZonesViolation),
   ("Zone tampers (0x01)", 0, config.autoReadZonesTamper),
   ("Zone alarms (0x02)", 0, config.autoReadZonesAlarm),
   ("Zone tamper alarms (0x03)", 0, config.autoReadZonesTamperAlarm),
   ("Zone alarm memory (0x04)", 0, config.autoReadZonesAlarmMemory),
   ("Zone tamper alarm memory (0x05)", 0, config.autoReadZonesTamperAlarmMemory),
   ("Zone bypasses (0x06)", 0, config.autoReadZonesBypass),
   ("Zone 'no violation' trouble (0x07)", 0, config.autoReadZonesNoViolationTrouble),
   ("Zone 'long violation' trouble (0x08)", 1, config.autoReadZonesLongViolationTrouble),
   ("Partitions armed suppressed (0x09)", 1, config.autoReadPartitionsArmedSuppressed),
   ("Partitions armed really (0x0A)", 1, config.autoReadPartitionsArmedReally),
   ("Partitions alarm (0x13)", 2, config.autoReadPartitionsAlarm),
   ("Partitions alarm memory (0x15)", 2, config.autoReadPartitionsAlarmMemory),
   ("Partitions entry time (0x0E)", 1, config.autoReadPartitionsEntryTime),
   ("Partitions exit time (0x0F, 0x10)", 1, config.autoReadPartitionsExitTime),
   ("Outputs state (0x17)", 2, config.autoReadOutputsState),
   ("System troubles (0x1A-0x30)", 3, config.autoReadSystemTroubles),
   ("Troubles memory (0x20-0x31)", 4, config.autoReadTroublesMemory)]

def autoReadItemState (maskLen : Nat) (isSuccess : Bool) (errorCode : Option UInt8) (byteIdx : Nat)
    (requested : Bool) : AutoReadItemState :=
  if !requested then .notRequested
  else if byteIdx ≥ maskLen then .unsupportedByHardware
  else if isSuccess then .active
  else .rejectedByPanel (errorCode.getD 0x08)

def autoReadSuccess (response : Frame) : Except Panic Bool :=
  if response.isEmpty then return false
  else do
    if (← index response 0) == 0x7F then return true
    else return (← index response 0) == 0xEF && response[1]? == some 0xFF

def autoReadErrorCode (isSuccess : Bool) (response : Frame) : Except Panic (Option UInt8) :=
  if isSuccess then return none
  else do
    if (← index response 0) == 0xEF then return response[1]? else return none

def processAutoReadResponse (config : Config) (support14Byte : Bool) (response : Frame) :
    Except Panic AutoReadReport := do
  let maskLen := pushMaskLen support14Byte
  let isSuccess ← autoReadSuccess response
  let errorCode ← autoReadErrorCode isSuccess response
  let items := (autoReadDefs config).map fun (name, byteIdx, requested) =>
    { name := name, state := autoReadItemState maskLen isSuccess errorCode byteIdx requested :
      AutoReadItemStatus }
  let successCount ← fit usizeBound (items.countP fun item => item.state == .active)
  let totalRequested ← fit usizeBound (items.countP fun item => item.state != .notRequested)
  return { items, successCount, totalRequested }

/-- Only an empty response would panic, and no exchange returns one. -/
lemma processAutoReadResponse_noPanic (config : Config) (support14Byte : Bool) {response : Frame}
    (h : response ≠ []) : NoPanic (processAutoReadResponse config support14Byte response) := by
  obtain ⟨first, rest, rfl⟩ := List.exists_cons_of_ne_nil h
  have success : NoPanic (autoReadSuccess (first :: rest)) := by
    by_cases h7F : first = 0x7F
    · exact ⟨true, by simp [autoReadSuccess, h7F, ok_bind]; rfl⟩
    · exact ⟨_, by simp [autoReadSuccess, h7F, ok_bind]; rfl⟩
  refine success.bind fun isSuccess => ?_
  have code : NoPanic (autoReadErrorCode isSuccess (first :: rest)) := by
    cases isSuccess with
    | true => exact ⟨none, rfl⟩
    | false =>
      by_cases hEF : first = 0xEF
      · exact ⟨_, by simp [autoReadErrorCode, hEF, ok_bind]; rfl⟩
      · exact ⟨none, by simp [autoReadErrorCode, hEF, ok_bind]; rfl⟩
  refine code.bind fun errorCode => ?_
  have counted (items : List AutoReadItemStatus) (few : items.length = 18)
      (p : AutoReadItemStatus → Bool) : NoPanic (fit usizeBound (items.countP p)) := by
    refine fit_noPanic.mpr (Nat.lt_of_le_of_lt List.countP_le_length ?_)
    rw [few]
    decide
  refine (counted _ ?_ _).bind fun _ => (counted _ ?_ _).bind fun _ => noPanic_ok _
  · exact List.length_map ..
  · exact List.length_map ..

end SatelIntegra
