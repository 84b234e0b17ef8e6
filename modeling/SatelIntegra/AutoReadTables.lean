import Mathlib.Data.Nat.Bitwise
import Mathlib.Tactic.IntervalCases
import SatelIntegra.AutoRead
import SatelIntegra.CacheLog
import SatelIntegra.TroubleReplay

/-!
# Requested, handled, reported

Three tables of the source speak of the same eighteen categories: the bits of the
push mask, the arms of the dispatcher and the entries of the report. Here a
category is the list of its routines. A routine has one command, and the part of
the cache it writes is the part that belongs to that command.
-/

namespace SatelIntegra

open CheckedAccess

/-! ### Categories and their routines -/

/-- A parser with the update of the cache behind it. -/
inductive AutoReadRoutine where
  | flags (category : Category)
  | systemStatus
  | troubles (cmd : SatelCommand)
  deriving DecidableEq, Repr

namespace AutoReadRoutine

def command : AutoReadRoutine → UInt8
  | flags category => category.command
  | systemStatus => 0x1A
  | troubles cmd => cmd.toByte

/-- An accepted frame gives the updated cache, a rejected one the error of the parser. -/
def apply (config : Config) (state : SatelState) (frame : Frame) (clock : Clock) :
    AutoReadRoutine → Parsed Updated
  | flags category => category.applyReply false config state frame clock.now
  | systemStatus => do
    let status ← processRtcAndStatus frame clock
    return updateSystemStatusInternal config state status
  | troubles cmd => updateTroublesInternal config state cmd frame.tail

end AutoReadRoutine

/-- The `auto_read_*` flags of the configuration. -/
inductive AutoReadCategory where
  | zonesViolation
  | zonesTamper
  | zonesAlarm
  | zonesTamperAlarm
  | zonesAlarmMemory
  | zonesTamperAlarmMemory
  | zonesBypass
  | zonesNoViolationTrouble
  | zonesLongViolationTrouble
  | partitionsArmedSuppressed
  | partitionsArmedReally
  | partitionsAlarm
  | partitionsAlarmMemory
  | partitionsEntryTime
  | partitionsExitTime
  | outputsState
  | systemTroubles
  | troublesMemory
  deriving DecidableEq, Repr

namespace AutoReadCategory

def all : List AutoReadCategory :=
  [zonesViolation, zonesTamper, zonesAlarm, zonesTamperAlarm, zonesAlarmMemory,
   zonesTamperAlarmMemory, zonesBypass, zonesNoViolationTrouble, zonesLongViolationTrouble,
   partitionsArmedSuppressed, partitionsArmedReally, partitionsAlarm, partitionsAlarmMemory,
   partitionsEntryTime, partitionsExitTime, outputsState, systemTroubles, troublesMemory]

def enabled (config : Config) : AutoReadCategory → Bool
  | zonesViolation => config.autoReadZonesViolation
  | zonesTamper => config.autoReadZonesTamper
  | zonesAlarm => config.autoReadZonesAlarm
  | zonesTamperAlarm => config.autoReadZonesTamperAlarm
  | zonesAlarmMemory => config.autoReadZonesAlarmMemory
  | zonesTamperAlarmMemory => config.autoReadZonesTamperAlarmMemory
  | zonesBypass => config.autoReadZonesBypass
  | zonesNoViolationTrouble => config.autoReadZonesNoViolationTrouble
  | zonesLongViolationTrouble => config.autoReadZonesLongViolationTrouble
  | partitionsArmedSuppressed => config.autoReadPartitionsArmedSuppressed
  | partitionsArmedReally => config.autoReadPartitionsArmedReally
  | partitionsAlarm => config.autoReadPartitionsAlarm
  | partitionsAlarmMemory => config.autoReadPartitionsAlarmMemory
  | partitionsEntryTime => config.autoReadPartitionsEntryTime
  | partitionsExitTime => config.autoReadPartitionsExitTime
  | outputsState => config.autoReadOutputsState
  | systemTroubles => config.autoReadSystemTroubles
  | troublesMemory => config.autoReadTroublesMemory

def routines : AutoReadCategory → List AutoReadRoutine
  | zonesViolation => [.flags (.zones .violation)]
  | zonesTamper => [.flags (.zones .tamper)]
  | zonesAlarm => [.flags (.zones .alarm)]
  | zonesTamperAlarm => [.flags (.zones .tamperAlarm)]
  | zonesAlarmMemory => [.flags (.zones .alarmMemory)]
  | zonesTamperAlarmMemory => [.flags (.zones .tamperAlarmMemory)]
  | zonesBypass => [.flags (.zones .bypass)]
  | zonesNoViolationTrouble => [.flags (.zones .noViolationTrouble)]
  | zonesLongViolationTrouble => [.flags (.zones .longViolationTrouble)]
  | partitionsArmedSuppressed => [.flags (.partitions .armedSuppressed)]
  | partitionsArmedReally => [.flags (.partitions .armedReally)]
  | partitionsAlarm => [.flags (.partitions .alarm)]
  | partitionsAlarmMemory => [.flags (.partitions .alarmMemory)]
  | partitionsEntryTime => [.flags (.partitions .entryTime)]
  | partitionsExitTime => [.flags (.partitions .exitTimeGt10s), .flags (.partitions .exitTimeLt10s)]
  | outputsState => [.flags .outputs]
  | systemTroubles =>
    [.systemStatus, .troubles .troublesPart1, .troubles .troublesPart2, .troubles .troublesPart3,
     .troubles .troublesPart4, .troubles .troublesPart5, .troubles .troublesPart6,
     .troubles .troublesPart7, .troubles .troublesPart8]
  | troublesMemory =>
    [.troubles .troublesMemoryPart1, .troubles .troublesMemoryPart2,
     .troubles .troublesMemoryPart3, .troubles .troublesMemoryPart4,
     .troubles .troublesMemoryPart5, .troubles .troublesMemoryPart6,
     .troubles .troublesMemoryPart7, .troubles .troublesMemoryPart8]

def commands (category : AutoReadCategory) : List UInt8 := category.routines.map (·.command)

/-- The name of the category in the report. -/
def name : AutoReadCategory → String
  | zonesViolation => "Zone violations (0x00)"
  | zonesTamper => "Zone tampers (0x01)"
  | zonesAlarm => "Zone alarms (0x02)"
  | zonesTamperAlarm => "Zone tamper alarms (0x03)"
  | zonesAlarmMemory => "Zone alarm memory (0x04)"
  | zonesTamperAlarmMemory => "Zone tamper alarm memory (0x05)"
  | zonesBypass => "Zone bypasses (0x06)"
  | zonesNoViolationTrouble => "Zone 'no violation' trouble (0x07)"
  | zonesLongViolationTrouble => "Zone 'long violation' trouble (0x08)"
  | partitionsArmedSuppressed => "Partitions armed suppressed (0x09)"
  | partitionsArmedReally => "Partitions armed really (0x0A)"
  | partitionsAlarm => "Partitions alarm (0x13)"
  | partitionsAlarmMemory => "Partitions alarm memory (0x15)"
  | partitionsEntryTime => "Partitions entry time (0x0E)"
  | partitionsExitTime => "Partitions exit time (0x0F, 0x10)"
  | outputsState => "Outputs state (0x17)"
  | systemTroubles => "System troubles (0x1A-0x30)"
  | troublesMemory => "Troubles memory (0x20-0x31)"

lemma mem_all (category : AutoReadCategory) : category ∈ all := by
  cases category <;> decide

/-- No command belongs to two categories, or twice to one. -/
lemma commands_nodup : (all.flatMap commands).Nodup := by decide

lemma eq_of_mem_commands {category category' : AutoReadCategory} {c : UInt8}
    (h : c ∈ category.commands) (h' : c ∈ category'.commands) : category = category' := by
  have apart := (List.nodup_flatMap.mp commands_nodup).2
  have : Std.Symm (Function.onFun List.Disjoint commands) :=
    ⟨fun _ _ disjoint _ left right => disjoint right left⟩
  by_contra different
  exact apart.forall (mem_all category) (mem_all category') different h h'

/-- The three tables of the source list the categories in one order. -/
lemma pushBits_eq (config : Config) :
    pushBits config = all.map fun category =>
      (category.enabled config, category.commands.map fun c => (c.toNat / 8, c % 8)) := rfl

end AutoReadCategory

/-! ### Requested -/

lemma toNat_one_shiftLeft {i : Nat} (hi : i < 8) : (1 <<< UInt8.ofNat i : UInt8).toNat = 2 ^ i := by
  interval_cases i <;> rfl

lemma bitSet_testBit (byte : UInt8) {i : Nat} (hi : i < 8) :
    bitSet byte i = byte.toNat.testBit i := by
  have masked : (byte &&& 1 <<< UInt8.ofNat i).toNat = (byte.toNat.testBit i).toNat * 2 ^ i := by
    rw [UInt8.toNat_and, toNat_one_shiftLeft hi, Nat.and_two_pow]
  cases hbit : byte.toNat.testBit i with
  | true =>
    rw [hbit, Bool.toNat_true, one_mul] at masked
    refine bne_iff_ne.mpr ?_
    intro zero
    rw [zero] at masked
    exact absurd masked.symm (by simp)
  | false =>
    rw [hbit, Bool.toNat_false, zero_mul] at masked
    have zero : byte &&& 1 <<< UInt8.ofNat i = 0 := UInt8.toNat_inj.mp masked
    simp [bitSet, zero]

lemma bitSet_or (byte : UInt8) {i j : Nat} (hi : i < 8) (hj : j < 8) :
    bitSet (byte ||| 1 <<< UInt8.ofNat j) i = (bitSet byte i || decide (j = i)) := by
  rw [bitSet_testBit _ hi, bitSet_testBit _ hi, UInt8.toNat_or, toNat_one_shiftLeft hj,
    Nat.testBit_or, Nat.testBit_two_pow]

/-- Where the mask has the bit of a command. -/
def maskPlace (c : UInt8) : Nat × UInt8 := (c.toNat / 8, c % 8)

lemma maskPlace_bit (c : UInt8) : (maskPlace c).2 = UInt8.ofNat (c.toNat % 8) := by
  apply UInt8.toNat_inj.mp
  simp [maskPlace]
  omega

lemma maskBit_setMaskBit {mask : List UInt8} {c : UInt8} (inside : c.toNat / 8 < mask.length)
    (i : Nat) :
    maskBit (setMaskBit mask (maskPlace c)) i = (maskBit mask i || decide (c.toNat = i)) := by
  have byte : (setMaskBit mask (maskPlace c)).getD (i / 8) 0 =
      if c.toNat / 8 = i / 8 then mask.getD (i / 8) 0 ||| 1 <<< UInt8.ofNat (c.toNat % 8)
      else mask.getD (i / 8) 0 := by
    rw [setMaskBit, maskPlace_bit, List.getD_eq_getElem?_getD, List.getElem?_modify,
      List.getD_eq_getElem?_getD]
    by_cases same : c.toNat / 8 = i / 8
    · obtain ⟨byte, found⟩ : ∃ byte, mask[i / 8]? = some byte :=
        ⟨_, List.getElem?_eq_getElem (same ▸ inside)⟩
      simp [maskPlace, same, found]
    · cases mask[i / 8]? <;> simp [maskPlace, same]
  rw [maskBit, byte, maskBit]
  by_cases same : c.toNat / 8 = i / 8
  · have bit : c.toNat % 8 = i % 8 ↔ c.toNat = i := by omega
    rw [if_pos same, bitSet_or _ (Nat.mod_lt _ (by decide)) (Nat.mod_lt _ (by decide))]
    simp [bit]
  · have different : c.toNat ≠ i := by omega
    simp [same, different]

lemma length_setMaskBits (bits : List (Nat × UInt8)) (mask : List UInt8) :
    (bits.foldl setMaskBit mask).length = mask.length := by
  induction bits generalizing mask with
  | nil => rfl
  | cons bit bits ih => rw [List.foldl_cons, ih, setMaskBit, List.length_modify]

lemma maskBit_setMaskBits {commands : List UInt8} {mask : List UInt8}
    (inside : ∀ c ∈ commands, c.toNat / 8 < mask.length) (i : Nat) :
    maskBit ((commands.map maskPlace).foldl setMaskBit mask) i = true ↔
      maskBit mask i = true ∨ ∃ c ∈ commands, c.toNat = i := by
  induction commands generalizing mask with
  | nil => simp
  | cons c commands ih =>
    have head := maskBit_setMaskBit (inside c List.mem_cons_self) i
    have tail : ∀ c' ∈ commands, c'.toNat / 8 < (setMaskBit mask (maskPlace c)).length := by
      intro c' hc'
      rw [setMaskBit, List.length_modify]
      exact inside c' (List.mem_cons_of_mem _ hc')
    rw [List.map_cons, List.foldl_cons, ih tail, head]
    simp [or_assoc]

/-- The loop over any list of categories sets the bits of the enabled ones. -/
lemma maskBit_pushMask (config : Config) {categories : List AutoReadCategory} {mask : List UInt8}
    (long : 12 ≤ mask.length) (i : Nat) :
    maskBit ((categories.map fun category =>
        (category.enabled config, category.commands.map maskPlace)).foldl
      (fun mask (enabled, bits) => if enabled then bits.foldl setMaskBit mask else mask) mask) i
        = true ↔
      maskBit mask i = true ∨
        ∃ category ∈ categories, category.enabled config = true ∧
          ∃ c ∈ category.commands, c.toNat = i := by
  induction categories generalizing mask with
  | nil => simp
  | cons category categories ih =>
    have inside : ∀ c ∈ category.commands, c.toNat / 8 < 12 := by
      cases category <;> decide +kernel
    rw [List.map_cons, List.foldl_cons]
    cases henabled : category.enabled config with
    | false =>
      simp only [Bool.false_eq_true, if_false]
      rw [ih long]
      simp [henabled]
    | true =>
      simp only [if_true]
      have covered : ∀ c ∈ category.commands, c.toNat / 8 < mask.length :=
        fun c hc => Nat.lt_of_lt_of_le (inside c hc) long
      rw [ih (by rwa [length_setMaskBits]), maskBit_setMaskBits covered]
      simp [henabled, or_assoc]

lemma maskBit_replicate_zero (n i : Nat) : maskBit (List.replicate n 0) i = false := by
  simp [maskBit, bitSet]

/-- The mask has the bit of a command exactly if the command is of an enabled category. -/
theorem connectBuildPushMask_bit (config : Config) (support14ByteMask : Bool) (c : UInt8) :
    maskBit (SatelConnectionWorker.connectBuildPushMask config support14ByteMask) c.toNat = true ↔
      ∃ category : AutoReadCategory, category.enabled config = true ∧ c ∈ category.commands := by
  have long : 12 ≤ (List.replicate (pushMaskLen support14ByteMask) (0 : UInt8)).length := by
    cases support14ByteMask <;> decide
  rw [SatelConnectionWorker.connectBuildPushMask, AutoReadCategory.pushBits_eq]
  refine (maskBit_pushMask config long c.toNat).trans ?_
  rw [maskBit_replicate_zero]
  constructor
  · rintro (zero | ⟨category, -, enabled, c', hc', same⟩)
    · cases zero
    · exact ⟨category, enabled, UInt8.toNat_inj.mp same ▸ hc'⟩
  · rintro ⟨category, enabled, hc⟩
    exact .inr ⟨category, category.mem_all, enabled, c, hc, rfl⟩

/-! ### One mask, two lengths -/

lemma setMaskBit_append {mask tail : List UInt8} {place : Nat × UInt8}
    (inside : place.1 < mask.length) :
    setMaskBit (mask ++ tail) place = setMaskBit mask place ++ tail := by
  obtain ⟨byte, bit⟩ := place
  induction mask generalizing byte with
  | nil => cases inside
  | cons b mask ih =>
    cases byte with
    | zero => rfl
    | succ byte => exact congrArg (b :: ·) (ih byte (Nat.lt_of_succ_lt_succ inside))

lemma setMaskBits_append {bits : List (Nat × UInt8)} {mask tail : List UInt8}
    (inside : ∀ place ∈ bits, place.1 < mask.length) :
    bits.foldl setMaskBit (mask ++ tail) = bits.foldl setMaskBit mask ++ tail := by
  induction bits generalizing mask with
  | nil => rfl
  | cons place bits ih =>
    have first := inside place List.mem_cons_self
    have rest : ∀ p ∈ bits, p.1 < (setMaskBit mask place).length := by
      intro p mem
      rw [setMaskBit, List.length_modify]
      exact inside p (List.mem_cons_of_mem _ mem)
    rw [List.foldl_cons, List.foldl_cons, setMaskBit_append first, ih rest]

lemma pushBits_inside (config : Config) :
    ∀ row ∈ pushBits config, ∀ place ∈ row.2, place.1 < 12 := by
  simp only [pushBits, List.forall_mem_cons]
  decide

/-- Rows whose places are in the mask leave what follows it alone. -/
lemma foldl_rows_append {rows : List (Bool × List (Nat × UInt8))} {mask tail : List UInt8}
    (inside : ∀ row ∈ rows, ∀ place ∈ row.2, place.1 < mask.length) :
    rows.foldl (fun mask (enabled, bits) => if enabled then bits.foldl setMaskBit mask else mask)
        (mask ++ tail) =
      rows.foldl (fun mask (enabled, bits) => if enabled then bits.foldl setMaskBit mask else mask)
        mask ++ tail := by
  induction rows generalizing mask with
  | nil => rfl
  | cons row rows ih =>
    obtain ⟨enabled, bits⟩ := row
    have first := inside (enabled, bits) List.mem_cons_self
    rw [List.foldl_cons, List.foldl_cons]
    cases enabled with
    | false => exact ih fun row mem => inside row (List.mem_cons_of_mem _ mem)
    | true =>
      simp only [if_true]
      rw [setMaskBits_append first]
      apply ih
      intro row mem place hplace
      rw [length_setMaskBits]
      exact inside row (List.mem_cons_of_mem _ mem) place hplace

/-- The longer mask is the shorter one with two more bytes, which no category uses. -/
theorem connectBuildPushMask_long (config : Config) :
    SatelConnectionWorker.connectBuildPushMask config true =
      SatelConnectionWorker.connectBuildPushMask config false ++ [0, 0] := by
  have longer : List.replicate (pushMaskLen true) (0 : UInt8) =
      List.replicate (pushMaskLen false) 0 ++ [0, 0] := rfl
  rw [SatelConnectionWorker.connectBuildPushMask, longer]
  exact foldl_rows_append (pushBits_inside config)

/-- Two configurations have different masks of one length if of the other. -/
theorem connectBuildPushMask_ne_iff (old new : Config) (support14ByteMask : Bool) :
    SatelConnectionWorker.connectBuildPushMask old support14ByteMask ≠
        SatelConnectionWorker.connectBuildPushMask new support14ByteMask ↔
      SatelConnectionWorker.connectBuildPushMask old true ≠
        SatelConnectionWorker.connectBuildPushMask new true := by
  cases support14ByteMask with
  | true => rfl
  | false =>
    rw [connectBuildPushMask_long, connectBuildPushMask_long]
    exact not_congr (List.append_left_inj [0, 0]).symm

/-- Setting bits leaves the length of a mask alone. -/
lemma length_connectBuildPushMask (config : Config) (support14ByteMask : Bool) :
    (SatelConnectionWorker.connectBuildPushMask config support14ByteMask).length =
      pushMaskLen support14ByteMask := by
  have rows (table : List (Bool × List (Nat × UInt8))) (mask : List UInt8) :
      (table.foldl
        (fun mask (enabled, bits) => if enabled then bits.foldl setMaskBit mask else mask)
        mask).length = mask.length := by
    induction table generalizing mask with
    | nil => rfl
    | cons row table ih =>
      obtain ⟨enabled, bits⟩ := row
      rw [List.foldl_cons, ih]
      cases enabled with
      | false => rfl
      | true => exact length_setMaskBits bits mask
  rw [SatelConnectionWorker.connectBuildPushMask, rows, List.length_replicate]

lemma isAutoReadEnabled_eq (config : Config) :
    config.isAutoReadEnabled = (pushBits config).any (·.1) := by
  simp [Config.isAutoReadEnabled, pushBits, Bool.or_assoc]

/-- No category asks for anything, so no bit is set. -/
lemma connectBuildPushMask_of_disabled {config : Config}
    (disabled : config.isAutoReadEnabled = false) (support14ByteMask : Bool) :
    SatelConnectionWorker.connectBuildPushMask config support14ByteMask =
      List.replicate (pushMaskLen support14ByteMask) 0 := by
  rw [isAutoReadEnabled_eq, List.any_eq_false] at disabled
  rw [SatelConnectionWorker.connectBuildPushMask]
  generalize pushBits config = rows at disabled
  induction rows with
  | nil => rfl
  | cons row rows ih =>
    obtain ⟨enabled, bits⟩ := row
    have off : enabled = false := by simpa using disabled (enabled, bits) List.mem_cons_self
    subst off
    exact ih fun r mem => disabled r (List.mem_cons_of_mem _ mem)

/-! ### Handled -/

/-- A part of the cache that the frames of one command write. -/
inductive CachePart where
  | flag (category : Category) (i : Nat)
  | systemStatus
  | trouble (key : Slot.Key)
  | acuJamLevel (module : UInt8)
  | cmeError (key : CodeKey)

namespace CachePart

def command : CachePart → UInt8
  | flag category _ => category.command
  | systemStatus => 0x1A
  | trouble key => troubleFlagsMap.command key
  | acuJamLevel module => acuJamLevelsMap.command module
  | cmeError key => cmeErrorsMap.command key

def Unchanged (before after : SatelState) : CachePart → Prop
  | flag category i => category.cell after i = category.cell before i
  | systemStatus => after.systemStatus = before.systemStatus
  | trouble key => after.troubleFlags key = before.troubleFlags key
  | acuJamLevel module => after.acuJamLevels module = before.acuJamLevels module
  | cmeError key => after.cmeErrors key = before.cmeErrors key

end CachePart

/-- What belongs to no category. -/
structure SameConnection (before after : SatelState) : Prop where
  connectionType : after.connectionType = before.connectionType
  telemetry : after.telemetry = before.telemetry
  integraVersion : after.integraVersion = before.integraVersion
  ethmVersion : after.ethmVersion = before.ethmVersion
  autoReadReport : after.autoReadReport = before.autoReadReport

/-- Nothing but the parts of one command is written. -/
structure WritesOnly (command : UInt8) (before after : SatelState) : Prop where
  parts : ∀ part : CachePart, part.command ≠ command → part.Unchanged before after
  rest : SameConnection before after

lemma flags_writesOnly (category : Category) (config : Config) (state : SatelState)
    (result : StatesData) (emitAll : Bool) :
    WritesOnly category.command state (category.update config state result emitAll).1 := by
  have kept := category.update_eq config state result emitAll
  constructor
  · rintro (⟨category', i⟩ | _ | key | module | key) other
    · have different : category' ≠ category := by
        rintro rfl
        exact other rfl
      exact category.update_other config state result emitAll different i
    all_goals
      rw [kept]
      cases category <;> rfl
  · rw [kept]
    cases category <;> exact ⟨rfl, rfl, rfl, rfl, rfl⟩

lemma systemStatus_writesOnly (config : Config) (state : SatelState) (status : SystemStatus) :
    WritesOnly 0x1A state (updateSystemStatusInternal config state status).1 := by
  dsimp only [updateSystemStatusInternal]
  split
  · refine ⟨?_, rfl, rfl, rfl, rfl, rfl⟩
    rintro (⟨category, i⟩ | _ | key | module | key) other
    · cases category <;> rfl
    · exact absurd rfl other
    all_goals rfl
  · refine ⟨?_, rfl, rfl, rfl, rfl, rfl⟩
    rintro (⟨category, i⟩ | _ | key | module | key) _ <;> rfl

lemma updateTrouble_rest (emitUnchanged : Bool) (state : SatelState) (item : TroubleItem) :
    SameConnection state (updateTrouble emitUnchanged state item).1 ∧
      (updateTrouble emitUnchanged state item).1.systemStatus = state.systemStatus := by
  cases item <;> exact ⟨⟨rfl, rfl, rfl, rfl, rfl⟩, rfl⟩

lemma updateTroubles_rest (emitUnchanged : Bool) (items : List TroubleItem) (state : SatelState) :
    SameConnection state (updateTroubles emitUnchanged state items).1 ∧
      (updateTroubles emitUnchanged state items).1.systemStatus = state.systemStatus := by
  induction items generalizing state with
  | nil => exact ⟨⟨rfl, rfl, rfl, rfl, rfl⟩, rfl⟩
  | cons item items ih =>
    obtain ⟨head, status⟩ := updateTrouble_rest emitUnchanged state item
    obtain ⟨tail, status'⟩ := ih (updateTrouble emitUnchanged state item).1
    exact ⟨⟨tail.connectionType.trans head.connectionType, tail.telemetry.trans head.telemetry,
      tail.integraVersion.trans head.integraVersion, tail.ethmVersion.trans head.ethmVersion,
      tail.autoReadReport.trans head.autoReadReport⟩, status'.trans status⟩

/-- A map keeps the keys of the other commands. -/
lemma TroubleMap.contents_step_of_ne {K V : Type} [DecidableEq K] [DecidableEq V]
    (map : TroubleMap K V) (state : SatelState) (frame : TroubleFrame) {key : K}
    (other : map.command key ≠ frame.cmd.toByte) :
    map.contents (frame.step state).1 key = map.contents state key := by
  have none_of_it : TroubleFrame.ofCommand (map.command key) [frame] =
      TroubleFrame.ofCommand (map.command key) [] := by
    simp [TroubleFrame.ofCommand, Ne.symm other]
  exact (map.key_of_command state key none_of_it).1

lemma troubles_writesOnly (state : SatelState) (frame : TroubleFrame) :
    WritesOnly frame.cmd.toByte state (frame.step state).1 := by
  have rest := updateTroubles_rest frame.config.emitUnchangedTroubles frame.items state
  rw [← frame.step_eq] at rest
  refine ⟨?_, rest.1⟩
  rintro (⟨category, i⟩ | _ | key | module | key) other
  · have quiet := updateTroubles_quiet frame.config.emitUnchangedTroubles state frame.items
    rw [← frame.step_eq] at quiet
    exact category.cell_quiet quiet i
  · exact rest.2
  · exact troubleFlagsMap.contents_step_of_ne state frame other
  · exact acuJamLevelsMap.contents_step_of_ne state frame other
  · exact cmeErrorsMap.contents_step_of_ne state frame other

/-- A parser followed by an update is accepted through a value of the parser. -/
lemma accepted_bind {α β : Type} {parsed : Parsed α} {update : α → β} {updated : β}
    (h : (do let d ← parsed; return update d : Parsed β) = (.ok (.ok updated) : Except Panic _)) :
    ∃ d, parsed = (.ok (.ok d) : Except Panic _) ∧ updated = update d := by
  cases parsed with
  | error panic => cases h
  | ok result =>
    cases result with
    | error e => cases h
    | ok d =>
      cases h
      exact ⟨d, rfl, rfl⟩

namespace AutoReadRoutine

/-- The dispatcher runs the routine that has the first byte for its command. -/
lemma handleAutoFrame_of_accepted {routine : AutoReadRoutine} {category : AutoReadCategory}
    (listed : routine ∈ category.routines) {config : Config} {state : SatelState} {data : Frame}
    {clock : Clock} {updated : Updated}
    (accepted : routine.apply config state (routine.command :: data) clock =
      (.ok (.ok updated) : Except Panic _)) :
    handleAutoFrame config state (routine.command :: data) clock = .ok updated := by
  cases routine with
  | flags category =>
    obtain ⟨d, parsed, rfl⟩ := accepted_bind accepted
    have arm := handleAutoFrame_category config state category data clock
    exact arm.trans (ifParsed_of_ok parsed)
  | systemStatus =>
    obtain ⟨status, parsed, rfl⟩ := accepted_bind accepted
    exact ifParsed_of_ok parsed
  | troubles cmd =>
    have arm : handleAutoFrame config state (cmd.toByte :: data) clock =
        handleAutoTroubles config state cmd.toByte (cmd.toByte :: data) := by
      cases category <;> simp only [AutoReadCategory.routines, List.mem_cons, List.not_mem_nil,
        or_false, reduceCtorEq, false_or, troubles.injEq] at listed
      all_goals
        rcases listed with rfl | rfl | rfl | rfl | rfl | rfl | rfl | rfl <;> rfl
    refine arm.trans ?_
    rw [handleAutoTroubles, SatelCommand.fromByte_toByte]
    simp only [sliceFrom_cons_one, bind, Except.bind]
    exact ifParsed_of_ok accepted

/-- The update behind an accepted frame writes the parts of the command of the routine. -/
lemma apply_writesOnly {routine : AutoReadRoutine} {config : Config} {state : SatelState}
    {frame : Frame} {clock : Clock} {updated : Updated}
    (accepted : routine.apply config state frame clock = (.ok (.ok updated) : Except Panic _)) :
    WritesOnly routine.command state updated.1 := by
  cases routine with
  | flags category =>
    obtain ⟨d, -, rfl⟩ := accepted_bind accepted
    exact flags_writesOnly category config state d false
  | systemStatus =>
    obtain ⟨status, -, rfl⟩ := accepted_bind accepted
    exact systemStatus_writesOnly config state status
  | troubles cmd =>
    have step : TroubleFrame.step state ⟨config, cmd, frame.tail⟩ = updated := by
      have reached : updateTroublesInternal config state cmd frame.tail =
        (.ok (.ok updated) : Except Panic _) := accepted
      rw [TroubleFrame.step, troublesStep, reached]
    exact step ▸ troubles_writesOnly state ⟨config, cmd, frame.tail⟩

end AutoReadRoutine

/-! ### Reported -/

namespace AutoReadCategory

/-- The mask asks for a command of the category. -/
def Requested (mask : List UInt8) (category : AutoReadCategory) : Prop :=
  ∃ c ∈ category.commands, maskBit mask c.toNat = true

lemma commands_ne_nil (category : AutoReadCategory) : category.commands ≠ [] := by
  cases category <;> decide

/-- A category has a bit of its own in the mask if it is enabled, and else none. -/
lemma requested_iff (config : Config) (support14ByteMask : Bool) (category : AutoReadCategory) :
    category.Requested (SatelConnectionWorker.connectBuildPushMask config support14ByteMask) ↔
      category.enabled config = true := by
  constructor
  · rintro ⟨c, hc, bit⟩
    obtain ⟨category', enabled, hc'⟩ := (connectBuildPushMask_bit config _ c).mp bit
    exact eq_of_mem_commands hc hc' ▸ enabled
  · intro enabled
    obtain ⟨c, hc⟩ := List.exists_mem_of_ne_nil _ category.commands_ne_nil
    exact ⟨c, hc, (connectBuildPushMask_bit config _ c).mpr ⟨category, enabled, hc⟩⟩

/-- What the report says of a category after a successful reply. -/
def reported (config : Config) (category : AutoReadCategory) : AutoReadItemStatus where
  name := category.name
  state := if category.enabled config then .active else .notRequested

lemma reported_active (config : Config) (category : AutoReadCategory) :
    (category.reported config).state = .active ↔ category.enabled config = true := by
  cases h : category.enabled config <;> simp [reported, h]

lemma reported_notRequested (config : Config) (category : AutoReadCategory) :
    (category.reported config).state = .notRequested ↔ category.enabled config = false := by
  cases h : category.enabled config <;> simp [reported, h]

end AutoReadCategory

lemma autoReadItemState_of_success (support14Byte : Bool) (errorCode : Option UInt8)
    {byteIdx : Nat} (low : byteIdx ≤ 4) (requested : Bool) :
    autoReadItemState (pushMaskLen support14Byte) true errorCode byteIdx requested =
      if requested then .active else .notRequested := by
  have inside : ¬ pushMaskLen support14Byte ≤ byteIdx := by
    have long : 12 ≤ pushMaskLen support14Byte := by cases support14Byte <;> decide
    omega
  cases requested with
  | true => simp [autoReadItemState, inside]
  | false => rfl

/-- The byte of every entry lies in both kinds of mask, so only the flag decides. -/
lemma processAutoReadResponse_of_success {response : Frame}
    (success : autoReadSuccess response = .ok true) (config : Config) (support14Byte : Bool) :
    processAutoReadResponse config support14Byte response = .ok
      { items := AutoReadCategory.all.map (AutoReadCategory.reported config)
        successCount := AutoReadCategory.all.countP (AutoReadCategory.enabled config)
        totalRequested := AutoReadCategory.all.countP (AutoReadCategory.enabled config) } := by
  have low : ∀ entry ∈ autoReadDefs config, entry.2.1 ≤ 4 := by
    simp [autoReadDefs]
  have items (item : String × Nat × Bool → AutoReadItemStatus)
      (hitem : ∀ entry, item entry =
        ⟨entry.1, autoReadItemState (pushMaskLen support14Byte) true none entry.2.1 entry.2.2⟩) :
      (autoReadDefs config).map item = AutoReadCategory.all.map (AutoReadCategory.reported config) := by
    calc _ = (autoReadDefs config).map fun entry =>
          { name := entry.1, state := if entry.2.2 then .active else .notRequested :
            AutoReadItemStatus } := by
          refine List.map_congr_left ?_
          intro entry hentry
          rw [hitem, autoReadItemState_of_success support14Byte none (low _ hentry)]
      _ = _ := rfl
  have active : (AutoReadCategory.all.map (AutoReadCategory.reported config)).countP
      (fun item => item.state == .active) =
        AutoReadCategory.all.countP (AutoReadCategory.enabled config) := by
    rw [List.countP_map]
    refine List.countP_congr ?_
    intro category _
    simp [AutoReadCategory.reported_active]
  have requested : (AutoReadCategory.all.map (AutoReadCategory.reported config)).countP
      (fun item => item.state != .notRequested) =
        AutoReadCategory.all.countP (AutoReadCategory.enabled config) := by
    rw [List.countP_map]
    refine List.countP_congr ?_
    intro category _
    simp [AutoReadCategory.reported_notRequested]
  have code : autoReadErrorCode true response = .ok none := rfl
  rw [processAutoReadResponse, success, ok_bind, code, ok_bind]
  have few : AutoReadCategory.all.countP (AutoReadCategory.enabled config) < 65536 :=
    Nat.lt_of_le_of_lt List.countP_le_length (by decide)
  simp only [items _ fun _ => rfl, active, requested, fit_usize few, ok_bind]
  rfl

/-- The three tables agree. A bit of the mask is set exactly if its command is of an enabled
category; an accepted frame with a command of a category takes the update of its own routine and
leaves every part of the cache that belongs to another category; and after a successful reply
exactly the requested categories are reported active, and both counts are their number. -/
theorem requested_handled_reported :
    (∀ config support14ByteMask c,
      maskBit (SatelConnectionWorker.connectBuildPushMask config support14ByteMask)
          (UInt8.toNat c) = true ↔
        ∃ category : AutoReadCategory, category.enabled config = true ∧ c ∈ category.commands) ∧
    (∀ (category category' : AutoReadCategory) c,
      c ∈ category.commands → c ∈ category'.commands → category = category') ∧
    (∀ (category : AutoReadCategory), ∀ routine ∈ category.routines,
      ∀ config state data clock updated,
        routine.apply config state (routine.command :: data) clock =
          (.ok (.ok updated) : Except Panic _) →
        handleAutoFrame config state (routine.command :: data) clock = .ok updated ∧
          (∀ part : CachePart, part.command ∉ category.commands →
            part.Unchanged state updated.1) ∧
          SameConnection state updated.1) ∧
    (∀ config support14Byte support14ByteMask response, autoReadSuccess response = .ok true →
      ∃ report, processAutoReadResponse config support14Byte response = .ok report ∧
        List.Forall₂ (fun (category : AutoReadCategory) item => item.name = category.name ∧
          (item.state = .active ↔ category.Requested
            (SatelConnectionWorker.connectBuildPushMask config support14ByteMask)))
          AutoReadCategory.all report.items ∧
        report.successCount = AutoReadCategory.all.countP (AutoReadCategory.enabled config) ∧
        report.totalRequested = report.successCount) := by
  refine ⟨connectBuildPushMask_bit, ?_, ?_, ?_⟩
  · intro category category' c h h'
    exact AutoReadCategory.eq_of_mem_commands h h'
  · intro category routine listed config state data clock updated accepted
    have only := AutoReadRoutine.apply_writesOnly accepted
    refine ⟨AutoReadRoutine.handleAutoFrame_of_accepted listed accepted, ?_, only.rest⟩
    intro part foreign
    apply only.parts
    intro same
    exact foreign (same ▸ List.mem_map_of_mem listed)
  · intro config support14Byte support14ByteMask response success
    refine ⟨_, processAutoReadResponse_of_success success config support14Byte, ?_, rfl, rfl⟩
    refine List.forall₂_map_right_iff.mpr (List.forall₂_same.mpr ?_)
    intro category _
    refine ⟨rfl, ?_⟩
    rw [AutoReadCategory.reported_active, AutoReadCategory.requested_iff]

/-- A frame of output states reaches the cache, and the panel accepts a request for them. -/
theorem requested_handled_reported_outputs :
    (∃ updated, handleAutoFrame {} (SatelState.new 0) (0x17 :: List.replicate 16 0)
        ⟨⟨0, Nat.zero_le _⟩, fun _ _ _ _ _ _ => none⟩ = .ok updated ∧
      SameConnection (SatelState.new 0) updated.1) ∧
      ∃ report, processAutoReadResponse { autoReadOutputsState := true } true [0xEF, 0xFF] =
        .ok report ∧ report.totalRequested = report.successCount := by
  obtain ⟨-, -, handled, reported⟩ := requested_handled_reported
  constructor
  · obtain ⟨arm, -, same⟩ := handled .outputsState (.flags .outputs) (by decide) {} (SatelState.new 0)
      (List.replicate 16 0) ⟨⟨0, Nat.zero_le _⟩, fun _ _ _ _ _ _ => none⟩ _ rfl
    exact ⟨_, arm, same⟩
  · obtain ⟨report, parsed, -, -, counts⟩ :=
      reported { autoReadOutputsState := true } true true [0xEF, 0xFF] rfl
    exact ⟨report, parsed, counts⟩

end SatelIntegra
