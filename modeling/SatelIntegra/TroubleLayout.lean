import Mathlib.Data.List.TakeWhile
import SatelIntegra.TroubleParsers

/-!
# Which data bits stand for which trouble

A slot is a trouble key together with the bits of the data that stand for it. The
rules of a command have a list of slots, and the flags that `decodeTroubles`
yields are those slots in order, read off the data; a reserved bit is left out
while it is clear. No key has slots in two commands.
-/

namespace SatelIntegra

open CheckedAccess

structure Slot where
  trouble : TroubleType
  memory : Bool
  byte : Nat
  mask : UInt8
  /-- The decoder is silent about the slot while its bits are clear. -/
  onlyActive : Bool := false
  deriving DecidableEq, Repr

namespace Slot

abbrev Key := TroubleType × Bool

def key (slot : Slot) : Key := (slot.trouble, slot.memory)

/-- Some bit that stands for the trouble is set. -/
def raised (slot : Slot) (data : Frame) : Bool := data.getD slot.byte 0 &&& slot.mask != 0

def reported (slots : List Slot) (data : Frame) : List (Key × Bool) :=
  (slots.filter fun slot => !slot.onlyActive || slot.raised data).map fun slot =>
    (slot.key, slot.raised data)

lemma reported_append (slots slots' : List Slot) (data : Frame) :
    reported (slots ++ slots') data = reported slots data ++ reported slots' data := by
  simp [reported]

lemma mem_reported {slots : List Slot} {data : Frame} {key : Key} {active : Bool} :
    (key, active) ∈ reported slots data ↔
      ∃ slot ∈ slots, slot.key = key ∧ slot.raised data = active ∧
        (slot.onlyActive = true → active = true) := by
  constructor
  · intro h
    obtain ⟨slot, hslot, heq⟩ := List.mem_map.mp h
    obtain ⟨hmem, hvisible⟩ := List.mem_filter.mp hslot
    cases heq
    refine ⟨slot, hmem, rfl, rfl, ?_⟩
    intro ho
    simpa [ho] using hvisible
  · rintro ⟨slot, hmem, rfl, rfl, hvisible⟩
    refine List.mem_map.mpr ⟨slot, List.mem_filter.mpr ⟨hmem, ?_⟩, rfl⟩
    cases ho : slot.onlyActive with
    | false => rfl
    | true => simpa using hvisible ho

end Slot

section Layout

def bitMask (bit : Nat) : UInt8 := 1 <<< UInt8.ofNat bit

/-- One trouble for each bit, from the least significant bit of `data[offset]` on. -/
def bitSlots (offset : Nat) (memory : Bool) (troubles : List TroubleType) : List Slot :=
  troubles.zipIdx.map fun (trouble, i) =>
    { trouble, memory, byte := offset + i / 8, mask := bitMask (i % 8),
      onlyActive := trouble.isGeneric }

def Extractor.slots (memory : Bool) : Extractor → List Slot
  | .systemTroubles => bitSlots 40 memory SatelIntegra.systemTroubles
  | .ethmPtsaStatus => bitSlots 46 memory ethmPtsaTroubles
  | .auxStm => [{ trouble := .auxiliaryStmTroubles, memory, byte := 29, mask := 0xFF }]
  | .acuJamLevel => []
  | .acuJamLevel16To30 => []
  | .panelCme => []
  | .gsmBlock => (List.range 8).flatMap fun module =>
      bitSlots (module * 8) memory (gsmTroubles module)

/-- The troubles of a bit field, numbered from `startNum`. -/
def numbered (count : Nat) (startNum : UInt16) (constructor : UInt16 → TroubleType) :
    List TroubleType :=
  (List.range count).map fun i => constructor (startNum + UInt16.ofNat i)

def FieldRule.slots : FieldRule → List Slot
  | .bitmask offset length startNum memory constructor =>
    bitSlots offset memory (numbered (8 * length) startNum constructor)
  | .moduleMask offset memory constructor =>
    bitSlots offset memory ((List.range 8).map fun bit => constructor (UInt8.ofNat (bit + 1)))
  | .bitmaskLimit offset _ limit startNum memory constructor =>
    bitSlots offset memory (numbered limit startNum constructor)
  | .custom memory extractor => extractor.slots memory

/-- The commands that have rules. -/
def troubleCommands : List UInt8 :=
  [0x1B, 0x20, 0x1C, 0x21, 0x1D, 0x22, 0x1E, 0x23, 0x1F, 0x24, 0x2C, 0x2E, 0x2D, 0x2F, 0x30, 0x31]

def layout (cmd : UInt8) : List Slot :=
  match getRules cmd with
  | none => []
  | some (_, rules) => rules.flatMap FieldRule.slots

/-- The decoder accepts the frame. -/
def AcceptsTroubles (cmd : UInt8) (data : Frame) : Prop :=
  match getRules cmd with
  | none => False
  | some (expectedLen, _) => expectedLen ≤ data.length

instance (cmd : UInt8) (data : Frame) : Decidable (AcceptsTroubles cmd data) := by
  unfold AcceptsTroubles
  cases getRules cmd <;> infer_instance

end Layout

section Decoding
variable {data : Frame} {memory : Bool}

/-- Bit `i` of the field that starts at `offset`. -/
def fieldBit (data : Frame) (offset i : Nat) : Bool := bitSet (data.getD (offset + i / 8) 0) (i % 8)

def flagsOf (items : List TroubleItem) : List (Slot.Key × Bool) :=
  items.filterMap fun
    | .flag trouble memory active => some ((trouble, memory), active)
    | _ => none

lemma flagsOf_append (items items' : List TroubleItem) :
    flagsOf (items ++ items') = flagsOf items ++ flagsOf items' :=
  List.filterMap_append

lemma flagsOf_flatten (parts : List (List TroubleItem)) :
    flagsOf parts.flatten = parts.flatMap flagsOf := by
  induction parts with
  | nil => rfl
  | cons part parts ih =>
    rw [List.flatten_cons, flagsOf_append, ih, List.flatMap_cons]

lemma flagsOf_flags (rules : List (TroubleType × Bool)) :
    flagsOf (flags memory rules) = rules.map fun (trouble, active) => ((trouble, memory), active) := by
  simp [flagsOf, flags, List.filterMap_map]

lemma zipIdx_map_range {α : Type} (f : Nat → α) (n : Nat) :
    ((List.range n).map f).zipIdx = (List.range n).map fun i => (f i, i) := by
  apply List.ext_getElem
  · simp
  · intro i h₁ h₂
    simp

lemma zip_map_range {α β : Type} (xs : List α) (f : Nat → β) :
    xs.zip ((List.range xs.length).map f) = xs.zipIdx.map fun (x, i) => (x, f i) := by
  apply List.ext_getElem
  · simp
  · intro i h₁ h₂
    simp

lemma reported_bitSlots (offset : Nat) (troubles : List TroubleType) :
    Slot.reported (bitSlots offset memory troubles) data =
      ((troubles.zipIdx.map fun (trouble, i) => (trouble, fieldBit data offset i)).filter
        fun (trouble, active) => !trouble.isGeneric || active).map
          fun (trouble, active) => ((trouble, memory), active) := by
  unfold Slot.reported bitSlots
  rw [List.filter_map, List.filter_map, List.map_map, List.map_map]
  rfl

/-- The bits of a slice of the data, in order. -/
lemma extractBits_slice (data : Frame) (offset length : Nat)
    (h : offset + length ≤ data.length) :
    extractBits ((data.drop offset).take length) =
      (List.range (8 * length)).map (fieldBit data offset) := by
  have hlen : ((data.drop offset).take length).length = length := by
    simp only [List.length_take, List.length_drop]
    omega
  rw [extractBits, flatMap_byteBits, hlen]
  refine List.map_congr_left fun i hi => ?_
  have inside : i / 8 < length := by
    have := List.mem_range.mp hi
    omega
  simp [maskBit, fieldBit, inside]

lemma slice_three {offset : Nat} (h : offset + 3 ≤ data.length) :
    (data.drop offset).take 3 = [data[offset], data[offset + 1], data[offset + 2]] := by
  rw [List.drop_eq_getElem_cons (by omega), List.drop_eq_getElem_cons (by omega),
    List.drop_eq_getElem_cons (by omega)]
  rfl

lemma decodeBitmask_eq {offset length limit : Nat} {startNum : UInt16}
    {constructor : UInt16 → TroubleType} (inside : offset + length ≤ data.length)
    (near : offset + length < 8192) (limited : limit ≤ 8 * length)
    (small : startNum.toNat + limit ≤ UInt16.size) :
    decodeBitmask data offset length limit startNum memory constructor =
      .ok ((List.range limit).map fun i =>
        .flag (constructor (startNum + UInt16.ofNat i)) memory (fieldBit data offset i)) := by
  have bits : (extractBits ((data.drop offset).take length)).zipIdx.take limit =
      (List.range limit).map fun i => (fieldBit data offset i, i) := by
    rw [extractBits_slice data offset length inside, zipIdx_map_range, ← List.map_take, List.take_range,
      Nat.min_eq_left limited]
  have number : ∀ i ∈ List.range limit,
      addU16 startNum (UInt16.ofNat i) = .ok (startNum + UInt16.ofNat i) := by
    intro i hi
    have below := List.mem_range.mp hi
    have : (UInt16.ofNat i).toNat ≤ i := by
      rw [UInt16.toNat_ofNat']
      exact Nat.mod_le _ _
    exact if_pos (by omega)
  have short : ((data.drop offset).take length).length < 8192 := by
    rw [List.length_take]
    omega
  unfold decodeBitmask
  rw [fit_usize (by omega), ok_bind, slice_of_le data _ _ (by omega) inside,
    Nat.add_sub_cancel_left, ok_bind, extractBitsChecked_short short, ok_bind, bits, List.mapM_map]
  apply mapM_ok
  intro i hi
  simp only [Function.comp_apply, number i hi]
  rfl

lemma flagsOf_range {trouble : Nat → TroubleType} (offset n : Nat)
    (specific : ∀ i, (trouble i).isGeneric = false) :
    flagsOf ((List.range n).map fun i => .flag (trouble i) memory (fieldBit data offset i)) =
      Slot.reported (bitSlots offset memory ((List.range n).map trouble)) data := by
  rw [reported_bitSlots, zipIdx_map_range, List.map_map, List.filter_eq_self.mpr]
  · simp [flagsOf, List.filterMap_map, Function.comp_def]
  · intro p hp
    obtain ⟨i, _, rfl⟩ := List.mem_map.mp hp
    simp [specific]

lemma flagsOf_table {offset : Nat} {troubles : List TroubleType} {bits : List Bool}
    (hbits : bits = (List.range troubles.length).map (fieldBit data offset))
    (specific : ∀ trouble ∈ troubles, trouble.isGeneric = false) :
    flagsOf (flags memory (troubles.zip bits)) =
      Slot.reported (bitSlots offset memory troubles) data := by
  rw [flagsOf_flags, hbits, zip_map_range, reported_bitSlots, List.filter_eq_self.mpr]
  intro p hp
  obtain ⟨⟨trouble, i⟩, hmem, rfl⟩ := List.mem_map.mp hp
  simp [specific trouble (List.fst_mem_of_mem_zipIdx hmem)]

/-- What the decoder needs of a rule to read it from `n` data bytes. -/
def FieldRule.Fits (n : Nat) : FieldRule → Prop
  | .bitmask offset length startNum _ constructor =>
    offset + length ≤ n ∧ offset + length < 8192 ∧ startNum.toNat + 8 * length ≤ UInt16.size ∧
      ∀ k, (constructor k).isGeneric = false
  | .moduleMask offset _ constructor => offset < n ∧ ∀ k, (constructor k).isGeneric = false
  | .bitmaskLimit offset length limit startNum _ constructor =>
    offset + length ≤ n ∧ offset + length < 8192 ∧ limit ≤ 8 * length ∧
      startNum.toNat + limit ≤ UInt16.size ∧ ∀ k, (constructor k).isGeneric = false
  | .custom _ .systemTroubles => 43 ≤ n
  | .custom _ .ethmPtsaStatus => 47 ≤ n
  | .custom _ .auxStm => 30 ≤ n
  | .custom _ .gsmBlock => 64 ≤ n
  | .custom _ _ => True

lemma FieldRule.Fits.mono {n m : Nat} (h : n ≤ m) {rule : FieldRule} (fits : rule.Fits n) :
    rule.Fits m := by
  cases rule with
  | bitmask => exact ⟨fits.1.trans h, fits.2⟩
  | moduleMask => exact ⟨fits.1.trans_le h, fits.2⟩
  | bitmaskLimit => exact ⟨fits.1.trans h, fits.2⟩
  | custom memory extractor =>
    cases extractor <;> first | exact trivial | exact Nat.le_trans fits h

/-- Four flag bytes and two codes make a module. -/
lemma decodeGsmModule_flags (data : Frame) (memory : Bool) (module : Nat)
    (small : module < 8) (inside : module * 8 + 8 ≤ data.length) :
    ∃ items, decodeGsmModule data memory module = .ok items ∧
      flagsOf items = Slot.reported (bitSlots (module * 8) memory (gsmTroubles module)) data := by
  have h (k : Nat) (hk : k < 8) := index_of_lt data (module * 8 + k) (by omega)
  have h₀ := index_of_lt data (module * 8) (by omega)
  have bits : byteBits data[module * 8] ++ byteBits data[module * 8 + 1] ++
      byteBits data[module * 8 + 2] ++ byteBits data[module * 8 + 3] =
        (List.range (gsmTroubles module).length).map (fieldBit data (module * 8)) := by
    have := extractBits_slice data (module * 8) 4 (by omega)
    rw [List.drop_eq_getElem_cons (by omega), List.take_succ_cons, slice_three (by omega)] at this
    simpa [extractBits, gsmTroubles] using this
  unfold decodeGsmModule
  simp (disch := omega) only [fit_usize, ok_bind, h₀, h 1 (by omega), h 2 (by omega),
    h 3 (by omega), h 4 (by omega), h 5 (by omega), h 6 (by omega), h 7 (by omega)]
  refine ⟨_, rfl, ?_⟩
  rw [flagsOf_append, bits, zip_map_range, flagsOf_flags, reported_bitSlots]
  exact List.append_nil _

lemma decodeGsmBlock_flags (long : 64 ≤ data.length) :
    ∃ items, decodeGsmBlock data memory = .ok items ∧
      flagsOf items = Slot.reported (Extractor.gsmBlock.slots memory) data := by
  have all : (List.range 8).takeWhile (fun module => ¬ data.length < module * 8 + 8) =
      List.range 8 := by
    refine List.takeWhile_eq_self_iff.mpr ?_
    intro module hm
    have := List.mem_range.mp hm
    simp only [decide_eq_true_eq]
    omega
  have each : ∀ module, ∃ items, module < 8 → decodeGsmModule data memory module = .ok items ∧
      flagsOf items = Slot.reported (bitSlots (module * 8) memory (gsmTroubles module)) data := by
    intro module
    by_cases hm : module < 8
    · obtain ⟨items, h⟩ := decodeGsmModule_flags data memory module hm (by omega)
      exact ⟨items, fun _ => h⟩
    · exact ⟨[], fun h => absurd h hm⟩
  choose items hitems using each
  refine ⟨((List.range 8).map items).flatten, ?_, ?_⟩
  · have loop := mapM_ok (f := decodeGsmModule data memory) (g := items) (List.range 8)
      fun module hm => (hitems module (List.mem_range.mp hm)).1
    unfold decodeGsmBlock
    rw [all]
    simp (disch := omega) only [fit_usize, ok_bind, loop]
    rfl
  · rw [flagsOf_flatten, List.flatMap_map]
    have split : ∀ modules : List Nat, (∀ module ∈ modules, module < 8) →
        modules.flatMap (fun module => flagsOf (items module)) =
          Slot.reported (modules.flatMap fun module =>
            bitSlots (module * 8) memory (gsmTroubles module)) data := by
      intro modules hm
      induction modules with
      | nil => rfl
      | cons module modules ih =>
        rw [List.flatMap_cons, List.flatMap_cons, Slot.reported_append,
          (hitems module (hm module List.mem_cons_self)).2,
          ih fun m h => hm m (List.mem_cons_of_mem _ h)]
    exact split (List.range 8) fun module hm => List.mem_range.mp hm

lemma extractor_flags {extractor : Extractor}
    (fits : (FieldRule.custom memory extractor).Fits data.length) :
    ∃ items, extractor.run data memory = .ok items ∧
      flagsOf items = Slot.reported (extractor.slots memory) data := by
  cases extractor with
  | systemTroubles =>
    have long : 43 ≤ data.length := fits
    have bits : byteBits data[40] ++ byteBits data[41] ++ byteBits data[42] =
        (List.range SatelIntegra.systemTroubles.length).map (fieldBit data 40) := by
      have := extractBits_slice data 40 3 (by omega)
      rw [slice_three (by omega)] at this
      simpa [extractBits, SatelIntegra.systemTroubles] using this
    refine ⟨_, ?_, flagsOf_table bits (by decide)⟩
    simp only [Extractor.run, decodeSystemTroubles, Nat.not_lt.mpr long, if_false,
      index_of_lt data 40 (by omega), index_of_lt data 41 (by omega),
      index_of_lt data 42 (by omega)]
    rfl
  | ethmPtsaStatus =>
    have long : 47 ≤ data.length := fits
    have bits : byteBits data[46] =
        (List.range ethmPtsaTroubles.length).map (fieldBit data 46) := by
      have := extractBits_slice data 46 1 (by omega)
      rw [List.drop_eq_getElem_cons (by omega), List.take_succ_cons, List.take_zero] at this
      simpa [extractBits, ethmPtsaTroubles] using this
    refine ⟨_, ?_, flagsOf_table bits (by decide)⟩
    simp only [Extractor.run, decodeEthmPtsaStatus, Nat.not_lt.mpr long, if_false,
      index_of_lt data 46 (by omega)]
    rfl
  | auxStm =>
    have long : 30 ≤ data.length := fits
    have byte := index_of_lt data 29 (by omega)
    refine ⟨[.flag .auxiliaryStmTroubles memory (data[29] != 0)], ?_, ?_⟩
    · simp only [Extractor.run, decodeAuxStm, byte, gt_iff_lt, show 29 < data.length by omega,
        if_true]
      rfl
    · have whole : data[29] &&& (0xFF : UInt8) = data[29] := UInt8.and_neg_one
      simp [flagsOf, Slot.reported, Slot.raised, Extractor.slots, Slot.key, whole,
        show 29 < data.length by omega]
  | acuJamLevel =>
    refine ⟨_, mapM_ok (g := fun i => .acuJamLevel (UInt8.ofNat (i + 1)) (data.getD i 0)) _ ?_, ?_⟩
    · intro i hi
      have below := List.mem_range.mp hi
      rw [fit_usize (by omega), index_getD data _ (by omega)]
      rfl
    · simp [flagsOf, Extractor.slots, Slot.reported]
  | acuJamLevel16To30 =>
    by_cases short : data.length < 47
    · refine ⟨[], ?_, rfl⟩
      simp only [Extractor.run, decodeAcuJamLevel16To30, short, if_true]
      rfl
    · have loop := mapM_ok (f := fun i => do
          return TroubleItem.acuJamLevel (UInt8.ofNat (← fit usizeBound (i + 16)))
            (← index data (← fit usizeBound (32 + i))))
        (g := fun i => .acuJamLevel (UInt8.ofNat (i + 16)) (data.getD (32 + i) 0))
        (List.range 15) (by
          intro i hi
          have below := List.mem_range.mp hi
          rw [fit_usize (by omega), fit_usize (by omega), ok_bind, ok_bind,
            index_getD data _ (by omega)]
          rfl)
      have decoded : decodeAcuJamLevel16To30 data memory = .ok ((List.range 15).map fun i =>
          .acuJamLevel (UInt8.ofNat (i + 16)) (data.getD (32 + i) 0)) := by
        simp only [decodeAcuJamLevel16To30, short, if_false]
        exact loop
      refine ⟨_, decoded, ?_⟩
      simp [flagsOf, Extractor.slots, Slot.reported]
  | panelCme =>
    by_cases long : data.length ≥ 39
    · refine ⟨[.cmeError .panel 1 false (beU16 data[35] data[36]),
        .cmeError .panel 1 true (beU16 data[37] data[38])], ?_, rfl⟩
      simp only [Extractor.run, decodePanelCme, long, if_true,
        index_of_lt data 35 (by omega), index_of_lt data 36 (by omega),
        index_of_lt data 37 (by omega), index_of_lt data 38 (by omega)]
      rfl
    · refine ⟨[], ?_, rfl⟩
      simp only [Extractor.run, decodePanelCme, long, if_false]
      rfl
  | gsmBlock => exact decodeGsmBlock_flags fits

/-- A rule that fits yields its slots, as the data has them. -/
theorem decodeRule_flags {rule : FieldRule} (fits : rule.Fits data.length) :
    ∃ items, decodeRule data rule = .ok items ∧
      flagsOf items = Slot.reported rule.slots data := by
  cases rule with
  | bitmask offset length startNum memory constructor =>
    obtain ⟨inside, near, small, specific⟩ := fits
    exact ⟨_, decodeBitmask_eq inside near le_rfl small, flagsOf_range _ _ fun _ => specific _⟩
  | bitmaskLimit offset length limit startNum memory constructor =>
    obtain ⟨inside, near, limited, small, specific⟩ := fits
    exact ⟨_, decodeBitmask_eq inside near limited small, flagsOf_range _ _ fun _ => specific _⟩
  | moduleMask offset memory constructor =>
    obtain ⟨inside, specific⟩ := fits
    refine ⟨_, ?_, flagsOf_range offset 8 fun i => specific (UInt8.ofNat (i + 1))⟩
    simp only [decodeRule, index_getD data offset inside, ok_bind]
    apply mapM_ok
    intro bit hbit
    have below := List.mem_range.mp hbit
    have small : bit / 8 = 0 ∧ bit % 8 = bit := by omega
    have number : fit i32Bound (bit + 1) = .ok (bit + 1) := fit_of_lt (by rw [i32Bound]; omega)
    simp only [number, ok_bind, fieldBit, small.1, small.2, Nat.add_zero]
    rfl
  | custom memory extractor => exact extractor_flags fits

lemma decodeRules_flags (rules : List FieldRule) (fits : ∀ rule ∈ rules, rule.Fits data.length) :
    ∃ parts, rules.mapM (decodeRule data) = .ok parts ∧
      flagsOf parts.flatten = Slot.reported (rules.flatMap FieldRule.slots) data := by
  induction rules with
  | nil => exact ⟨[], rfl, rfl⟩
  | cons rule rules ih =>
    obtain ⟨items, hitems, hflags⟩ := decodeRule_flags (fits rule List.mem_cons_self)
    obtain ⟨parts, hparts, hrest⟩ := ih fun r hr => fits r (List.mem_cons_of_mem _ hr)
    refine ⟨items :: parts, ?_, ?_⟩
    · rw [List.mapM_cons, hitems, hparts]
      rfl
    · rw [List.flatten_cons, flagsOf_append, hflags, hrest, List.flatMap_cons,
        Slot.reported_append]

lemma getRules_fit {cmd : UInt8} {n : Nat} {rules : List FieldRule}
    (h : getRules cmd = some (n, rules)) : ∀ rule ∈ rules, rule.Fits n := by
  unfold getRules at h
  split at h <;> cases h <;> simp [FieldRule.Fits, TroubleType.isGeneric, UInt16.size]

/-- The decoder accepts exactly the frames that are long enough for their command, and
yields the slots of the command. -/
theorem decodeTroubles_flags (cmd : UInt8) (data : Frame) :
    (AcceptsTroubles cmd data ∧ ∃ items,
        decodeTroubles cmd data = (.ok (.ok items) : Except Panic _) ∧
        flagsOf items = Slot.reported (layout cmd) data) ∨
      (¬ AcceptsTroubles cmd data ∧
        decodeTroubles cmd data = (.ok (.error .invalidFrame) : Except Panic _)) := by
  unfold AcceptsTroubles decodeTroubles layout
  cases hr : getRules cmd with
  | none => exact .inr ⟨id, rfl⟩
  | some entry =>
    obtain ⟨n, rules⟩ := entry
    by_cases long : n ≤ data.length
    · obtain ⟨parts, hparts, hflags⟩ := decodeRules_flags rules
        fun rule hrule => (getRules_fit hr rule hrule).mono long
      refine .inl ⟨long, parts.flatten, ?_, hflags⟩
      simp only [Nat.not_lt.mpr long, if_false, hparts]
      rfl
    · refine .inr ⟨long, ?_⟩
      simp only [Nat.not_le.mp long, if_true]
      rfl

lemma flagsOf_decoded {cmd : UInt8} {items : List TroubleItem}
    (h : decodeTroubles cmd data = (.ok (.ok items) : Except Panic _)) :
    flagsOf items = Slot.reported (layout cmd) data := by
  rcases decodeTroubles_flags cmd data with ⟨-, items', hdecode, hflags⟩ | ⟨-, hdecode⟩
  · cases hdecode.symm.trans h
    exact hflags
  · cases hdecode.symm.trans h

end Decoding

end SatelIntegra
