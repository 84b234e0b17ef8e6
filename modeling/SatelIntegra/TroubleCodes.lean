import SatelIntegra.TroubleLayout

/-!
# Which data bytes hold a jam level or an error code

The items of a frame are of three kinds. The flags are the slots of the command;
here are the other two: a jam level is one byte of the data, an error code two
bytes with the high one first. A command lists the keys and the bytes of both.
-/

namespace SatelIntegra

open CheckedAccess

abbrev CodeKey := CmeSource × UInt8 × Bool

section Layout

/-- The modules whose jam levels an extractor yields, and the byte of each. -/
def Extractor.levels : Extractor → List (UInt8 × Nat)
  | .acuJamLevel => (List.range 15).map fun i => (UInt8.ofNat (i + 1), i)
  | .acuJamLevel16To30 => (List.range 15).map fun i => (UInt8.ofNat (i + 16), 32 + i)
  | _ => []

/-- The keys of the error codes, and the first byte of each. -/
def Extractor.codes (memory : Bool) : Extractor → List (CodeKey × Nat)
  | .panelCme => [((.panel, 1, false), 35), ((.panel, 1, true), 37)]
  | .gsmBlock => (List.range 8).flatMap fun module =>
      [((.gsmModule (UInt8.ofNat module), 1, memory), module * 8 + 4),
       ((.gsmModule (UInt8.ofNat module), 2, memory), module * 8 + 6)]
  | _ => []

def FieldRule.levels : FieldRule → List (UInt8 × Nat)
  | .custom _ extractor => extractor.levels
  | _ => []

def FieldRule.codes : FieldRule → List (CodeKey × Nat)
  | .custom memory extractor => extractor.codes memory
  | _ => []

def levelLayout (cmd : UInt8) : List (UInt8 × Nat) :=
  match getRules cmd with
  | none => []
  | some (_, rules) => rules.flatMap FieldRule.levels

def codeLayout (cmd : UInt8) : List (CodeKey × Nat) :=
  match getRules cmd with
  | none => []
  | some (_, rules) => rules.flatMap FieldRule.codes

end Layout

def levelsOf (items : List TroubleItem) : List (UInt8 × UInt8) :=
  items.filterMap fun
    | .acuJamLevel module level => some (module, level)
    | _ => none

def codesOf (items : List TroubleItem) : List (CodeKey × UInt16) :=
  items.filterMap fun
    | .cmeError source sim memory code => some ((source, sim, memory), code)
    | _ => none

/-- The big-endian word that starts at a byte. -/
def wordAt (data : Frame) (byte : Nat) : UInt16 := beU16 (data.getD byte 0) (data.getD (byte + 1) 0)

def readLevels (data : Frame) (places : List (UInt8 × Nat)) : List (UInt8 × UInt8) :=
  places.map fun (module, byte) => (module, data.getD byte 0)

def readCodes (data : Frame) (places : List (CodeKey × Nat)) : List (CodeKey × UInt16) :=
  places.map fun (key, byte) => (key, wordAt data byte)

section Decoding
variable {data : Frame} {memory : Bool}

/-- What the decoder needs to find all levels and codes of a rule in `n` data bytes. -/
def FieldRule.Whole (n : Nat) : FieldRule → Prop
  | .custom _ .acuJamLevel => 15 ≤ n
  | .custom _ .acuJamLevel16To30 => 47 ≤ n
  | .custom _ .panelCme => 39 ≤ n
  | .custom _ .gsmBlock => 64 ≤ n
  | _ => True

lemma FieldRule.Whole.mono {n m : Nat} (h : n ≤ m) {rule : FieldRule} (whole : rule.Whole n) :
    rule.Whole m := by
  cases rule with
  | custom memory extractor =>
    cases extractor <;> first | exact trivial | exact Nat.le_trans whole h
  | _ => exact trivial

lemma getRules_whole {cmd : UInt8} {n : Nat} {rules : List FieldRule}
    (h : getRules cmd = some (n, rules)) : ∀ rule ∈ rules, rule.Whole n := by
  unfold getRules at h
  split at h <;> cases h <;> simp [FieldRule.Whole]

/-- A list of items without levels and codes. -/
def OnlyFlags (items : List TroubleItem) : Prop := levelsOf items = [] ∧ codesOf items = []

lemma onlyFlags_of_forall {items : List TroubleItem}
    (h : ∀ item ∈ items, ∃ trouble memory active, item = .flag trouble memory active) :
    OnlyFlags items := by
  constructor
  · refine List.filterMap_eq_nil_iff.mpr ?_
    intro item hitem
    obtain ⟨trouble, memory, active, rfl⟩ := h item hitem
    rfl
  · refine List.filterMap_eq_nil_iff.mpr ?_
    intro item hitem
    obtain ⟨trouble, memory, active, rfl⟩ := h item hitem
    rfl

lemma onlyFlags_flags (memory : Bool) (rules : List (TroubleType × Bool)) :
    OnlyFlags (flags memory rules) := by
  apply onlyFlags_of_forall
  intro item hitem
  obtain ⟨⟨trouble, active⟩, -, rfl⟩ := List.mem_map.mp hitem
  exact ⟨trouble, memory, active, rfl⟩

/-- Every item of a loop that ends was made by one of its steps. -/
lemma mem_of_mapM {α β : Type} {f : α → Except Panic β} :
    ∀ {xs : List α} {ys : List β}, xs.mapM f = .ok ys → ∀ y ∈ ys, ∃ x ∈ xs, f x = .ok y := by
  intro xs
  induction xs with
  | nil =>
    intro ys h y hy
    cases h
    cases hy
  | cons x xs ih =>
    intro ys h y hy
    rw [List.mapM_cons] at h
    obtain ⟨first, hfirst, h⟩ := bind_eq_ok.mp h
    obtain ⟨rest, hrest, h⟩ := bind_eq_ok.mp h
    cases h
    rcases List.mem_cons.mp hy with rfl | hy
    · exact ⟨x, List.mem_cons_self, hfirst⟩
    · obtain ⟨x', hmem, hx'⟩ := ih hrest y hy
      exact ⟨x', List.mem_cons_of_mem _ hmem, hx'⟩

lemma decodeBitmask_onlyFlags {offset length limit : Nat} {startNum : UInt16}
    {constructor : UInt16 → TroubleType} {items : List TroubleItem}
    (h : decodeBitmask data offset length limit startNum memory constructor = .ok items) :
    OnlyFlags items := by
  apply onlyFlags_of_forall
  intro item hitem
  obtain ⟨hi, -, h⟩ := bind_eq_ok.mp h
  obtain ⟨bytes, -, h⟩ := bind_eq_ok.mp h
  obtain ⟨bits, -, loop⟩ := bind_eq_ok.mp h
  obtain ⟨⟨active, i⟩, -, step⟩ := mem_of_mapM loop item hitem
  obtain ⟨number, -, made⟩ := bind_eq_ok.mp step
  cases made
  exact ⟨_, _, _, rfl⟩

lemma levelsOf_append (items items' : List TroubleItem) :
    levelsOf (items ++ items') = levelsOf items ++ levelsOf items' :=
  List.filterMap_append

lemma codesOf_append (items items' : List TroubleItem) :
    codesOf (items ++ items') = codesOf items ++ codesOf items' :=
  List.filterMap_append

lemma decodeGsmModule_words {module : Nat} (small : module < 8) (inside : module * 8 + 8 ≤ data.length)
    {items : List TroubleItem} (h : decodeGsmModule data memory module = .ok items) :
    levelsOf items = [] ∧ codesOf items = readCodes data
      [((.gsmModule (UInt8.ofNat module), 1, memory), module * 8 + 4),
       ((.gsmModule (UInt8.ofNat module), 2, memory), module * 8 + 6)] := by
  have byte (k : Nat) (hk : k < 8) := index_getD data (module * 8 + k) (by omega)
  have byte_zero := index_getD data (module * 8) (by omega)
  unfold decodeGsmModule at h
  simp (disch := omega) only [fit_usize, ok_bind, byte_zero, byte 1 (by omega), byte 2 (by omega),
    byte 3 (by omega), byte 4 (by omega), byte 5 (by omega), byte 6 (by omega),
    byte 7 (by omega)] at h
  cases h
  obtain ⟨nolevels, nocodes⟩ := onlyFlags_flags memory _
  rw [levelsOf_append, codesOf_append, nolevels, nocodes]
  exact ⟨rfl, rfl⟩

lemma decodeGsmBlock_words (long : 64 ≤ data.length) {items : List TroubleItem}
    (h : decodeGsmBlock data memory = .ok items) :
    levelsOf items = [] ∧ codesOf items = readCodes data (Extractor.gsmBlock.codes memory) := by
  have all : (List.range 8).takeWhile (fun module => ¬ data.length < module * 8 + 8) =
      List.range 8 := by
    refine List.takeWhile_eq_self_iff.mpr ?_
    intro module hm
    have := List.mem_range.mp hm
    simp only [decide_eq_true_eq]
    omega
  unfold decodeGsmBlock at h
  rw [all] at h
  simp (disch := omega) only [fit_usize, ok_bind] at h
  obtain ⟨parts, hparts, h⟩ := bind_eq_ok.mp h
  cases h
  -- over the modules still to come
  have each : ∀ (modules : List Nat) (parts : List (List TroubleItem)),
      (∀ module ∈ modules, module < 8) → modules.mapM (decodeGsmModule data memory) = .ok parts →
      levelsOf parts.flatten = [] ∧ codesOf parts.flatten =
        readCodes data (modules.flatMap fun module =>
          [((.gsmModule (UInt8.ofNat module), 1, memory), module * 8 + 4),
           ((.gsmModule (UInt8.ofNat module), 2, memory), module * 8 + 6)]) := by
    intro modules
    induction modules with
    | nil =>
      intro parts _ hparts
      cases hparts
      exact ⟨rfl, rfl⟩
    | cons module modules ih =>
      intro parts small hparts
      rw [List.mapM_cons] at hparts
      obtain ⟨first, hfirst, hparts⟩ := bind_eq_ok.mp hparts
      obtain ⟨rest, hrest, hparts⟩ := bind_eq_ok.mp hparts
      cases hparts
      have below := small module List.mem_cons_self
      obtain ⟨levels, codes⟩ := decodeGsmModule_words below (by omega) hfirst
      obtain ⟨levels', codes'⟩ := ih rest (fun m hm => small m (List.mem_cons_of_mem _ hm)) hrest
      rw [List.flatten_cons, levelsOf_append, codesOf_append, levels, codes, levels', codes',
        List.flatMap_cons, readCodes, readCodes, readCodes, List.map_append]
      exact ⟨rfl, rfl⟩
  exact each (List.range 8) parts (fun module hm => List.mem_range.mp hm) hparts

lemma levelsOf_map (f : Nat → UInt8 × UInt8) (indices : List Nat) :
    levelsOf (indices.map fun i => .acuJamLevel (f i).1 (f i).2) = indices.map f ∧
      codesOf (indices.map fun i => .acuJamLevel (f i).1 (f i).2) = [] := by
  constructor
  · simp [levelsOf, List.filterMap_map]
  · simp [codesOf, List.filterMap_map]

lemma extractor_words {extractor : Extractor}
    (whole : (FieldRule.custom memory extractor).Whole data.length) {items : List TroubleItem}
    (h : extractor.run data memory = .ok items) :
    levelsOf items = readLevels data extractor.levels ∧
      codesOf items = readCodes data (extractor.codes memory) := by
  cases extractor with
  | systemTroubles =>
    simp only [Extractor.run, decodeSystemTroubles] at h
    split at h
    · cases h
      exact ⟨rfl, rfl⟩
    · obtain ⟨b1, -, h⟩ := bind_eq_ok.mp h
      obtain ⟨b2, -, h⟩ := bind_eq_ok.mp h
      obtain ⟨b3, -, h⟩ := bind_eq_ok.mp h
      cases h
      exact onlyFlags_flags memory _
  | ethmPtsaStatus =>
    simp only [Extractor.run, decodeEthmPtsaStatus] at h
    split at h
    · cases h
      exact ⟨rfl, rfl⟩
    · obtain ⟨p4, -, h⟩ := bind_eq_ok.mp h
      cases h
      exact onlyFlags_flags memory _
  | auxStm =>
    simp only [Extractor.run, decodeAuxStm] at h
    split at h
    · obtain ⟨byte, -, h⟩ := bind_eq_ok.mp h
      cases h
      exact ⟨rfl, rfl⟩
    · cases h
      exact ⟨rfl, rfl⟩
  | acuJamLevel =>
    have long : 15 ≤ data.length := whole
    have loop := mapM_ok (f := fun i => do
        return TroubleItem.acuJamLevel (UInt8.ofNat (← fit usizeBound (i + 1))) (← index data i))
      (g := fun i => .acuJamLevel (UInt8.ofNat (i + 1)) (data.getD i 0))
      (List.range (min 15 data.length)) (by
        intro i hi
        have below := List.mem_range.mp hi
        rw [fit_usize (by omega), index_getD data _ (by omega)]
        rfl)
    cases loop.symm.trans h
    rw [Nat.min_eq_left long]
    exact levelsOf_map (fun i => (UInt8.ofNat (i + 1), data.getD i 0)) (List.range 15)
  | acuJamLevel16To30 =>
    have long : 47 ≤ data.length := whole
    have loop := mapM_ok (f := fun i => do
        return TroubleItem.acuJamLevel (UInt8.ofNat (← fit usizeBound (i + 16)))
          (← index data (← fit usizeBound (32 + i))))
      (g := fun i => .acuJamLevel (UInt8.ofNat (i + 16)) (data.getD (32 + i) 0))
      (List.range 15) (by
        intro i hi
        have below := List.mem_range.mp hi
        rw [fit_usize (by omega), fit_usize (by omega), ok_bind, ok_bind,
          index_getD data _ (by omega)]
        rfl)
    simp only [Extractor.run, decodeAcuJamLevel16To30, Nat.not_lt.mpr long, if_false] at h
    cases loop.symm.trans h
    exact levelsOf_map (fun i => (UInt8.ofNat (i + 16), data.getD (32 + i) 0)) (List.range 15)
  | panelCme =>
    have long : data.length ≥ 39 := whole
    simp only [Extractor.run, decodePanelCme, long, if_true, index_getD data 35 (by omega),
      index_getD data 36 (by omega), index_getD data 37 (by omega),
      index_getD data 38 (by omega)] at h
    cases h
    exact ⟨rfl, rfl⟩
  | gsmBlock => exact decodeGsmBlock_words whole h

lemma decodeRule_words {rule : FieldRule} (whole : rule.Whole data.length)
    {items : List TroubleItem} (h : decodeRule data rule = .ok items) :
    levelsOf items = readLevels data rule.levels ∧ codesOf items = readCodes data rule.codes := by
  cases rule with
  | bitmask offset length startNum memory constructor => exact decodeBitmask_onlyFlags h
  | bitmaskLimit offset length limit startNum memory constructor => exact decodeBitmask_onlyFlags h
  | moduleMask offset memory constructor =>
    apply onlyFlags_of_forall
    intro item hitem
    obtain ⟨byte, -, loop⟩ := bind_eq_ok.mp h
    obtain ⟨bit, -, step⟩ := mem_of_mapM loop item hitem
    obtain ⟨number, -, made⟩ := bind_eq_ok.mp step
    cases made
    exact ⟨_, _, _, rfl⟩
  | custom memory extractor => exact extractor_words whole h

lemma decodeRules_words (rules : List FieldRule) (whole : ∀ rule ∈ rules, rule.Whole data.length) :
    ∀ parts, rules.mapM (decodeRule data) = .ok parts →
      levelsOf parts.flatten = readLevels data (rules.flatMap FieldRule.levels) ∧
        codesOf parts.flatten = readCodes data (rules.flatMap FieldRule.codes) := by
  induction rules with
  | nil =>
    intro parts h
    cases h
    exact ⟨rfl, rfl⟩
  | cons rule rules ih =>
    intro parts h
    rw [List.mapM_cons] at h
    obtain ⟨first, hfirst, h⟩ := bind_eq_ok.mp h
    obtain ⟨rest, hrest, h⟩ := bind_eq_ok.mp h
    cases h
    obtain ⟨levels, codes⟩ := decodeRule_words (whole rule List.mem_cons_self) hfirst
    obtain ⟨levels', codes'⟩ := ih (fun r hr => whole r (List.mem_cons_of_mem _ hr)) rest hrest
    rw [List.flatten_cons, levelsOf_append, codesOf_append, levels, codes, levels', codes',
      readLevels, readLevels, readLevels, readCodes, readCodes, readCodes, List.flatMap_cons,
      List.flatMap_cons, List.map_append, List.map_append]
    exact ⟨rfl, rfl⟩

/-- The jam levels and the error codes of a frame are the bytes its command lists. -/
theorem decodeTroubles_words {cmd : UInt8} {items : List TroubleItem}
    (h : decodeTroubles cmd data = (.ok (.ok items) : Except Panic _)) :
    levelsOf items = readLevels data (levelLayout cmd) ∧
      codesOf items = readCodes data (codeLayout cmd) := by
  unfold decodeTroubles at h
  unfold levelLayout codeLayout
  cases hr : getRules cmd with
  | none =>
    rw [hr] at h
    cases h
  | some entry =>
    obtain ⟨n, rules⟩ := entry
    rw [hr] at h
    by_cases short : data.length < n
    · simp only [short, if_true] at h
      cases h
    · obtain ⟨parts, hparts, -⟩ := decodeRules_flags rules
        fun rule hrule => (getRules_fit hr rule hrule).mono (Nat.not_lt.mp short)
      simp only [short, if_false, hparts] at h
      cases h
      exact decodeRules_words rules
        (fun rule hrule => (getRules_whole hr rule hrule).mono (Nat.not_lt.mp short)) parts hparts

end Decoding

end SatelIntegra
