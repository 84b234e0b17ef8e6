import SatelIntegra.Catalogs
import SatelIntegra.SystemParsers

/-!
# Parsers of the name and temperature replies

A reply to `EE` carries the type and the number of the object, one byte for what it
does, 16 bytes of its name and what the type adds. Names are in Windows-1250; its
decoder belongs to another library and is a parameter: the characters, and whether
some byte had none. Temperatures are counted in half degrees, which is exact.
-/

namespace SatelIntegra

open CheckedAccess

/-- `encoding_rs::WINDOWS_1250.decode` -/
abbrev NameDecoder := List UInt8 → List Char × Bool

structure SatelName where
  name : String
  readAt : LocalTime
  deriving DecidableEq, Repr

structure ZoneParams where
  zoneId : UInt16
  reaction : ZoneReaction
  partition : Option UInt8
  readAt : LocalTime
  deriving DecidableEq, Repr

structure OutputParams where
  outputId : UInt16
  function : OutputFunction
  duration : Option Duration
  control : OutputControl
  readAt : LocalTime
  deriving DecidableEq, Repr

structure PartitionParams where
  partitionId : UInt16
  partitionType : PartitionType
  objectNumber : Option UInt8
  options : Option PartitionOptions
  autoArmDefer : Option AutoArmDeferTimer
  dependentPartitions : Option DependentPartitions
  readAt : LocalTime
  deriving DecidableEq, Repr

abbrev HalfDegrees := Int

def decodeName (decoder : NameDecoder) (raw : List UInt8) : String :=
  let (name, hasErrors) := decoder raw
  if hasErrors then String.ofList (trim (fromUtf8Lossy raw)) else String.ofList (trim name)

/-- Zones and outputs are numbered up to 256, which is `0` in a byte. -/
def wideNumber (b : UInt8) : UInt16 := if b = 0 then 256 else b.toUInt16

def bigEndian (high low : UInt8) : UInt16 := high.toUInt16 <<< 8 ||| low.toUInt16

def processZoneResponse (decoder : NameDecoder) (frame : Frame) (now : LocalTime) :
    Parsed (UInt16 × SatelName × ZoneParams) := do
  if frame.isEmpty then throw .invalidFrame
  if (← checked (index frame 0)) != 0xEE then throw .invalidFrame
  let data ← checked (sliceFrom frame 1)
  if data.length < 19 then throw .invalidFrame
  let devType ← checked (index data 0)
  if devType != 1 && devType != 5 then throw .invalidFrame
  if devType == 5 && data.length < 20 then throw .invalidFrame
  let id := wideNumber (← checked (index data 1))
  let reaction := ZoneReaction.fromCode (← checked (index data 2))
  let name := decodeName decoder (← checked (slice data 3 19))
  let partition ←
    if devType == 5 then do
      let partNum ← checked (index data 19)
      pure (if 1 ≤ partNum ∧ partNum ≤ 32 then some partNum else none)
    else pure none
  return (id, { name, readAt := now }, { zoneId := id, reaction, partition, readAt := now })

def processOutputResponse (decoder : NameDecoder) (frame : Frame) (now : LocalTime) :
    Parsed (UInt16 × SatelName × OutputParams) := do
  if frame.isEmpty then throw .invalidFrame
  if (← checked (index frame 0)) != 0xEE then throw .invalidFrame
  let data ← checked (sliceFrom frame 1)
  if data.length < 19 then throw .invalidFrame
  let devType ← checked (index data 0)
  if devType != 4 && devType != 17 then throw .invalidFrame
  if devType == 17 && data.length < 21 then throw .invalidFrame
  let id := wideNumber (← checked (index data 1))
  let function := OutputFunction.fromCode (← checked (index data 2))
  let name := decodeName decoder (← checked (slice data 3 19))
  let durationDs ←
    if devType == 17 then do
      let ds := bigEndian (← checked (index data 19)) (← checked (index data 20))
      -- `duration_ds as u64 * 100`, here and in `control`
      let _ ← checked (fit u64Bound (ds.toNat * 100))
      pure (some ds)
    else pure none
  return (id, { name, readAt := now },
    { outputId := id
      function
      duration := durationDs.map tenthsOfSecond
      control := function.control durationDs
      readAt := now })

section Partition
variable (devType : UInt8) (data : Frame)

def partitionObject : Except Panic (Option UInt8) :=
  if devType ≥ 16 then return some (← index data 19) else return none

def partitionOptions : Except Panic (Option PartitionOptions) :=
  if devType ≥ 18 then return some (.fromBytes (← index data 20) (← index data 21))
  else return none

def partitionDefer : Except Panic (Option AutoArmDeferTimer) :=
  if devType ≥ 18 then return some (.fromRaw (bigEndian (← index data 22) (← index data 23)))
  else return none

def partitionDependents : Except Panic (Option DependentPartitions) :=
  if devType == 19 then
    return some (.fromBytes (← index data 24) (← index data 25) (← index data 26)
      (← index data 27))
  else return none

end Partition

def processPartitionResponse (decoder : NameDecoder) (frame : Frame) (now : LocalTime) :
    Parsed (UInt16 × SatelName × PartitionParams) := do
  if frame.isEmpty then throw .invalidFrame
  if (← checked (index frame 0)) != 0xEE then throw .invalidFrame
  let data ← checked (sliceFrom frame 1)
  if data.length < 19 then throw .invalidFrame
  let devType ← checked (index data 0)
  if devType != 0 && devType != 16 && devType != 18 && devType != 19 then throw .invalidFrame
  if devType == 16 && data.length < 20 then throw .invalidFrame
  if devType == 18 && data.length < 24 then throw .invalidFrame
  if devType == 19 && data.length < 28 then throw .invalidFrame
  let id := (← checked (index data 1)).toUInt16
  let partitionType := PartitionType.fromCode (← checked (index data 2))
  let name := decodeName decoder (← checked (slice data 3 19))
  let objectNumber ← checked (partitionObject devType data)
  let options ← checked (partitionOptions devType data)
  let autoArmDefer ← checked (partitionDefer devType data)
  let dependentPartitions ← checked (partitionDependents devType data)
  return (id, { name, readAt := now },
    { partitionId := id
      partitionType, objectNumber, options, autoArmDefer, dependentPartitions
      readAt := now })

/-- `0x0000` is -55 degrees, and each step half a degree. -/
def processZoneTemperature (frame : Frame) : Parsed (UInt16 × HalfDegrees) := do
  if frame.isEmpty then throw .invalidFrame
  if (← checked (index frame 0)) != 0x7D then throw .invalidFrame
  let data ← checked (sliceFrom frame 1)
  if data.length < 3 then throw .invalidFrame
  let zoneId := wideNumber (← checked (index data 0))
  let tempRaw := bigEndian (← checked (index data 1)) (← checked (index data 2))
  if tempRaw = 0xFFFF then throw .temperatureSensorError
  return (zoneId, (tempRaw.toNat : Int) - 110)

/-! ### What an accepted reply says -/

/-- The object a name reply is about, where its type and its length fit one of the layouts. -/
def namedObject (layouts : List (UInt8 × Nat)) (number : UInt8 → UInt16) : Frame → Option UInt16
  | 0xEE :: data =>
    match data[0]?, data[1]? with
    | some devType, some b =>
      if layouts.any fun (type, len) => type == devType && len ≤ data.length then some (number b)
      else none
    | _, _ => none
  | _ => none

/-- Device types, and how many bytes behind the command each needs. -/
def zoneLayouts : List (UInt8 × Nat) := [(1, 19), (5, 20)]

def outputLayouts : List (UInt8 × Nat) := [(4, 19), (17, 21)]

def partitionLayouts : List (UInt8 × Nat) := [(0, 19), (16, 20), (18, 24), (19, 28)]

/-- `process` accepts exactly the replies with a number, and gives that number and its own. -/
def ReadsNumber {π : Type} (number : Frame → Option UInt16) (idOf : π → UInt16)
    (process : Frame → LocalTime → Parsed (UInt16 × SatelName × π)) : Prop :=
  ∀ frame now,
    (∃ n, number frame = some n ∧ ∃ name params, idOf params = n ∧
      process frame now = (.ok (.ok (n, name, params)) : Except Panic _)) ∨
    (number frame = none ∧ process frame now = (.ok (.error .invalidFrame) : Except Panic _))

lemma namedObject_first {layouts : List (UInt8 × Nat)} {number : UInt8 → UInt16} {first : UInt8}
    {data : Frame} (other : first ≠ 0xEE) : namedObject layouts number (first :: data) = none := by
  simp [namedObject, other]

lemma namedObject_short {layouts : List (UInt8 × Nat)} {number : UInt8 → UInt16} {data : Frame}
    (least : ∀ layout ∈ layouts, 19 ≤ layout.2) (short : data.length < 19) :
    namedObject layouts number (0xEE :: data) = none := by
  rw [namedObject]
  split
  · rw [if_neg]
    simp only [List.any_eq_true, Bool.and_eq_true, decide_eq_true_eq, not_exists, not_and]
    intro layout mem _
    have := least layout mem
    omega
  · rfl

lemma exists_at {α : Type} {xs : List α} {n : Nat} (long : n ≤ xs.length) (i : Nat) (h : i < n) :
    ∃ x, xs[i]? = some x ∧ index xs i = .ok x := by
  have inside : i < xs.length := Nat.lt_of_lt_of_le h long
  exact ⟨xs[i], List.getElem?_eq_getElem inside, index_of_lt xs i inside⟩

/-- All three parsers begin with the same checks. -/
lemma readsNumber_of_body {π : Type} {layouts : List (UInt8 × Nat)} {number : UInt8 → UInt16}
    {idOf : π → UInt16} {process : Frame → LocalTime → Parsed (UInt16 × SatelName × π)}
    (least : ∀ layout ∈ layouts, 19 ≤ layout.2)
    (refused : ∀ frame now, (∀ data, frame = 0xEE :: data → data.length < 19) →
      process frame now = (.ok (.error .invalidFrame) : Except Panic _))
    (body : ∀ data now, 19 ≤ data.length →
      (∃ n, namedObject layouts number (0xEE :: data) = some n ∧ ∃ name params, idOf params = n ∧
        process (0xEE :: data) now = (.ok (.ok (n, name, params)) : Except Panic _)) ∨
      (namedObject layouts number (0xEE :: data) = none ∧
        process (0xEE :: data) now = (.ok (.error .invalidFrame) : Except Panic _))) :
    ReadsNumber (namedObject layouts number) idOf process := by
  intro frame now
  rcases frame with _ | ⟨first, data⟩
  · exact .inr ⟨rfl, refused [] now (by simp)⟩
  by_cases hf : first = 0xEE
  · subst hf
    by_cases short : data.length < 19
    · refine .inr ⟨namedObject_short least short, refused _ now ?_⟩
      rintro _ ⟨rfl⟩
      exact short
    · exact body data now (Nat.not_lt.mp short)
  · refine .inr ⟨namedObject_first hf, refused _ now ?_⟩
    rintro _ ⟨rfl⟩
    exact absurd rfl hf

theorem processZoneResponse_reads (decoder : NameDecoder) :
    ReadsNumber (namedObject zoneLayouts wideNumber) ZoneParams.zoneId
      (processZoneResponse decoder) := by
  apply readsNumber_of_body (by decide)
  · intro frame now short
    rcases frame with _ | ⟨first, data⟩
    · rfl
    by_cases hf : first = 0xEE
    · have short := short data (by rw [hf])
      simp [processZoneResponse, hf, short]
      rfl
    · simp [processZoneResponse, hf]
      rfl
  · intro data now long
    obtain ⟨devType, at0, h0⟩ := exists_at long 0 (by decide)
    obtain ⟨b, at1, h1⟩ := exists_at long 1 (by decide)
    obtain ⟨code, -, h2⟩ := exists_at long 2 (by decide)
    have text := slice_of_le data 3 19 (by decide) long
    have hl := Nat.not_lt.mpr long
    by_cases t1 : devType = 1
    · subst t1
      refine .inl ⟨wideNumber b, by simp [namedObject, zoneLayouts, at0, at1, long], ?_⟩
      simp [processZoneResponse, hl, text, h0, h1, h2]
      exact ⟨_, _, rfl, rfl⟩
    by_cases t5 : devType = 5
    · subst t5
      by_cases long5 : 20 ≤ data.length
      · obtain ⟨part, -, h19⟩ := exists_at long5 19 (by decide)
        refine .inl ⟨wideNumber b, by simp [namedObject, zoneLayouts, at0, at1, long5], ?_⟩
        simp [processZoneResponse, hl, Nat.not_lt.mpr long5, text, h0, h1, h2, h19]
        exact ⟨_, _, rfl, rfl⟩
      · refine .inr ⟨by simp [namedObject, zoneLayouts, at0, at1, Nat.not_le.mp long5], ?_⟩
        simp [processZoneResponse, hl, Nat.not_le.mp long5, h0]
        rfl
    · refine .inr ⟨by simp [namedObject, zoneLayouts, at0, at1, Ne.symm t1, Ne.symm t5], ?_⟩
      simp [processZoneResponse, hl, h0, t1, t5]
      rfl

theorem processOutputResponse_reads (decoder : NameDecoder) :
    ReadsNumber (namedObject outputLayouts wideNumber) OutputParams.outputId
      (processOutputResponse decoder) := by
  apply readsNumber_of_body (by decide)
  · intro frame now short
    rcases frame with _ | ⟨first, data⟩
    · rfl
    by_cases hf : first = 0xEE
    · have short := short data (by rw [hf])
      simp [processOutputResponse, hf, short]
      rfl
    · simp [processOutputResponse, hf]
      rfl
  · intro data now long
    obtain ⟨devType, at0, h0⟩ := exists_at long 0 (by decide)
    obtain ⟨b, at1, h1⟩ := exists_at long 1 (by decide)
    obtain ⟨code, -, h2⟩ := exists_at long 2 (by decide)
    have text := slice_of_le data 3 19 (by decide) long
    have hl := Nat.not_lt.mpr long
    by_cases t4 : devType = 4
    · subst t4
      refine .inl ⟨wideNumber b, by simp [namedObject, outputLayouts, at0, at1, long], ?_⟩
      simp [processOutputResponse, hl, text, h0, h1, h2]
      exact ⟨_, _, rfl, rfl⟩
    by_cases t17 : devType = 17
    · subst t17
      by_cases long17 : 21 ≤ data.length
      · obtain ⟨high, -, h19⟩ := exists_at long17 19 (by decide)
        obtain ⟨low, -, h20⟩ := exists_at long17 20 (by decide)
        refine .inl ⟨wideNumber b, by simp [namedObject, outputLayouts, at0, at1, long17], ?_⟩
        have ds := (bigEndian high low).toNat_lt
        have fits : fit u64Bound ((bigEndian high low).toNat * 100) =
            .ok ((bigEndian high low).toNat * 100) := fit_of_lt (by rw [u64Bound]; omega)
        simp [processOutputResponse, hl, Nat.not_lt.mpr long17, text, h0, h1, h2, h19, h20, fits]
        exact ⟨_, _, rfl, rfl⟩
      · refine .inr ⟨by simp [namedObject, outputLayouts, at0, at1, Nat.not_le.mp long17], ?_⟩
        simp [processOutputResponse, hl, Nat.not_le.mp long17, h0]
        rfl
    · refine .inr ⟨by simp [namedObject, outputLayouts, at0, at1, Ne.symm t4, Ne.symm t17], ?_⟩
      simp [processOutputResponse, hl, h0, t4, t17]
      rfl

/-- What the type of a partition reply promises is there. -/
lemma partition_details {devType : UInt8} {len : Nat} {data : Frame}
    (mem : (devType, len) ∈ partitionLayouts) (long : len ≤ data.length) :
    NoPanic (partitionObject devType data) ∧ NoPanic (partitionOptions devType data) ∧
      NoPanic (partitionDefer devType data) ∧ NoPanic (partitionDependents devType data) := by
  simp only [partitionLayouts, List.mem_cons, Prod.mk.injEq, List.not_mem_nil, or_false] at mem
  rcases mem with ⟨rfl, rfl⟩ | ⟨rfl, rfl⟩ | ⟨rfl, rfl⟩ | ⟨rfl, rfl⟩
  · exact ⟨⟨_, rfl⟩, ⟨_, rfl⟩, ⟨_, rfl⟩, ⟨_, rfl⟩⟩
  · obtain ⟨object, -, h19⟩ := exists_at long 19 (by decide)
    exact ⟨⟨some object, by simp [partitionObject, h19]⟩, ⟨_, rfl⟩, ⟨_, rfl⟩, ⟨_, rfl⟩⟩
  all_goals
    obtain ⟨object, -, h19⟩ := exists_at long 19 (by decide)
    obtain ⟨b1, -, h20⟩ := exists_at long 20 (by decide)
    obtain ⟨b2, -, h21⟩ := exists_at long 21 (by decide)
    obtain ⟨high, -, h22⟩ := exists_at long 22 (by decide)
    obtain ⟨low, -, h23⟩ := exists_at long 23 (by decide)
    refine ⟨⟨some object, by simp [partitionObject, h19]⟩,
      ⟨some (.fromBytes b1 b2), by simp [partitionOptions, h20, h21]; rfl⟩,
      ⟨some (.fromRaw (bigEndian high low)), by simp [partitionDefer, h22, h23]; rfl⟩, ?_⟩
  · exact ⟨_, rfl⟩
  · obtain ⟨d0, -, h24⟩ := exists_at long 24 (by decide)
    obtain ⟨d1, -, h25⟩ := exists_at long 25 (by decide)
    obtain ⟨d2, -, h26⟩ := exists_at long 26 (by decide)
    obtain ⟨d3, -, h27⟩ := exists_at long 27 (by decide)
    exact ⟨some (.fromBytes d0 d1 d2 d3), by simp [partitionDependents, h24, h25, h26, h27]; rfl⟩

theorem processPartitionResponse_reads (decoder : NameDecoder) :
    ReadsNumber (namedObject partitionLayouts UInt8.toUInt16) PartitionParams.partitionId
      (processPartitionResponse decoder) := by
  apply readsNumber_of_body (by decide)
  · intro frame now short
    rcases frame with _ | ⟨first, data⟩
    · rfl
    by_cases hf : first = 0xEE
    · have short := short data (by rw [hf])
      simp [processPartitionResponse, hf, short]
      rfl
    · simp [processPartitionResponse, hf]
      rfl
  · intro data now long
    obtain ⟨devType, at0, h0⟩ := exists_at long 0 (by decide)
    obtain ⟨b, at1, h1⟩ := exists_at long 1 (by decide)
    obtain ⟨code, -, h2⟩ := exists_at long 2 (by decide)
    have text := slice_of_le data 3 19 (by decide) long
    have hl := Nat.not_lt.mpr long
    by_cases fits : ∃ len, (devType, len) ∈ partitionLayouts ∧ len ≤ data.length
    · obtain ⟨len, mem, long'⟩ := fits
      obtain ⟨⟨object, ho⟩, ⟨options, hopt⟩, ⟨timer, ht⟩, ⟨deps, hd⟩⟩ := partition_details mem long'
      refine .inl ⟨b.toUInt16, ?_, ?_⟩
      · rw [namedObject, at0, at1]
        exact if_pos (List.any_eq_true.mpr ⟨_, mem, by simp [long']⟩)
      · simp only [partitionLayouts, List.mem_cons, Prod.mk.injEq, List.not_mem_nil, or_false] at mem
        rcases mem with ⟨rfl, rfl⟩ | ⟨rfl, rfl⟩ | ⟨rfl, rfl⟩ | ⟨rfl, rfl⟩
        all_goals
          simp [processPartitionResponse, hl, Nat.not_lt.mpr long', text, h0, h1, h2, ho, hopt, ht, hd]
          exact ⟨_, _, rfl, rfl⟩
    · have none : namedObject partitionLayouts UInt8.toUInt16 (0xEE :: data) = none := by
        rw [namedObject, at0, at1]
        refine if_neg fun any => fits ?_
        obtain ⟨⟨type, len⟩, mem, same⟩ := List.any_eq_true.mp any
        obtain ⟨rfl, long'⟩ : type = devType ∧ len ≤ data.length := by simpa using same
        exact ⟨len, mem, long'⟩
      refine .inr ⟨none, ?_⟩
      have short (t : UInt8) (len : Nat) (mem : (t, len) ∈ partitionLayouts) (ht : devType = t) :
          data.length < len := by
        subst ht
        exact Nat.not_le.mp fun long' => fits ⟨len, mem, long'⟩
      have t0 : devType ≠ 0 := by
        intro t0
        exact absurd (short 0 19 (by decide) t0) hl
      by_cases t16 : devType = 16
      · simp [processPartitionResponse, hl, h0, t16, short 16 20 (by decide) t16]
        rfl
      by_cases t18 : devType = 18
      · simp [processPartitionResponse, hl, h0, t18, short 18 24 (by decide) t18]
        rfl
      by_cases t19 : devType = 19
      · simp [processPartitionResponse, hl, h0, t19, short 19 28 (by decide) t19]
        rfl
      · simp [processPartitionResponse, hl, h0, t0, t16, t18, t19]
        rfl

/-- The zone and the raw value of a temperature reply of full length. -/
def temperatureReply : Frame → Option (UInt16 × UInt16)
  | 0x7D :: zone :: high :: low :: _ => some (wideNumber zone, bigEndian high low)
  | _ => none

/-- Of a reply of full length the value `FFFF` is a sensor error, and any other a temperature. -/
theorem processZoneTemperature_eq (frame : Frame) :
    processZoneTemperature frame = (.ok (
      match temperatureReply frame with
      | some (zoneId, raw) =>
        if raw = 0xFFFF then .error .temperatureSensorError
        else .ok (zoneId, (raw.toNat : Int) - 110)
      | none => .error .invalidFrame) : Except Panic _) := by
  rcases frame with _ | ⟨first, data⟩
  · rfl
  by_cases hf : first = 0x7D
  swap
  · have other : temperatureReply (first :: data) = none := by simp [temperatureReply, hf]
    simp [processZoneTemperature, other, hf]
    rfl
  subst hf
  rcases data with _ | ⟨zone, _ | ⟨high, _ | ⟨low, rest⟩⟩⟩
  · rfl
  · rfl
  · rfl
  · have short : ¬ rest.length + 1 + 1 + 1 < 3 := by omega
    by_cases raw : bigEndian high low = 0xFFFF
    · simp [processZoneTemperature, temperatureReply, index, raw, short]
      rfl
    · simp [processZoneTemperature, temperatureReply, index, raw, short]
      rfl

end SatelIntegra
