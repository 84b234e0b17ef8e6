import SatelIntegra.QueryRuns
import SatelIntegra.Temperatures

/-!
# Which entries a query writes

A number is narrowed to a byte for the panel, widened again from its reply, and
reduced to an index of the cache. The three agree for the numbers of existing
objects, and for no other: there a query writes the entry of another object.
-/

namespace SatelIntegra

open CheckedAccess AtomicCalls ClientCall

def ItemKind.last : ItemKind → UInt16
  | .zone | .output => 256
  | .partition => 32

/-- The numbers of the entries of a kind. -/
def InRange (kind : ItemKind) (id : UInt16) : Prop := 1 ≤ id ∧ id ≤ kind.last

instance (kind : ItemKind) (id : UInt16) : Decidable (InRange kind id) :=
  inferInstanceAs (Decidable (_ ∧ _))

/-- At most the entry of this kind with number `id` has changed. -/
structure OnlyEntry (kind : ItemKind) (id : UInt16) (c c' : ItemCache) : Prop where
  zones : ∀ i, c'.zones i = c.zones i ∨ kind = .zone ∧ itemId i = id
  outputs : ∀ i, c'.outputs i = c.outputs i ∨ kind = .output ∧ itemId i = id
  partitions : ∀ i, c'.partitions i = c.partitions i ∨ kind = .partition ∧ itemId i = id

/-- A panel that answers each query for the number it carries, or rejects it. -/
structure AnswersWhatIsAsked (env : Surroundings) : Prop where
  names : ∀ asked devType number reply,
    env.answer asked [SatelCommand.readDeviceName.toByte, devType, number] = .ok reply →
      startsWith SatelCommand.resultCode.toByte reply = true ∨
        startsWith SatelCommand.readDeviceName.toByte reply = true ∧ reply[2]? = some number
  temperatures : ∀ asked number reply,
    env.answer asked [SatelCommand.readZoneTemperature.toByte, number] = .ok reply →
      startsWith SatelCommand.resultCode.toByte reply = true ∨
        startsWith SatelCommand.readZoneTemperature.toByte reply = true ∧ reply[1]? = some number

/-! ### Numbers -/

section Numbers
variable {id : UInt16}

lemma itemId_itemIndex {n : Nat} {h : 0 < n} (positive : 1 ≤ id) (small : id.toNat ≤ n) :
    itemId (itemIndex n id h) = id := by
  have one : 1 ≤ id.toNat := UInt16.le_iff_toNat_le.mp positive
  have pred : (id - 1).toNat = id.toNat - 1 := UInt16.toNat_sub_of_le _ _ positive
  have index : (itemIndex n id h).val = id.toNat - 1 := by
    simp only [itemIndex, pred]
    exact Nat.mod_eq_of_lt (by omega)
  rw [itemId, index, Nat.sub_add_cancel one, UInt16.ofNat_toNat]

lemma itemId_toNat {n : Nat} (small : n ≤ 256) (i : Fin n) : (itemId i).toNat = i + 1 := by
  have := i.isLt
  rw [itemId, UInt16.toNat_ofNat']
  exact Nat.mod_eq_of_lt (by omega)

lemma toUInt8_toUInt16 (small : id.toNat < 256) : id.toUInt8.toUInt16 = id := by
  apply UInt16.toNat_inj.mp
  rw [UInt8.toNat_toUInt16, UInt16.toNat_toUInt8]
  exact Nat.mod_eq_of_lt small

lemma wideNumber_narrowNumber (inRange : InRange .zone id) : wideNumber (narrowNumber id) = id := by
  obtain ⟨positive, small⟩ := inRange
  unfold wideNumber narrowNumber
  by_cases last : id = 256
  · subst last
    rfl
  have ne : id.toNat ≠ 256 := fun same => last (UInt16.toNat_inj.mp same)
  have small' : id.toNat ≤ 256 := UInt16.le_iff_toNat_le.mp small
  have wide : id.toUInt8.toUInt16 = id := toUInt8_toUInt16 (by omega)
  rw [if_neg last, if_neg, wide]
  intro zero
  rw [zero] at wide
  rw [← wide] at positive
  exact absurd positive (by decide)

/-- The number a byte in a reply stands for. -/
def ItemKind.number : ItemKind → UInt8 → UInt16
  | .zone | .output => wideNumber
  | .partition => UInt8.toUInt16

lemma namedObject_number {layouts : List (UInt8 × Nat)} {number : UInt8 → UInt16} {reply : Frame}
    {n : UInt16} (h : namedObject layouts number reply = some n) :
    ∃ b, reply[2]? = some b ∧ n = number b := by
  rcases reply with _ | ⟨first, data⟩
  · cases h
  by_cases name : first = 0xEE
  · subst name
    rw [namedObject] at h
    split at h
    · rename_i devType b _ at1
      split at h
      · exact ⟨b, at1, (Option.some.inj h).symm⟩
      · cases h
    · cases h
  · rw [namedObject_first name] at h
    cases h

lemma objectNumber_number {kind : ItemKind} {reply : Frame} {n : UInt16}
    (h : objectNumber kind reply = some n) : ∃ b, reply[2]? = some b ∧ n = kind.number b := by
  cases kind <;> exact namedObject_number h

/-- In range a query names its object on the wire. -/
lemma QueryFamily.Member.number_deviceId {π : Type} {family : QueryFamily π} {idOf : π → UInt16}
    (member : family.Member idOf) (inRange : InRange family.kind id) :
    family.kind.number (family.deviceId id) = id := by
  cases member with
  | zone => exact wideNumber_narrowNumber inRange
  | output => exact wideNumber_narrowNumber inRange
  | partition =>
    have small : id.toNat ≤ 32 := UInt16.le_iff_toNat_le.mp inRange.2
    exact toUInt8_toUInt16 (Nat.lt_of_le_of_lt small (by decide))

end Numbers

/-! ### Entries -/

section Entries
variable {id : UInt16} {c : ItemCache}

lemma OnlyEntry.refl (kind : ItemKind) (id : UInt16) (c : ItemCache) : OnlyEntry kind id c c :=
  ⟨fun _ => .inl rfl, fun _ => .inl rfl, fun _ => .inl rfl⟩

lemma inRange_iff {kind : ItemKind} : InRange kind id ↔ 1 ≤ id ∧ id.toNat ≤ kind.last.toNat :=
  and_congr_right fun _ => UInt16.le_iff_toNat_le

/-- A write to the entry of a number in range changes at most that entry. -/
lemma entry_elsewhere {α : Type} {n : Nat} {h : 0 < n} {xs xs' : Fin n → α} {P : Prop} (here : P)
    (inRange : 1 ≤ id ∧ id.toNat ≤ n) (others : ∀ i, i ≠ itemIndex n id h → xs' i = xs i) :
    ∀ i, xs' i = xs i ∨ P ∧ itemId i = id := by
  intro i
  by_cases same : i = itemIndex n id h
  · subst same
    exact .inr ⟨here, itemId_itemIndex inRange.1 inRange.2⟩
  · exact .inl (others i same)

lemma modifyZone_onlyEntry (inRange : InRange .zone id) (f : ZoneItem → ZoneItem) :
    OnlyEntry .zone id c (c.modifyZone id f) where
  zones := entry_elsewhere rfl (inRange_iff.mp inRange)
    fun _ other => c.modifyZone_zones_of_ne id f other
  outputs _ := .inl rfl
  partitions _ := .inl rfl

lemma modifyOutput_onlyEntry (inRange : InRange .output id) (f : OutputItem → OutputItem) :
    OnlyEntry .output id c (c.modifyOutput id f) where
  zones _ := .inl rfl
  outputs := entry_elsewhere rfl (inRange_iff.mp inRange)
    fun _ other => c.modifyOutput_outputs_of_ne id f other
  partitions _ := .inl rfl

lemma modifyPartition_onlyEntry (inRange : InRange .partition id)
    (f : PartitionItem → PartitionItem) :
    OnlyEntry .partition id c (c.modifyPartition id f) where
  zones _ := .inl rfl
  outputs _ := .inl rfl
  partitions := entry_elsewhere rfl (inRange_iff.mp inRange)
    fun _ other => c.modifyPartition_partitions_of_ne id f other

variable {π : Type} {family : QueryFamily π} {idOf : π → UInt16}

lemma QueryFamily.Member.store_onlyEntry (member : family.Member idOf)
    (inRange : InRange family.kind id) (now : LocalTime) (name : SatelName) (params : π) :
    OnlyEntry family.kind id c (c.enter now (family.store id name params)) := by
  cases member with
  | zone => exact modifyZone_onlyEntry inRange _
  | output => exact modifyOutput_onlyEntry inRange _
  | partition => exact modifyPartition_onlyEntry inRange _

lemma QueryFamily.Member.clear_onlyEntry (member : family.Member idOf)
    (inRange : InRange family.kind id) (now now' : LocalTime) :
    OnlyEntry family.kind id c (c.enter now (family.clear id now')) := by
  cases member with
  | zone => exact modifyZone_onlyEntry inRange _
  | output => exact modifyOutput_onlyEntry inRange _
  | partition => exact modifyPartition_onlyEntry inRange _

/-- Every entry has a number in range. -/
lemma itemId_inRange {n : Nat} (small : n ≤ 256) (i : Fin n) :
    1 ≤ itemId i ∧ (itemId i).toNat ≤ n := by
  have number := itemId_toNat small i
  refine ⟨UInt16.le_iff_toNat_le.mpr ?_, ?_⟩
  · rw [number, UInt16.toNat_one]
    exact Nat.le_add_left 1 _
  · rw [number]
    exact i.isLt

/-- Outside the range there is no entry a write may have touched. -/
lemma entry_touched {α : Type} {n : Nat} {xs xs' : Fin n → α} {P : Prop} (small : n ≤ 256)
    (outside : ¬ (1 ≤ id ∧ id.toNat ≤ n)) (i : Fin n) (changed : xs' i ≠ xs i) :
    ¬ ∀ i, xs' i = xs i ∨ P ∧ itemId i = id := by
  intro only
  rcases only i with same | ⟨-, named⟩
  · exact changed same
  · rw [← named] at outside
    exact outside (itemId_inRange small i)

lemma modifyZone_touches (outside : ¬ InRange .zone id) {f : ZoneItem → ZoneItem}
    (changed : f (c.zones (itemIndex 256 id)) ≠ c.zones (itemIndex 256 id)) :
    ¬ OnlyEntry .zone id c (c.modifyZone id f) := by
  intro only
  rw [inRange_iff] at outside
  refine entry_touched le_rfl outside (itemIndex 256 id) ?_ only.zones
  rwa [c.modifyZone_zones_self]

lemma modifyOutput_touches (outside : ¬ InRange .output id) {f : OutputItem → OutputItem}
    (changed : f (c.outputs (itemIndex 256 id)) ≠ c.outputs (itemIndex 256 id)) :
    ¬ OnlyEntry .output id c (c.modifyOutput id f) := by
  intro only
  rw [inRange_iff] at outside
  refine entry_touched le_rfl outside (itemIndex 256 id) ?_ only.outputs
  rwa [ItemCache.modifyOutput_outputs_self]

lemma modifyPartition_touches (outside : ¬ InRange .partition id)
    {f : PartitionItem → PartitionItem}
    (changed : f (c.partitions (itemIndex 32 id)) ≠ c.partitions (itemIndex 32 id)) :
    ¬ OnlyEntry .partition id c (c.modifyPartition id f) := by
  intro only
  rw [inRange_iff] at outside
  refine entry_touched (by decide) outside (itemIndex 32 id) ?_ only.partitions
  rwa [ItemCache.modifyPartition_partitions_self]

lemma exists_other_time (t : LocalTime) : ∃ t' : LocalTime, t' ≠ t := by
  by_cases zero : t.nanos = 0
  · refine ⟨⟨1, by decide⟩, ?_⟩
    rintro rfl
    cases zero
  · refine ⟨⟨0, Nat.zero_le _⟩, ?_⟩
    rintro rfl
    exact zero rfl

/-- Clearing an entry at another time than its name was read changes it. -/
lemma QueryFamily.Member.clear_touches (member : family.Member idOf)
    (outside : ¬ InRange family.kind id) (c : ItemCache) :
    ∃ now, ¬ OnlyEntry family.kind id c (c.enter now (family.clear id now)) := by
  cases member with
  | zone =>
    obtain ⟨now, other⟩ := exists_other_time (c.zones (itemIndex 256 id)).zoneNameReadAt
    exact ⟨now, modifyZone_touches outside fun same => other (congrArg (·.zoneNameReadAt) same)⟩
  | output =>
    obtain ⟨now, other⟩ := exists_other_time (c.outputs (itemIndex 256 id)).nameReadAt
    exact ⟨now, modifyOutput_touches outside fun same => other (congrArg (·.nameReadAt) same)⟩
  | partition =>
    obtain ⟨now, other⟩ := exists_other_time (c.partitions (itemIndex 32 id)).nameReadAt
    exact ⟨now, modifyPartition_touches outside fun same => other (congrArg (·.nameReadAt) same)⟩

end Entries

/-! ### Calls -/

/-- Whatever the panel and the clock say, the call changes at most the entry it is about. -/
def TouchesOnlyItsObject {α : Type} (call : ClientCall α) (kind : ItemKind) (id : UInt16)
    (w : ClientWorld) : Prop :=
  ∀ env, AnswersWhatIsAsked env → OnlyEntry kind id w.cache (call.run (ClientOp.exec env) w).2.cache

section Calls
variable {π : Type} {family : QueryFamily π} {idOf : π → UInt16} {env : Surroundings}
  {decoder : NameDecoder} {id : UInt16} {w : ClientWorld}

lemma queryInternal_onlyEntry (member : family.Member idOf) (panel : AnswersWhatIsAsked env)
    (inRange : InRange family.kind id) :
    OnlyEntry family.kind id w.cache
      ((queryInternal family decoder id).run (ClientOp.exec env) w).2.cache := by
  obtain ⟨-, -, ends⟩ := @queryInternal_ends _ family idOf env decoder id w member
  generalize (queryInternal family decoder id).run (ClientOp.exec env) w = result at ends
  rcases result with ⟨result, w'⟩
  generalize answered : (family.first env id w).1 = first at ends
  generalize w'.cache = cache at ends
  cases ends with
  | @stored devType reply n name params k k' number parsed =>
    obtain ⟨-, before, answer, -⟩ := firstAnswer_some (Prod.ext answered rfl)
    rcases panel.names _ _ _ _ answer with rejected | ⟨-, named⟩
    · cases (not_rejection_of_objectNumber number).symm.trans rejected
    · obtain ⟨b, carried, rfl⟩ := objectNumber_number number
      obtain rfl := Option.some.inj (named.symm.trans carried)
      rw [member.number_deviceId inRange]
      exact member.store_onlyEntry inRange _ _ _
  | cleared k k' => exact member.clear_onlyEntry inRange _ _
  | failed devType answer e unread => exact .refl _ _ _

/-- A panel that rejects everything, with a clock that stands still. -/
def rejectingPanel (now : LocalTime) : Surroundings :=
  ⟨fun _ _ => .ok [0xEF, 0], fun _ => .ok (), fun _ => now⟩

lemma rejectingPanel_answers (now : LocalTime) : AnswersWhatIsAsked (rejectingPanel now) := by
  constructor
  · rintro _ _ _ _ ⟨rfl⟩
    exact .inl rfl
  · rintro _ _ _ ⟨rfl⟩
    exact .inl rfl

lemma firstAnswer_rejected (now : LocalTime) (request : UInt8 → Frame) (asked : List Frame)
    (types : List UInt8) :
    (firstAnswer (rejectingPanel now).answer request asked types).1 = none := by
  induction types generalizing asked with
  | nil => rfl
  | cons devType types ih => exact ih _

lemma queryInternal_touches (member : family.Member idOf) (decoder : NameDecoder)
    (outside : ¬ InRange family.kind id) (w : ClientWorld) : ∃ now, ¬ OnlyEntry family.kind id w.cache
      ((queryInternal family decoder id).run (ClientOp.exec (rejectingPanel now)) w).2.cache := by
  obtain ⟨now, touches⟩ := member.clear_touches outside w.cache
  refine ⟨now, ?_⟩
  obtain ⟨-, -, ends⟩ :=
    @queryInternal_ends _ family idOf (rejectingPanel now) decoder id w member
  rw [QueryFamily.first, firstAnswer_rejected] at ends
  generalize (queryInternal family decoder id).run _ w = result at ends
  rcases result with ⟨result, w'⟩
  simp only at ends ⊢
  generalize w'.cache = cache at ends
  cases ends with
  | cleared k k' => exact touches

/-- What follows a query writes nothing more. -/
lemma followsQuery_touchesOnly_iff {α : Type} {call : ClientCall α} {blank : SatelName → α}
    {value : SatelName → π → α} {withParams : Config → Bool} (member : family.Member idOf)
    (follows : ∀ env, FollowsQuery family env decoder id w call blank value withParams) :
    TouchesOnlyItsObject call family.kind id w ↔ InRange family.kind id := by
  constructor
  · intro only
    by_contra outside
    obtain ⟨now, touches⟩ := queryInternal_touches member decoder outside w
    have written := only _ (rejectingPanel_answers now)
    rw [(follows _).1] at written
    exact touches written
  · intro inRange env panel
    rw [(follows env).1]
    exact queryInternal_onlyEntry member panel inRange

lemma getName_touchesOnly_iff (member : family.Member idOf) :
    TouchesOnlyItsObject (getName family decoder id) family.kind id w ↔ InRange family.kind id :=
  followsQuery_touchesOnly_iff member fun _ => getName_follows

lemma getParams_touchesOnly_iff (member : family.Member idOf) :
    TouchesOnlyItsObject (getParams family decoder id) family.kind id w ↔
      InRange family.kind id :=
  followsQuery_touchesOnly_iff member fun _ => getParams_follows

lemma temperatureReply_number {reply : Frame} {zoneId raw : UInt16}
    (h : temperatureReply reply = some (zoneId, raw)) :
    ∃ b, startsWith SatelCommand.resultCode.toByte reply = false ∧ reply[1]? = some b ∧
      zoneId = wideNumber b := by
  unfold temperatureReply at h
  split at h
  · rename_i zone high low rest
    cases h
    exact ⟨zone, rfl, rfl, rfl⟩
  · cases h

/-- A temperature comes from a reply. -/
lemma reading_ok {answer : Except SatelError Frame} {value : UInt16 × HalfDegrees}
    (h : reading answer = .ok value) : ∃ reply raw, answer = .ok reply ∧
      temperatureReply reply = some (value.1, raw) ∧ raw ≠ 0xFFFF ∧
      value.2 = (raw.toNat : Int) - 110 := by
  rcases answer with e | reply
  · cases h
  · simp only [reading] at h
    split at h
    · rename_i zoneId raw replied
      split at h
      · cases h
      · rename_i present
        cases h
        exact ⟨reply, raw, rfl, replied, present, rfl⟩
    · cases h

/-- What a temperature query leaves in the cache. -/
lemma getZoneTemperatureRaw_cache :
    ((getZoneTemperatureRaw id).run (ClientOp.exec env) w).2.cache =
      match reading (env.answer w.asked (temperatureRequest id)) with
      | .ok (zoneId, temp) => w.cache.enter (env.now w.clockReadings) (.temperatureSuccess zoneId temp)
      | .error e =>
        w.cache.enter (env.now w.clockReadings) (.temperatureError id e (tempLimits w.config id)) := by
  rw [getZoneTemperatureRaw, run_getZoneTemperatureRawTimeout]
  cases reading (env.answer w.asked (temperatureRequest id)) with
  | error e => rfl
  | ok value =>
    obtain ⟨zoneId, temp⟩ := value
    obtain ⟨w', taken, cache, -⟩ := @run_takeTemperature env (w.ask (temperatureRequest id)) zoneId temp
    simp only [taken]
    exact cache

lemma getZoneTemperatureRaw_touchesOnly_iff (id : UInt16) (w : ClientWorld) :
    TouchesOnlyItsObject (getZoneTemperatureRaw id) .zone id w ↔ InRange .zone id := by
  constructor
  · intro only
    by_contra outside
    obtain ⟨now, other⟩ := exists_other_time (w.cache.zones (itemIndex 256 id)).temperatureReadAt
    have written := only _ (rejectingPanel_answers now)
    rw [getZoneTemperatureRaw_cache] at written
    exact modifyZone_touches outside (fun same => other (congrArg (·.temperatureReadAt) same)) written
  · intro inRange env panel
    rw [getZoneTemperatureRaw_cache]
    cases answer : reading (env.answer w.asked (temperatureRequest id)) with
    | error e => exact modifyZone_onlyEntry inRange _
    | ok value =>
      obtain ⟨reply, raw, answered, replied, -⟩ := reading_ok answer
      obtain ⟨b, accepted, carried, number⟩ := temperatureReply_number replied
      rcases panel.temperatures _ _ _ answered with rejected | ⟨-, named⟩
      · cases accepted.symm.trans rejected
      · obtain rfl := Option.some.inj (named.symm.trans carried)
        rw [wideNumber_narrowNumber inRange] at number
        simp only [number]
        exact modifyZone_onlyEntry inRange _

/-- The seven queries, on any state of the client. -/
theorem queries_touch_only_their_object_iff (decoder : NameDecoder) (id : UInt16) (w : ClientWorld) :
    (TouchesOnlyItsObject (getZoneName decoder id) .zone id w ↔ InRange .zone id) ∧
      (TouchesOnlyItsObject (getZoneParams decoder id) .zone id w ↔ InRange .zone id) ∧
      (TouchesOnlyItsObject (getOutputName decoder id) .output id w ↔ InRange .output id) ∧
      (TouchesOnlyItsObject (getOutputParams decoder id) .output id w ↔ InRange .output id) ∧
      (TouchesOnlyItsObject (getPartitionName decoder id) .partition id w ↔ InRange .partition id) ∧
      (TouchesOnlyItsObject (getPartitionParams decoder id) .partition id w ↔
        InRange .partition id) ∧
      (TouchesOnlyItsObject (getZoneTemperatureRaw id) .zone id w ↔ InRange .zone id) :=
  ⟨getName_touchesOnly_iff .zone, getParams_touchesOnly_iff .zone,
    getName_touchesOnly_iff .output, getParams_touchesOnly_iff .output,
    getName_touchesOnly_iff .partition, getParams_touchesOnly_iff .partition,
    getZoneTemperatureRaw_touchesOnly_iff id w⟩

/-- Asked for zone 300, a panel that rejects the query has zone 44 cleared. -/
theorem zone_300_clears_zone_44 :
    ¬ TouchesOnlyItsObject (getZoneName (fun _ => ([], false)) 300) .zone 300
      (.new {} ⟨0, Nat.zero_le _⟩) := by
  intro only
  have written := (only _ (rejectingPanel_answers ⟨1, by decide⟩)).zones 43
  exact absurd written (by decide)

end Calls
end SatelIntegra
