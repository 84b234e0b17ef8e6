import SatelIntegra.QueryFrames
import SatelIntegra.WorkerExchange

/-!
# Whose data a query gives

The worker takes the first frame with the byte of the command for the reply, so a
reply to an earlier request can end a later one. A query stores what it reads under
the number of the reply, and hands it out under the number it was asked for.
-/

namespace SatelIntegra

open CheckedAccess AtomicCalls ClientCall

def QueryEvent.objectId : QueryEvent → Option UInt16
  | .zoneNameReceived id _ | .zoneParamsReceived id _ | .outputNameReceived id _
  | .outputParamsReceived id _ | .partitionNameReceived id _ | .partitionParamsReceived id _
  | .zoneTemperatureChanged id _ | .zoneTemperatureError id _ => some id
  | .configUpdated => none

/-- The replies to requests made one after the other. -/
def repliesTo (answer : List Frame → Frame → Except SatelError Frame) :
    (asked requests : List Frame) → List Frame
  | _, [] => []
  | asked, request :: later =>
    match answer asked request with
    | .ok reply => reply :: repliesTo answer (asked ++ [request]) later
    | .error _ => repliesTo answer (asked ++ [request]) later

/-- What a reply says: the object it names, and the values and events that give its data. -/
structure Source (α : Type) where
  number : Frame → Option UInt16
  value : Frame → α → Prop
  event : Frame → QueryEvent → Prop
  /-- Values that stand for no data. -/
  unread : α → Prop

/-- Every value the call returns, and every event it sends about `id`, has its data from a reply
that names `id`; or there are no data, and no reply named any object. -/
def AnswersItsQuestion {α : Type} (source : Source α) (call : ClientCall α) (id : UInt16)
    (env : Surroundings) (w : ClientWorld) : Prop :=
  let result := call.run (ClientOp.exec env) w
  let replies := repliesTo env.answer w.asked (result.2.asked.drop w.asked.length)
  (∀ a, result.1 = .ok a →
    (∃ reply ∈ replies, source.number reply = some id ∧ source.value reply a) ∨
      (∀ reply ∈ replies, source.number reply = none) ∧ source.unread a) ∧
  ∀ event ∈ result.2.events.drop w.events.length, event.objectId = some id →
    (∃ reply ∈ replies, source.number reply = some id ∧ source.event reply event) ∨
      (∀ reply ∈ replies, source.number reply = none) ∧
        ∃ status, event = .zoneTemperatureError id status

/-- The answer a query ends with names the object it was asked for, if it names one. -/
def NamesNoOther {π : Type} (family : QueryFamily π) (env : Surroundings) (id : UInt16)
    (w : ClientWorld) : Prop :=
  ∀ devType reply n, (family.first env id w).1 = some (devType, .ok reply) →
    objectNumber family.kind reply = some n → n = id

/-! ### Names and parameters -/

section Families
variable {π : Type} (family : QueryFamily π) (decoder : NameDecoder)

/-- The parser reads this from the reply. -/
def Reads (reply : Frame) (id : UInt16) (name : SatelName) (params : π) : Prop :=
  ∃ now, family.process decoder reply now = (.ok (.ok (id, name, params)) : Except Panic _)

def familyEvent (reply : Frame) (event : QueryEvent) : Prop :=
  ∃ id name params, Reads family decoder reply id name params ∧
    (event = family.nameReceived id name.name ∨ event = family.paramsReceived id params)

def nameSource : Source SatelName where
  number := objectNumber family.kind
  value reply name := ∃ id params, Reads family decoder reply id name params
  event := familyEvent family decoder
  unread name := name.name = ""

def paramsSource : Source π where
  number := objectNumber family.kind
  value reply params := ∃ id name, Reads family decoder reply id name params
  event := familyEvent family decoder
  unread params := ∃ id now, params = family.unconfigured id now

end Families

/-- Of the replies to the types tried, only the last one is not a rejection. -/
lemma repliesTo_firstAnswer (answer : List Frame → Frame → Except SatelError Frame)
    (request : UInt8 → Frame) (asked : List Frame) (types : List UInt8) :
    let (first, asked') := firstAnswer answer request asked types
    ∃ requests rejections, asked' = asked ++ requests ∧
      (∀ reply ∈ rejections, startsWith SatelCommand.resultCode.toByte reply = true) ∧
      repliesTo answer asked requests = rejections ++
        match first with
        | some (_, .ok reply) => [reply]
        | _ => [] := by
  induction types generalizing asked with
  | nil => exact ⟨[], [], (List.append_nil _).symm, by simp, rfl⟩
  | cons devType types ih =>
    rw [firstAnswer]
    cases hanswer : answer asked (request devType) with
    | error e => exact ⟨[request devType], [], rfl, by simp, by simp [repliesTo, hanswer]⟩
    | ok reply =>
      by_cases rejected : startsWith SatelCommand.resultCode.toByte reply = true
      · obtain ⟨requests, rejections, longer, all, replies⟩ := ih (asked ++ [request devType])
        simp only [rejected, if_true]
        refine ⟨request devType :: requests, reply :: rejections, ?_, ?_, ?_⟩
        · rw [longer, List.append_assoc]
          rfl
        · rintro _ (_ | ⟨_, mem⟩)
          · exact rejected
          · exact all _ mem
        · simp only [repliesTo, hanswer]
          rw [replies]
          rfl
      · simp only [rejected]
        exact ⟨[request devType], [], rfl, by simp, by simp [repliesTo, hanswer]⟩

section Queries
variable {π : Type} {family : QueryFamily π} {idOf : π → UInt16} {env : Surroundings}
  {decoder : NameDecoder} {id : UInt16} {w : ClientWorld}

lemma number_of_rejection {kind : ItemKind} {reply : Frame}
    (rejected : startsWith SatelCommand.resultCode.toByte reply = true) :
    objectNumber kind reply = none := by
  cases number : objectNumber kind reply with
  | none => rfl
  | some n => cases (not_rejection_of_objectNumber number).symm.trans rejected

/-- The replies to a query: rejections, and the one it ends with. -/
lemma query_replies (family : QueryFamily π) (env : Surroundings) (id : UInt16) (w : ClientWorld) :
    ∃ rejections, (∀ reply ∈ rejections, objectNumber family.kind reply = none) ∧
      repliesTo env.answer w.asked ((family.first env id w).2.drop w.asked.length) = rejections ++
        match (family.first env id w).1 with
        | some (_, .ok reply) => [reply]
        | _ => [] := by
  obtain ⟨requests, rejections, longer, rejected, replies⟩ :=
    repliesTo_firstAnswer env.answer (family.request id) w.asked
      (family.typesToTry w.config.extendedNameRead (w.session family.kind).type
        (w.session family.kind).confirmed)
  change (family.first env id w).2 = w.asked ++ requests at longer
  refine ⟨rejections, fun reply mem => number_of_rejection (rejected reply mem), ?_⟩
  rw [longer, List.drop_left]
  exact replies

/-- What both functions of a family share: a value or an event for each reply that is read. -/
lemma answersItsQuestion_iff {α : Type} {source : Source α} {call : ClientCall α}
    (number : source.number = objectNumber family.kind)
    (asked : (call.run (ClientOp.exec env) w).2.asked = (family.first env id w).2)
    (read : ∀ devType reply n, (family.first env id w).1 = some (devType, .ok reply) →
      objectNumber family.kind reply = some n →
        (∃ a, (call.run (ClientOp.exec env) w).1 = .ok a ∧ source.value reply a) ∧
          (n = id → ∀ event ∈ (call.run (ClientOp.exec env) w).2.events.drop w.events.length,
            source.event reply event))
    (unread : (∀ devType reply, (family.first env id w).1 = some (devType, .ok reply) →
        objectNumber family.kind reply = none) →
      (∀ a, (call.run (ClientOp.exec env) w).1 = .ok a → source.unread a) ∧
        (call.run (ClientOp.exec env) w).2.events = w.events) :
    AnswersItsQuestion source call id env w ↔ NamesNoOther family env id w := by
  obtain ⟨rejections, rejected, replies⟩ := query_replies family env id w
  unfold AnswersItsQuestion NamesNoOther
  simp only [asked, replies, number]
  constructor
  · rintro ⟨values, -⟩ devType reply n first names
    obtain ⟨⟨a, result, -⟩, -⟩ := read devType reply n first names
    simp only [first] at values
    rcases values a result with ⟨reply', mem, names', -⟩ | ⟨none, -⟩
    · rcases List.mem_append.mp mem with early | last
      · cases (rejected reply' early).symm.trans names'
      · obtain rfl := List.mem_singleton.mp last
        exact Option.some.inj (names.symm.trans names')
    · cases (none reply (List.mem_append_right _ List.mem_cons_self)).symm.trans names
  · intro noOther
    by_cases found : ∃ devType reply n, (family.first env id w).1 = some (devType, .ok reply) ∧
        objectNumber family.kind reply = some n
    · obtain ⟨devType, reply, n, first, names⟩ := found
      obtain rfl := noOther devType reply n first names
      obtain ⟨⟨a, result, value⟩, events⟩ := read devType reply n first names
      have mem : reply ∈ rejections ++ [reply] :=
        List.mem_append_right _ List.mem_cons_self
      simp only [first]
      refine ⟨?_, ?_⟩
      · intro a' result'
        obtain rfl := Except.ok.inj (result.symm.trans result')
        exact .inl ⟨reply, mem, names, value⟩
      · intro event new _
        exact .inl ⟨reply, mem, names, events rfl event new⟩
    · have silent : ∀ devType reply, (family.first env id w).1 = some (devType, .ok reply) →
          objectNumber family.kind reply = none := by
        intro devType reply first
        cases names : objectNumber family.kind reply with
        | none => rfl
        | some n => exact absurd ⟨devType, reply, n, first, names⟩ found
      obtain ⟨values, events⟩ := unread silent
      refine ⟨?_, ?_⟩
      · intro a result
        refine .inr ⟨?_, values a result⟩
        intro reply mem
        rcases List.mem_append.mp mem with early | last
        · exact rejected reply early
        · split at last
          · rename_i devType reply' first
            obtain rfl := List.mem_singleton.mp last
            exact silent devType reply first
          · cases last
      · intro event new
        rw [events, List.drop_length] at new
        cases new

lemma QueryEnds.read {cache cache' : ItemCache} {devType : UInt8} {reply : Frame} {n : UInt16}
    {outcome : Except Failure (SatelName × Option π)}
    (h : QueryEnds family env decoder id cache (some (devType, .ok reply)) outcome cache')
    (names : objectNumber family.kind reply = some n) :
    ∃ name params, outcome = .ok (name, some params) ∧ Reads family decoder reply n name params := by
  cases h with
  | stored k k' number parsed =>
    obtain rfl := Option.some.inj (names.symm.trans number)
    exact ⟨_, _, rfl, _, parsed⟩
  | failed devType answer e unread => cases (unread reply rfl).symm.trans names

lemma QueryEnds.unread {cache cache' : ItemCache}
    {first : Option (UInt8 × Except SatelError Frame)}
    {outcome : Except Failure (SatelName × Option π)}
    (h : QueryEnds family env decoder id cache first outcome cache')
    (silent : ∀ devType reply, first = some (devType, .ok reply) →
      objectNumber family.kind reply = none) :
    (∃ e, outcome = .error e) ∨ ∃ now, outcome = .ok (⟨"", now⟩, none) := by
  cases h with
  | stored k k' number parsed => cases (silent _ _ rfl).symm.trans number
  | cleared k k' => exact .inr ⟨_, rfl⟩
  | failed devType answer e unread => exact .inl ⟨e, rfl⟩

lemma familyEvent_received {reply : Frame} {name : SatelName} {params : π}
    (reads : Reads family decoder reply id name params) {withParams : Bool} {event : QueryEvent}
    (mem : event ∈ family.received id name params withParams) :
    familyEvent family decoder reply event := by
  cases withParams with
  | false =>
    obtain rfl := List.mem_singleton.mp mem
    exact ⟨id, name, params, reads, .inl rfl⟩
  | true =>
    rcases List.mem_cons.mp mem with rfl | last
    · exact ⟨id, name, params, reads, .inl rfl⟩
    · obtain rfl := List.mem_singleton.mp last
      exact ⟨id, name, params, reads, .inr rfl⟩

/-- What both functions of a family do with the outcome of their query answers the question. -/
lemma followsQuery_answers_iff {α : Type} {source : Source α} {call : ClientCall α}
    {blank : SatelName → α} {value : SatelName → π → α} {withParams : Config → Bool}
    (member : family.Member idOf)
    (follows : FollowsQuery family env decoder id w call blank value withParams)
    (number : source.number = objectNumber family.kind)
    (event : source.event = familyEvent family decoder)
    (gives : ∀ reply n name params, Reads family decoder reply n name params →
      source.value reply (value name params))
    (empty : ∀ now, source.unread (blank ⟨"", now⟩)) :
    AnswersItsQuestion source call id env w ↔ NamesNoOther family env id w := by
  obtain ⟨keeps, asked, ends⟩ := @queryInternal_ends _ family idOf env decoder id w member
  obtain ⟨-, asked', result⟩ := follows
  refine answersItsQuestion_iff number (asked'.trans asked) ?_ ?_
  · intro devType reply n first names
    rw [first] at ends
    obtain ⟨name, params, outcome, reads⟩ := ends.read names
    rw [outcome, keeps.events] at result
    obtain ⟨returned, events⟩ := result
    refine ⟨⟨_, returned, gives reply n name params reads⟩, ?_⟩
    rintro rfl sent new
    rw [events, List.drop_left] at new
    rw [event]
    exact familyEvent_received reads new
  · intro silent
    rcases ends.unread silent with ⟨e, outcome⟩ | ⟨now, outcome⟩
    · rw [outcome, keeps.events] at result
      obtain ⟨returned, events⟩ := result
      refine ⟨?_, events⟩
      intro a ok
      cases returned.symm.trans ok
    · rw [outcome, keeps.events] at result
      obtain ⟨returned, events⟩ := result
      refine ⟨?_, events⟩
      intro a ok
      obtain rfl := Except.ok.inj (returned.symm.trans ok)
      exact empty now

lemma getName_answers_iff (member : family.Member idOf) :
    AnswersItsQuestion (nameSource family decoder) (getName family decoder id) id env w ↔
      NamesNoOther family env id w :=
  followsQuery_answers_iff member getName_follows rfl rfl
    (fun _ n _ params reads => ⟨n, params, reads⟩) fun _ => rfl

lemma getParams_answers_iff (member : family.Member idOf) :
    AnswersItsQuestion (paramsSource family decoder) (getParams family decoder id) id env w ↔
      NamesNoOther family env id w :=
  followsQuery_answers_iff member getParams_follows rfl rfl
    (fun _ n name _ reads => ⟨n, name, reads⟩) fun now => ⟨id, now, rfl⟩

end Queries

/-! ### Temperatures -/

def temperatureSource : Source ZoneTemperature where
  number reply := (temperatureReply reply).map Prod.fst
  value reply a := ∃ raw, temperatureReply reply = some (a.zoneId, raw) ∧ raw ≠ 0xFFFF ∧
    a.temperature = (raw.toNat : Int) - 110
  event reply event :=
    (∃ id raw, temperatureReply reply = some (id, raw) ∧ raw ≠ 0xFFFF ∧
      event = .zoneTemperatureChanged id ((raw.toNat : Int) - 110)) ∨
    ∃ id, temperatureReply reply = some (id, 0xFFFF) ∧
      event = .zoneTemperatureError id .communicationError
  unread _ := False

def TemperatureNamesNoOther (env : Surroundings) (id : UInt16) (w : ClientWorld) : Prop :=
  ∀ reply n raw, env.answer w.asked (temperatureRequest id) = .ok reply →
    temperatureReply reply = some (n, raw) → n = id

section Temperatures
variable {env : Surroundings} {id : UInt16} {w : ClientWorld}

lemma temperatureReply_inRange {reply : Frame} {n raw : UInt16}
    (h : temperatureReply reply = some (n, raw)) : InRange .zone n := by
  obtain ⟨b, -, -, rfl⟩ := temperatureReply_number h
  unfold wideNumber
  by_cases zero : b = 0
  · rw [if_pos zero]
    decide
  · rw [if_neg zero]
    have positive : b.toNat ≠ 0 := fun h => zero (UInt8.toNat_inj.mp h)
    have small := b.toNat_lt
    refine ⟨UInt16.le_iff_toNat_le.mpr ?_, UInt16.le_iff_toNat_le.mpr ?_⟩
    · rw [UInt8.toNat_toUInt16, UInt16.toNat_one]
      omega
    · change b.toUInt16.toNat ≤ 256
      rw [UInt8.toNat_toUInt16]
      omega

lemma temperature_asked :
    ((getZoneTemperatureRaw id).run (ClientOp.exec env) w).2.asked =
      w.asked ++ [temperatureRequest id] := by
  rw [getZoneTemperatureRaw, run_getZoneTemperatureRawTimeout]
  cases reading (env.answer w.asked (temperatureRequest id)) with
  | error e => rfl
  | ok value =>
    obtain ⟨zoneId, temp⟩ := value
    obtain ⟨w', taken, -, -, asked, -⟩ :=
      @run_takeTemperature env (w.ask (temperatureRequest id)) zoneId temp
    simp only [taken]
    exact asked

lemma temperature_replies :
    repliesTo env.answer w.asked
        (((getZoneTemperatureRaw id).run (ClientOp.exec env) w).2.asked.drop w.asked.length) =
      match env.answer w.asked (temperatureRequest id) with
      | .ok reply => [reply]
      | .error _ => [] := by
  rw [temperature_asked, List.drop_left, repliesTo]
  cases env.answer w.asked (temperatureRequest id) with
  | ok reply => rfl
  | error e => rfl

/-- A failed read reports the zone it was asked for. -/
lemma temperature_failed {e : SatelError} (inRange : InRange .zone id)
    (failed : reading (env.answer w.asked (temperatureRequest id)) = .error e) :
    let result := (getZoneTemperatureRaw id).run (ClientOp.exec env) w
    (∃ e', result.1 = .error e') ∧ result.2.events = w.events ++
      [.zoneTemperatureError id ((w.cache.zones (itemIndex 256 id)).reportedStatus e)] := by
  intro result
  have run : result = _ := run_getZoneTemperatureRawTimeout id none
  simp only [failed] at run
  rw [run]
  refine ⟨⟨_, rfl⟩, ?_⟩
  have number : itemId (itemIndex 256 id) = id :=
    itemId_itemIndex inRange.1 (UInt16.le_iff_toNat_le.mp inRange.2)
  simp only [ClientWorld.countTempError, number]
  rfl

/-- A temperature is returned and reported under the number of the reply. -/
lemma temperature_taken {n raw : UInt16} {reply : Frame}
    (answered : env.answer w.asked (temperatureRequest id) = .ok reply)
    (replied : temperatureReply reply = some (n, raw)) (present : raw ≠ 0xFFFF) :
    let result := (getZoneTemperatureRaw id).run (ClientOp.exec env) w
    let temp : HalfDegrees := (raw.toNat : Int) - 110
    (∃ a, result.1 = .ok a ∧ a.zoneId = n ∧ a.temperature = temp) ∧
      (result.2.events = w.events ∨
        result.2.events = w.events ++ [.zoneTemperatureChanged n temp]) := by
  intro result temp
  have read : reading (env.answer w.asked (temperatureRequest id)) = .ok (n, temp) := by
    simp only [answered, reading, replied]
    exact if_neg present
  have run : result = _ := run_getZoneTemperatureRawTimeout id none
  simp only [read] at run
  obtain ⟨w', taken, -, -, -, events⟩ :=
    @run_takeTemperature env (w.ask (temperatureRequest id)) n temp
  rw [run, taken]
  have inRange := temperatureReply_inRange replied
  refine ⟨⟨_, rfl, ?_, ?_⟩, events⟩
  · exact itemId_itemIndex inRange.1 (UInt16.le_iff_toNat_le.mp inRange.2)
  · simp [ItemCache.enter, ZoneItem.toZoneTemperature, ZoneItem.temperatureSuccess]

/-- Without a reading there is no value, and the one event reports an error. -/
lemma temperature_unread (inRange : InRange .zone id)
    (silent : ∀ reply, env.answer w.asked (temperatureRequest id) = .ok reply →
      temperatureReply reply = none) :
    AnswersItsQuestion temperatureSource (getZoneTemperatureRaw id) id env w := by
  have read : ∃ e, reading (env.answer w.asked (temperatureRequest id)) = .error e := by
    cases answered : env.answer w.asked (temperatureRequest id) with
    | error e => exact ⟨e, rfl⟩
    | ok reply =>
      refine ⟨.invalidFrame, ?_⟩
      simp only [reading, silent reply answered]
  obtain ⟨e, read⟩ := read
  obtain ⟨⟨e', result⟩, events⟩ := temperature_failed inRange read
  unfold AnswersItsQuestion
  simp only [temperature_replies]
  refine ⟨?_, ?_⟩
  · intro a ok
    cases result.symm.trans ok
  · intro event new _
    rw [events, List.drop_left] at new
    obtain rfl := List.mem_singleton.mp new
    refine .inr ⟨?_, _, rfl⟩
    intro reply mem
    split at mem
    · rename_i answer answered
      obtain rfl := List.mem_singleton.mp mem
      simp [temperatureSource, silent reply answered]
    · cases mem

/-- A sensor error is reported for the zone that was asked for, whatever zone it is of. -/
lemma temperature_broken_iff {n : UInt16} {reply : Frame} (inRange : InRange .zone id)
    (answered : env.answer w.asked (temperatureRequest id) = .ok reply)
    (replied : temperatureReply reply = some (n, 0xFFFF)) :
    AnswersItsQuestion temperatureSource (getZoneTemperatureRaw id) id env w ↔ n = id := by
  have read : reading (env.answer w.asked (temperatureRequest id)) =
      .error .temperatureSensorError := by
    simp only [answered, reading, replied]
    rfl
  obtain ⟨⟨e', result⟩, events⟩ := temperature_failed inRange read
  have names : temperatureSource.number reply = some n := by simp [temperatureSource, replied]
  unfold AnswersItsQuestion
  simp only [temperature_replies, answered, events, List.drop_left]
  constructor
  · rintro ⟨-, told⟩
    rcases told _ List.mem_cons_self rfl with ⟨reply', mem, names', -⟩ | ⟨none, -⟩
    · obtain rfl := List.mem_singleton.mp mem
      exact Option.some.inj (names.symm.trans names')
    · cases (none reply List.mem_cons_self).symm.trans names
  · rintro rfl
    refine ⟨?_, ?_⟩
    · intro a ok
      cases result.symm.trans ok
    · intro event new _
      obtain rfl := List.mem_singleton.mp new
      exact .inl ⟨reply, List.mem_cons_self, names, .inr ⟨n, replied, rfl⟩⟩

/-- A temperature is returned and reported as that of the zone it is of. -/
lemma temperature_present_iff {n raw : UInt16} {reply : Frame}
    (answered : env.answer w.asked (temperatureRequest id) = .ok reply)
    (replied : temperatureReply reply = some (n, raw)) (present : raw ≠ 0xFFFF) :
    AnswersItsQuestion temperatureSource (getZoneTemperatureRaw id) id env w ↔ n = id := by
  obtain ⟨⟨a, result, number, value⟩, events⟩ := temperature_taken answered replied present
  have names : temperatureSource.number reply = some n := by simp [temperatureSource, replied]
  unfold AnswersItsQuestion
  simp only [temperature_replies, answered]
  constructor
  · rintro ⟨values, -⟩
    rcases values a result with ⟨reply', mem, names', -⟩ | ⟨-, ⟨⟩⟩
    obtain rfl := List.mem_singleton.mp mem
    exact Option.some.inj (names.symm.trans names')
  · rintro rfl
    refine ⟨?_, ?_⟩
    · intro a' ok
      obtain rfl := Except.ok.inj (result.symm.trans ok)
      refine .inl ⟨reply, List.mem_cons_self, names, raw, ?_, present, value⟩
      rw [replied, number]
    · intro event new _
      refine .inl ⟨reply, List.mem_cons_self, names, .inl ?_⟩
      rcases events with same | more
      · rw [same, List.drop_length] at new
        cases new
      · rw [more, List.drop_left] at new
        obtain rfl := List.mem_singleton.mp new
        exact ⟨n, raw, replied, present, rfl⟩

lemma temperature_answers_iff (inRange : InRange .zone id) :
    AnswersItsQuestion temperatureSource (getZoneTemperatureRaw id) id env w ↔
      TemperatureNamesNoOther env id w := by
  by_cases named : ∃ reply n raw, env.answer w.asked (temperatureRequest id) = .ok reply ∧
      temperatureReply reply = some (n, raw)
  · obtain ⟨reply, n, raw, answered, replied⟩ := named
    have same : TemperatureNamesNoOther env id w ↔ n = id := by
      constructor
      · intro noOther
        exact noOther reply n raw answered replied
      · rintro rfl reply' n' raw' answered' replied'
        cases answered.symm.trans answered'
        cases replied.symm.trans replied'
        rfl
    rw [same]
    by_cases broken : raw = 0xFFFF
    · subst broken
      exact temperature_broken_iff inRange answered replied
    · exact temperature_present_iff answered replied broken
  · refine iff_of_true (temperature_unread inRange ?_) ?_
    · intro reply answered
      cases replied : temperatureReply reply with
      | none => rfl
      | some value => exact absurd ⟨reply, value.1, value.2, answered, replied⟩ named
    · intro reply n raw answered replied
      exact absurd ⟨reply, n, raw, answered, replied⟩ named

end Temperatures

/-- The seven queries, for any answers and any state of the client. -/
theorem answers_its_question_iff (env : Surroundings) (decoder : NameDecoder) (id : UInt16)
    (w : ClientWorld) :
    (AnswersItsQuestion (nameSource zoneFamily decoder) (getZoneName decoder id) id env w ↔
        NamesNoOther zoneFamily env id w) ∧
      (AnswersItsQuestion (paramsSource zoneFamily decoder) (getZoneParams decoder id) id env w ↔
        NamesNoOther zoneFamily env id w) ∧
      (AnswersItsQuestion (nameSource outputFamily decoder) (getOutputName decoder id) id env w ↔
        NamesNoOther outputFamily env id w) ∧
      (AnswersItsQuestion (paramsSource outputFamily decoder) (getOutputParams decoder id) id env w ↔
        NamesNoOther outputFamily env id w) ∧
      (AnswersItsQuestion (nameSource partitionFamily decoder) (getPartitionName decoder id) id env
          w ↔ NamesNoOther partitionFamily env id w) ∧
      (AnswersItsQuestion (paramsSource partitionFamily decoder) (getPartitionParams decoder id) id
          env w ↔ NamesNoOther partitionFamily env id w) ∧
      (InRange .zone id →
        (AnswersItsQuestion temperatureSource (getZoneTemperatureRaw id) id env w ↔
          TemperatureNamesNoOther env id w)) :=
  ⟨getName_answers_iff .zone, getParams_answers_iff .zone, getName_answers_iff .output,
    getParams_answers_iff .output, getName_answers_iff .partition, getParams_answers_iff .partition,
    temperature_answers_iff⟩

/-- The reply of zone 3, which came too late. -/
def lateReply : Frame :=
  [0xEE, 5, 3, 0, 72, 97, 108, 108, 32, 32, 32, 32, 32, 32, 32, 32, 32, 32, 32, 32, 1]

/-- A panel that is too slow for the first request, and answers it during the second. -/
def slowPanel : Surroundings where
  answer asked _ := if asked.isEmpty then .error .timeout else .ok lateReply
  connected _ := .ok ()
  now _ := ⟨0, Nat.zero_le _⟩

/-- Characters that are the same in Windows-1250 and ASCII. -/
def asciiDecoder : NameDecoder := fun raw => (raw.map fun b => Char.ofNat b.toNat, false)

/-- A panel where zone 3 has a sensor at 20 °C. -/
def warmPanel : Surroundings where
  answer _ _ := .ok [0x7D, 3, 0, 150]
  connected _ := .ok ()
  now _ := ⟨0, Nat.zero_le _⟩

/-- The second try to get the name of zone 3 is answered, and so is a read of its temperature. -/
theorem answers_its_question_iff_zone_3 :
    let slow := ((getZoneName asciiDecoder 3).run (ClientOp.exec slowPanel)
      (.new {} ⟨0, Nat.zero_le _⟩)).2
    AnswersItsQuestion (nameSource zoneFamily asciiDecoder) (getZoneName asciiDecoder 3) 3 slowPanel
        slow ∧
      InRange .zone 3 ∧
      AnswersItsQuestion temperatureSource (getZoneTemperatureRaw 3) 3 warmPanel
        (.new {} ⟨0, Nat.zero_le _⟩) := by
  intro slow
  have inRange : InRange .zone 3 := by decide
  obtain ⟨name, -⟩ := answers_its_question_iff slowPanel asciiDecoder 3 slow
  obtain ⟨-, -, -, -, -, -, temperature⟩ :=
    answers_its_question_iff warmPanel asciiDecoder 3 (.new {} ⟨0, Nat.zero_le _⟩)
  refine ⟨name.mpr ?_, inRange, (temperature inRange).mpr ?_⟩
  · intro devType reply n first names
    cases first
    cases names
    rfl
  · intro reply n raw answered replied
    cases answered
    cases replied
    rfl

/-- The name of zone 3 is given for that of zone 5: an exchange takes the late reply, and the query
returns it and reports it under the number 5. -/
theorem late_reply_names_zone_5 :
    let slow := ((getZoneName asciiDecoder 3).run (ClientOp.exec slowPanel)
      (.new {} ⟨0, Nat.zero_le _⟩)).2
    acceptedReply 0xEE (millis 3000) 0 [⟨millis 10, .frame lateReply⟩] = some (lateReply, []) ∧
      ((getZoneName asciiDecoder 5).run (ClientOp.exec slowPanel) slow).2.events.map
        QueryEvent.objectId = [some 5, some 5] ∧
      ¬ AnswersItsQuestion (nameSource zoneFamily asciiDecoder) (getZoneName asciiDecoder 5) 5
        slowPanel slow := by
  refine ⟨rfl, rfl, ?_⟩
  rintro ⟨values, -⟩
  rcases values ⟨"Hall", ⟨0, Nat.zero_le _⟩⟩ rfl with ⟨reply, mem, names, -⟩ | ⟨none, -⟩
  · obtain rfl : reply = lateReply := List.mem_singleton.mp mem
    cases names
  · cases none lateReply List.mem_cons_self

end SatelIntegra
