import SatelIntegra.Queries

/-!
# What a name query does

Everything a query does follows from the first answer that is not a rejection: an
error ends it, silence of all types clears the entry, and a reply is stored under the
number it carries, after the level of the session.
-/

namespace SatelIntegra

open CheckedAccess AtomicCalls

/-- The object number a reply to a query of this kind carries, if its parser accepts it. -/
def objectNumber : ItemKind → Frame → Option UInt16
  | .zone => namedObject zoneLayouts wideNumber
  | .output => namedObject outputLayouts wideNumber
  | .partition => namedObject partitionLayouts UInt8.toUInt16

lemma startsWith_of_objectNumber {kind : ItemKind} {reply : Frame} {n : UInt16}
    (h : objectNumber kind reply = some n) : startsWith 0xEE reply = true := by
  rcases reply with _ | ⟨first, data⟩
  · cases kind <;> cases h
  · by_cases hf : first = 0xEE
    · simp [startsWith, hf]
    · cases kind <;> simp [objectNumber, namedObject_first hf] at h

/-- A rejection carries no number. -/
lemma not_rejection_of_objectNumber {kind : ItemKind} {reply : Frame} {n : UInt16}
    (h : objectNumber kind reply = some n) : startsWith 0xEF reply = false := by
  have name := startsWith_of_objectNumber h
  simp only [startsWith, beq_iff_eq] at name
  simp [startsWith, name]

/-- The three families differ in their parameters only. -/
inductive QueryFamily.Member : {π : Type} → QueryFamily π → (π → UInt16) → Prop where
  | zone : Member zoneFamily ZoneParams.zoneId
  | output : Member outputFamily OutputParams.outputId
  | partition : Member partitionFamily PartitionParams.partitionId

lemma QueryFamily.Member.reads {π : Type} {family : QueryFamily π} {idOf : π → UInt16}
    (member : family.Member idOf) (decoder : NameDecoder) :
    ReadsNumber (objectNumber family.kind) idOf (family.process decoder) := by
  cases member with
  | zone => exact processZoneResponse_reads decoder
  | output => exact processOutputResponse_reads decoder
  | partition => exact processPartitionResponse_reads decoder

/-- The request of a query. -/
def QueryFamily.request {π : Type} (family : QueryFamily π) (id : UInt16) (devType : UInt8) :
    Frame :=
  [SatelCommand.readDeviceName.toByte, devType, family.deviceId id]

/-- The first answer that is not a rejection, with the type it answers, and all requests made by
then. -/
def firstAnswer (answer : List Frame → Frame → Except SatelError Frame)
    (request : UInt8 → Frame) (asked : List Frame) :
    List UInt8 → Option (UInt8 × Except SatelError Frame) × List Frame
  | [] => (none, asked)
  | devType :: types =>
    let asked' := asked ++ [request devType]
    match answer asked (request devType) with
    | .error e => (some (devType, .error e), asked')
    | .ok reply =>
      if startsWith SatelCommand.resultCode.toByte reply then
        firstAnswer answer request asked' types
      else (some (devType, .ok reply), asked')

/-- Only a type of the list is answered, and not by a rejection. -/
lemma firstAnswer_some {answer : List Frame → Frame → Except SatelError Frame}
    {request : UInt8 → Frame} {asked asked' : List Frame} {types : List UInt8} {devType : UInt8}
    {reply : Frame} (h : firstAnswer answer request asked types = (some (devType, .ok reply), asked')) :
    devType ∈ types ∧ ∃ before, answer before (request devType) = .ok reply ∧
      asked' = before ++ [request devType] ∧ asked <+: before := by
  induction types generalizing asked with
  | nil => cases h
  | cons first types ih =>
    rw [firstAnswer] at h
    cases hanswer : answer asked (request first) with
    | error e =>
      rw [hanswer] at h
      cases h
    | ok reply' =>
      rw [hanswer] at h
      by_cases rejected : startsWith SatelCommand.resultCode.toByte reply' = true
      · simp only [rejected, if_true] at h
        obtain ⟨mem, before, answered, rfl, longer⟩ := ih h
        refine ⟨List.mem_cons_of_mem _ mem, before, answered, rfl, ?_⟩
        exact (List.prefix_append _ _).trans longer
      · simp only [rejected] at h
        cases h
        exact ⟨List.mem_cons_self, asked, hanswer, rfl, List.prefix_rfl⟩

/-- The level of a session after a reply to a query of type `devType`. -/
def SessionLevel.confirm (loaded devType : UInt8) (level : SessionLevel) : SessionLevel where
  type := if devType < loaded then devType else level.type
  confirmed := true

section Runs
variable {π : Type} {family : QueryFamily π} {idOf : π → UInt16} {env : Surroundings}
  {decoder : NameDecoder} {id : UInt16} {w : ClientWorld}

open ClientCall

/-- Both stores together. -/
lemma run_storeLevel {α : Type} (kind : ItemKind) (loaded devType : UInt8)
    (next : ClientCall α) :
    (do
      if devType < loaded then CallTree.perform (ClientOp.storeType kind devType)
      CallTree.perform (ClientOp.storeConfirmed kind)
      next : ClientCall α).run (ClientOp.exec env) w =
    next.run (ClientOp.exec env)
      (w.setLevel kind ((w.session kind).confirm loaded devType)) := by
  by_cases lower : devType < loaded
  · simp [lower, ClientWorld.setType, ClientWorld.setConfirmed, ClientWorld.setLevel_setLevel,
      SessionLevel.confirm]
  · simp [lower, ClientWorld.setConfirmed, SessionLevel.confirm]

section Only
variable {P : ClientOp → Prop}

lemma orReturn_only {α : Type} (a : Except SatelError α) : (orReturn a).Only P := by
  cases a <;> exact trivial

lemma orPanic_only {α : Type} (a : Except Panic α) : (orPanic a).Only P := by
  cases a <;> exact trivial

/-- A reply is read with the clock and stored under the lock. -/
lemma readReply_only (clock : P .localNow) (lock : ∀ code, P (.underLock code))
    (response : Frame) :
    (do
      let parsed ← orPanic (family.process decoder response (← ClientCall.localNow)).run
      let (number, name, params) ← orReturn parsed
      let _ ← underLock (family.store number name params)
      return (name, some params) : ClientCall (SatelName × Option π)).Only P := by
  rw [CallTree.only_perform_bind]
  refine ⟨clock, fun now => (orPanic_only _).bind fun parsed => (orReturn_only parsed).bind ?_⟩
  rintro ⟨number, name, params⟩
  rw [CallTree.only_perform_bind]
  exact ⟨lock _, fun _ => trivial⟩

end Only

/-- The level is stored whether or not the parser accepts the reply. -/
theorem run_takeReply (member : family.Member idOf) (loaded devType : UInt8) (reply : Frame) :
    let leveled := w.setLevel family.kind ((w.session family.kind).confirm loaded devType)
    let result := (takeReply family decoder loaded devType reply).run (ClientOp.exec env) w
    (∃ n, objectNumber family.kind reply = some n ∧ ∃ name params, idOf params = n ∧
      family.process decoder reply (env.now w.clockReadings) =
        (.ok (.ok (n, name, params)) : Except Panic _) ∧
      result = (.ok (name, some params),
        leveled.readClock.enter env (family.store n name params))) ∨
    (objectNumber family.kind reply = none ∧
      result = (.error (.returned .invalidFrame), leveled.readClock)) := by
  intro leveled result
  have stored : result = _ := run_storeLevel family.kind loaded devType _
  rw [stored]
  rcases member.reads decoder reply (env.now w.clockReadings) with
    ⟨n, number, name, params, hid, parsed⟩ | ⟨number, parsed⟩
  · refine .inl ⟨n, number, name, params, hid, parsed, ?_⟩
    simp [ExceptT.run, parsed, leveled]
  · refine .inr ⟨number, ?_⟩
    simp [ExceptT.run, parsed, leveled]

/-- The rest of a query, once the first answer that is not a rejection is known. -/
def settle (family : QueryFamily π) (decoder : NameDecoder) (id : UInt16) (loaded : UInt8) :
    Option (UInt8 × Except SatelError Frame) → ClientCall (SatelName × Option π)
  | none => tryTypes family decoder id loaded []
  | some (_, .error e) => throw (.returned e)
  | some (devType, .ok reply) =>
    if startsWith SatelCommand.readDeviceName.toByte reply then
      takeReply family decoder loaded devType reply
    else throw (.returned .invalidFrame)

/-- The loop over the types changes nothing before it has that answer. -/
theorem run_tryTypes (loaded : UInt8) (types : List UInt8) :
    (tryTypes family decoder id loaded types).run (ClientOp.exec env) w =
      let (first, asked) := firstAnswer env.answer (family.request id) w.asked types
      (settle family decoder id loaded first).run (ClientOp.exec env) { w with asked := asked } := by
  induction types generalizing w with
  | nil => rfl
  | cons devType types ih =>
    rw [tryTypes, firstAnswer, CallTree.run_perform_bind, ClientOp.exec_exchange]
    change CallTree.run _ (orReturn (env.answer w.asked (family.request id devType)) >>= _) _ = _
    cases env.answer w.asked (family.request id devType) with
    | error e => rfl
    | ok reply =>
      rw [orReturn_ok, CallTree.run_pure_bind]
      by_cases rejected : startsWith SatelCommand.resultCode.toByte reply = true
      · simp only [rejected, if_true]
        exact ih
      · simp only [rejected]
        rfl

/-- A query is its first answer and what follows from it. -/
theorem run_queryInternal :
    (queryInternal family decoder id).run (ClientOp.exec env) w =
      let loaded := (w.session family.kind).type
      let types := family.typesToTry w.config.extendedNameRead loaded
        (w.session family.kind).confirmed
      let (first, asked) := firstAnswer env.answer (family.request id) w.asked types
      (settle family decoder id loaded first).run (ClientOp.exec env) { w with asked := asked } :=
  run_tryTypes _ _

/-- What no query changes. -/
structure QueryKeeps (w w' : ClientWorld) : Prop where
  events : w'.events = w.events
  config : w'.config = w.config

/-- How a query ends, once its first answer that is not a rejection is known: with the data of a
reply, stored under the number of that reply; after the rejection of all types, with the entry
cleared; or with an error and the cache as it was. -/
inductive QueryEnds (family : QueryFamily π) (env : Surroundings) (decoder : NameDecoder)
    (id : UInt16) (cache : ItemCache) :
    Option (UInt8 × Except SatelError Frame) → Except Failure (SatelName × Option π) → ItemCache →
      Prop where
  | stored {devType : UInt8} {reply : Frame} {n : UInt16} {name : SatelName} {params : π}
      (k k' : Nat) (number : objectNumber family.kind reply = some n)
      (parsed : family.process decoder reply (env.now k) =
        (.ok (.ok (n, name, params)) : Except Panic _)) :
      QueryEnds family env decoder id cache (some (devType, .ok reply)) (.ok (name, some params))
        (cache.enter (env.now k') (family.store n name params))
  | cleared (k k' : Nat) :
      QueryEnds family env decoder id cache none (.ok (⟨"", env.now k⟩, none))
        (cache.enter (env.now k') (family.clear id (env.now k)))
  | failed (devType : UInt8) (answer : Except SatelError Frame) (e : Failure)
      (unread : ∀ reply, answer = .ok reply → objectNumber family.kind reply = none) :
      QueryEnds family env decoder id cache (some (devType, answer)) (.error e) cache

lemma run_settle (member : family.Member idOf) (loaded : UInt8)
    (first : Option (UInt8 × Except SatelError Frame)) :
    let result := (settle family decoder id loaded first).run (ClientOp.exec env) w
    QueryKeeps w result.2 ∧ result.2.asked = w.asked ∧
      QueryEnds family env decoder id w.cache first result.1 result.2.cache := by
  intro result
  rcases first with _ | ⟨devType, e | reply⟩
  · exact ⟨⟨rfl, rfl⟩, rfl, .cleared _ _⟩
  · refine ⟨⟨rfl, rfl⟩, rfl, .failed _ _ _ ?_⟩
    intro reply same
    cases same
  by_cases name : startsWith SatelCommand.readDeviceName.toByte reply = true
  · have run : result = (takeReply family decoder loaded devType reply).run (ClientOp.exec env) w := by
      simp only [result, settle]
      rw [if_pos name]
    rw [run]
    rcases @run_takeReply _ _ _ env decoder w member loaded devType reply with
      ⟨n, number, p, params, -, parsed, taken⟩ | ⟨number, taken⟩
    · rw [taken]
      exact ⟨⟨rfl, rfl⟩, rfl, .stored _ _ number parsed⟩
    · rw [taken]
      refine ⟨⟨rfl, rfl⟩, rfl, .failed _ _ _ ?_⟩
      rintro _ ⟨rfl⟩
      exact number
  · have run : result = (.error (.returned .invalidFrame), w) := by
      simp only [result, settle]
      rw [if_neg name]
      rfl
    rw [run]
    refine ⟨⟨rfl, rfl⟩, rfl, .failed _ _ _ ?_⟩
    rintro _ ⟨rfl⟩
    cases number : objectNumber family.kind reply with
    | none => rfl
    | some n => exact absurd (startsWith_of_objectNumber number) name

/-- The first answer a query gets that is not a rejection, and all requests made by its end. -/
def QueryFamily.first (family : QueryFamily π) (env : Surroundings) (id : UInt16) (w : ClientWorld) :
    Option (UInt8 × Except SatelError Frame) × List Frame :=
  let level := w.session family.kind
  firstAnswer env.answer (family.request id) w.asked
    (family.typesToTry w.config.extendedNameRead level.type level.confirmed)

theorem queryInternal_ends (member : family.Member idOf) :
    let result := (queryInternal family decoder id).run (ClientOp.exec env) w
    QueryKeeps w result.2 ∧ result.2.asked = (family.first env id w).2 ∧
      QueryEnds family env decoder id w.cache (family.first env id w).1 result.1 result.2.cache := by
  intro result
  have run : result = (settle family decoder id (w.session family.kind).type
      (family.first env id w).1).run (ClientOp.exec env)
        { w with asked := (family.first env id w).2 } := run_queryInternal
  rw [run]
  obtain ⟨quiet, asked, ends⟩ := @run_settle _ family idOf env decoder id
    { w with asked := (family.first env id w).2 } member (w.session family.kind).type
    (family.first env id w).1
  exact ⟨⟨quiet.events, quiet.config⟩, asked, ends⟩

/-- The events of a query that has the parameters; those of `getName` depend on the
configuration. -/
def QueryFamily.received (family : QueryFamily π) (id : UInt16) (name : SatelName) (params : π)
    (withParams : Bool) : List QueryEvent :=
  if withParams then [family.nameReceived id name.name, family.paramsReceived id params]
  else [family.nameReceived id name.name]

/-- What a function of a family makes of the outcome of its query: an error is passed on, a name
without parameters gives `blank`, and one with parameters gives `value` and the family's events. -/
def FollowsQuery {α : Type} (family : QueryFamily π) (env : Surroundings) (decoder : NameDecoder)
    (id : UInt16) (w : ClientWorld) (call : ClientCall α) (blank : SatelName → α)
    (value : SatelName → π → α) (withParams : Config → Bool) : Prop :=
  let query := (queryInternal family decoder id).run (ClientOp.exec env) w
  let result := call.run (ClientOp.exec env) w
  result.2.cache = query.2.cache ∧ result.2.asked = query.2.asked ∧
    match query.1 with
    | .ok (name, some params) => result.1 = .ok (value name params) ∧ result.2.events =
        query.2.events ++ family.received id name params (withParams query.2.config)
    | .ok (name, none) => result.1 = .ok (blank name) ∧ result.2.events = query.2.events
    | .error e => result.1 = .error e ∧ result.2.events = query.2.events

lemma followsQuery_bind {α : Type} {rest : SatelName × Option π → ClientCall α}
    {blank : SatelName → α} {value : SatelName → π → α} {withParams : Config → Bool}
    (without : ∀ name w', (rest (name, none)).run (ClientOp.exec env) w' = (.ok (blank name), w'))
    (withSome : ∀ name params w', (rest (name, some params)).run (ClientOp.exec env) w' =
      (.ok (value name params), { w' with
        events := w'.events ++ family.received id name params (withParams w'.config) })) :
    FollowsQuery family env decoder id w (queryInternal family decoder id >>= rest) blank value
      withParams := by
  unfold FollowsQuery
  rcases h : (queryInternal family decoder id).run (ClientOp.exec env) w with
    ⟨e | ⟨name, _ | params⟩, w'⟩
  · rw [CallTree.run_bind_error h]
    exact ⟨rfl, rfl, rfl, rfl⟩
  · rw [CallTree.run_bind_ok h, without]
    exact ⟨rfl, rfl, rfl, rfl⟩
  · rw [CallTree.run_bind_ok h, withSome]
    exact ⟨rfl, rfl, rfl, rfl⟩

lemma getName_follows :
    FollowsQuery family env decoder id w (getName family decoder id) (fun name => name)
      (fun name _ => name) (·.extendedNameRead) := by
  refine followsQuery_bind (fun _ _ => rfl) ?_
  intro name params w'
  by_cases extended : w'.config.extendedNameRead = true
  · simp [extended, QueryFamily.received, ClientWorld.send]
  · simp [extended, QueryFamily.received, ClientWorld.send]

lemma getParams_follows :
    FollowsQuery family env decoder id w (getParams family decoder id)
      (fun name => family.unconfigured id name.readAt) (fun _ params => params)
      (fun _ => true) := by
  refine followsQuery_bind (fun _ _ => rfl) ?_
  intro name params w'
  simp [QueryFamily.received, ClientWorld.send]

end Runs
end SatelIntegra
