import Mathlib.Data.List.Nodup
import SatelIntegra.CallTraces
import SatelIntegra.QueryRuns
import SatelIntegra.Temperatures

/-!
# Queries of all objects of a kind

`get_all_zone_names` and its siblings query the objects one after another and report
their progress. Many other calls may run between two of these queries, so the results
are about every run: whatever the panel answers and whatever others do, each object is
queried once and in order, and the events and the value account for each outcome. The
text of an error is a parameter, since that of an I/O error comes from the system.
-/

namespace SatelIntegra

open CheckedAccess AtomicCalls

inductive SyncCategory where
  | zones
  | outputs
  | partitions
  | temperatures
  deriving DecidableEq, Repr

inductive SyncEvent where
  | syncStarted (category : SyncCategory) (total : UInt16)
  | syncProgress (category : SyncCategory) (current total : UInt16) (name : String)
  | syncFinished (category : SyncCategory) (total successCount : UInt16) (error : Option String)
  deriving DecidableEq, Repr

/-- A sync performs the operations of its queries, reads the version of the panel and sends its
own events. -/
inductive SyncOp where
  | client (op : ClientOp)
  | cachedVersion
  | send (event : SyncEvent)

abbrev SyncOp.Answer : SyncOp → Type
  | client op => op.Answer
  | cachedVersion => Option IntegraVersion
  | send _ => Unit

abbrev SyncCall (α : Type) := CallTree SyncOp SyncOp.Answer Failure α

abbrev ClientStep := Performed ClientOp ClientOp.Answer

abbrev SyncStep := Performed SyncOp SyncOp.Answer

/-- What the operations of a sync share. -/
structure SyncWorld where
  client : ClientWorld
  integraVersion : Option IntegraVersion
  syncEvents : List SyncEvent

def SyncOp.exec (env : Surroundings) : Exec SyncOp SyncOp.Answer SyncWorld
  | .client op, w => ((op.exec env w.client).1, { w with client := (op.exec env w.client).2 })
  | .cachedVersion, w => (w.integraVersion, w)
  | .send event, w => ((), { w with syncEvents := w.syncEvents ++ [event] })

/-- How many queries succeeded, and the error kept of those that did not. -/
structure Tally (ε : Type) where
  successCount : UInt16
  lastError : Option ε
  deriving DecidableEq, Repr

/-- `1..=total` -/
def numbersTo (total : UInt16) : List UInt16 :=
  (List.range total.toNat).map fun i => .ofNat (i + 1)

/-- What differs between the syncs of names. -/
structure NameSync (π : Type) where
  family : QueryFamily π
  category : SyncCategory
  known : IntegraVersion → Bool
  total : IntegraVersion → UInt16

def zoneSync : NameSync ZoneParams where
  family := zoneFamily
  category := .zones
  known version := version.ioCount != 0
  total := IntegraVersion.ioCount

def outputSync : NameSync OutputParams where
  family := outputFamily
  category := .outputs
  known version := version.ioCount != 0
  total := IntegraVersion.ioCount

def partitionSync : NameSync PartitionParams where
  family := partitionFamily
  category := .partitions
  known version := version.ioCount != 0 && version.partitionCount != 0
  total := IntegraVersion.partitionCount

namespace SyncCall

/-- A query whose `Err` the caller looks at. A panic is not caught. -/
def attempt {α : Type} : ClientCall α → SyncCall (Except SatelError α)
  | .done a => .done (.ok a)
  | .failed (.returned e) => .done (.error e)
  | .failed (.panicked p) => .failed (.panicked p)
  | .step op next => .step (.client op) fun answer => attempt (next answer)

abbrev send (event : SyncEvent) : SyncCall Unit := CallTree.perform (SyncOp.send event)

abbrev cachedVersion : SyncCall (Option IntegraVersion) := CallTree.perform SyncOp.cachedVersion

section Names
variable {π : Type} (sync : NameSync π) (decoder : NameDecoder) (describe : SatelError → String)

def queryName (total id : UInt16) (tally : Tally SatelError) : SyncCall (Tally SatelError) := do
  match ← attempt (ClientCall.getName sync.family decoder id) with
  | .ok res =>
    send (.syncProgress sync.category id total res.name)
    return { tally with successCount := tally.successCount + 1 }
  | .error e => return { tally with lastError := some e }

/-- The rest of a sync once the number of objects is known. -/
def queryAllNames (total : UInt16) : SyncCall Bool := do
  send (.syncStarted sync.category total)
  let tally ← CallTree.forEach (queryName sync decoder total) (numbersTo total) ⟨0, none⟩
  send (.syncFinished sync.category total tally.successCount (tally.lastError.map describe))
  if tally.successCount = 0 then
    if let some err := tally.lastError then throw (.returned err)
  return true

def getAllNames : SyncCall Bool := do
  match ← cachedVersion with
  | none => throw (.returned .panelVersionUnknown)
  | some version =>
    if sync.known version then queryAllNames sync decoder describe (sync.total version)
    else throw (.returned .panelVersionUnknown)

def getAllZoneNames := getAllNames zoneSync decoder describe

def getAllOutputNames := getAllNames outputSync decoder describe

def getAllPartitionNames := getAllNames partitionSync decoder describe

end Names

/-- `{:.1}` of a number of half degrees. -/
def formatDegrees (temp : HalfDegrees) : String :=
  let sign := if temp < 0 then "-" else ""
  let fraction := if temp.natAbs % 2 = 0 then "0" else "5"
  s!"{sign}{temp.natAbs / 2}.{fraction}"

section Temperatures
variable (describe : SatelError → String)

/-- The errors that say whether there is a sensor count as answers. -/
def probeText (zoneId : UInt16) (cachedName : Option String) :
    Except SatelError ZoneTemperature → String
  | .ok res => s!"{zoneId} - {formatDegrees res.temperature} °C"
  | .error .temperatureSensorError => s!"{zoneId} - Błąd"
  | .error .temperatureNotSupportedOrTimeOut | .error .timeout =>
    match cachedName with
    | some name => s!"{zoneId} - {name}"
    | none => s!"{zoneId}"
  | .error e => s!"{zoneId} - Błąd ({describe e})"

/-- What `last_error` becomes. -/
def probeError : Except SatelError ZoneTemperature → Option String
  | .ok _ | .error .temperatureSensorError | .error .temperatureNotSupportedOrTimeOut
  | .error .timeout => none
  | .error e => some (describe e)

def trimmedName (z : ZoneItem) : Option String :=
  let name := String.ofList (trim z.zoneName.toList)
  if name.isEmpty then none else some name

def queryProbe (probeTimeout : Option Duration) (total zoneId : UInt16) (tally : Tally String) :
    SyncCall (Tally String) := do
  let cache ← CallTree.perform (SyncOp.client (.underLock .look))
  let cachedName := trimmedName (cache.zones (itemIndex 256 zoneId))
  let outcome ← attempt (ClientCall.getZoneTemperatureRawTimeout zoneId probeTimeout)
  send (.syncProgress .temperatures zoneId total (probeText describe zoneId cachedName outcome))
  return {
    successCount := if outcome.isOk then tally.successCount + 1 else tally.successCount
    lastError := (probeError describe outcome).or tally.lastError }

def queryAllProbes (probeTimeout : Option Duration) (total : UInt16) : SyncCall Bool := do
  send (.syncStarted .temperatures total)
  let tally ← CallTree.forEach (queryProbe describe probeTimeout total) (numbersTo total) ⟨0, none⟩
  send (.syncFinished .temperatures total tally.successCount tally.lastError)
  return true

def getAllZoneTemperatures (probeTimeout : Option Duration) : SyncCall Bool := do
  match ← cachedVersion with
  | none => throw (.returned .panelVersionUnknown)
  | some version =>
    if version.ioCount = 0 then throw (.returned .panelVersionUnknown)
    else queryAllProbes describe probeTimeout version.ioCount

end Temperatures
end SyncCall

/-! ### One query -/

section Requests
variable {π : Type} {family : QueryFamily π} {idOf : π → UInt16} {decoder : NameDecoder}
  {id : UInt16}

open ClientCall

/-- The requests among the operations of a call. -/
def requests (steps : List ClientStep) : List Frame :=
  steps.filterMap fun p =>
    match p.op with
    | .exchange data _ => some data
    | _ => none

def Panicked {α : Type} : Except Failure α → Prop
  | .error (.panicked _) => True
  | _ => False

def ClientOp.silent : ClientOp → Prop
  | .exchange _ _ => False
  | _ => True

lemma requests_silent {α : Type} {c : ClientCall α} {steps : List ClientStep}
    {r : Except Failure α} (run : c.Runs steps r) (silent : c.Only ClientOp.silent) :
    requests steps = [] := by
  rw [requests, List.filterMap_eq_nil_iff]
  intro p hp
  have quiet := run.only silent p hp
  obtain ⟨op, answer⟩ := p
  cases op with
  | exchange data readTimeout => exact quiet.elim
  | _ => rfl

lemma requests_append (steps steps' : List ClientStep) :
    requests (steps ++ steps') = requests steps ++ requests steps' := List.filterMap_append

@[simp] lemma requests_exchange (data : Frame) (readTimeout : Option Duration)
    (answer : Except SatelError Frame) (steps : List ClientStep) :
    requests (⟨.exchange data readTimeout, answer⟩ :: steps) = data :: requests steps := rfl

lemma takeReply_silent (sessionType devType : UInt8) (response : Frame) :
    (takeReply family decoder sessionType devType response).Only ClientOp.silent := by
  have read := @readReply_only _ family decoder ClientOp.silent trivial (fun _ => trivial) response
  by_cases lower : devType < sessionType
  · simp only [takeReply, lower, if_true, CallTree.only_perform_bind]
    exact ⟨trivial, fun _ => ⟨trivial, fun _ => read⟩⟩
  · simp only [takeReply, lower, if_false, CallTree.only_perform_bind]
    exact ⟨trivial, fun _ => read⟩

/-- A reply names an object or is refused: its parser never panics. -/
lemma readReply_yields (member : family.Member idOf) (response : Frame) :
    (do
      let parsed ← orPanic (family.process decoder response (← ClientCall.localNow)).run
      let (number, name, params) ← orReturn parsed
      let _ ← underLock (family.store number name params)
      return (name, some params) : ClientCall (SatelName × Option π)).Yields (¬ Panicked ·) := by
  rw [CallTree.yields_perform_bind]
  intro now
  rcases member.reads decoder response now with
    ⟨n, -, name, params, -, parsed⟩ | ⟨-, parsed⟩
  · simp [ExceptT.run, parsed, Panicked]
  · simp [ExceptT.run, parsed, Panicked]

lemma takeReply_yields (member : family.Member idOf) (sessionType devType : UInt8)
    (response : Frame) :
    (takeReply family decoder sessionType devType response).Yields (¬ Panicked ·) := by
  have read := @readReply_yields _ family _ decoder member response
  by_cases lower : devType < sessionType
  · simp only [takeReply, lower, if_true, CallTree.yields_perform_bind]
    exact fun _ _ => read
  · simp only [takeReply, lower, if_false, CallTree.yields_perform_bind]
    exact fun _ => read

/-- The loop asks for one type after the other, and for one at least. -/
lemma tryTypes_requests {sessionType : UInt8} {types : List UInt8} {steps : List ClientStep}
    {r : Except Failure (SatelName × Option π)}
    (run : (tryTypes family decoder id sessionType types).Runs steps r) :
    requests steps <+: types.map (family.request id) ∧
      (types ≠ [] → requests steps ≠ []) := by
  induction types generalizing steps with
  | nil =>
    have silent := requests_silent run (by simp [tryTypes, ClientOp.silent])
    rw [silent]
    exact ⟨List.prefix_rfl, fun some => absurd rfl some⟩
  | cons devType types ih =>
    rw [tryTypes] at run
    obtain ⟨answer, later, rfl, rest⟩ := CallTree.runs_perform_bind.mp run
    rw [requests_exchange, List.map_cons]
    suffices requests later <+: types.map (family.request id) from
      ⟨(List.prefix_cons_inj _).mpr this, by simp⟩
    have none (h : requests later = []) : requests later <+: types.map (family.request id) := by
      rw [h]
      exact List.nil_prefix
    cases answer with
    | error e =>
      obtain ⟨rfl, -⟩ := CallTree.runs_throw_bind.mp rest
      exact none rfl
    | ok response =>
      rw [orReturn_ok, CallTree.runs_pure_bind] at rest
      split at rest
      · exact (ih rest).1
      · split at rest
        · exact none (requests_silent rest (takeReply_silent _ _ _))
        · obtain ⟨rfl, -⟩ := CallTree.runs_throw.mp rest
          exact none rfl

lemma tryTypes_yields (member : family.Member idOf) (sessionType : UInt8) (types : List UInt8) :
    (tryTypes family decoder id sessionType types).Yields (¬ Panicked ·) := by
  induction types with
  | nil => simp [tryTypes, Panicked]
  | cons devType types ih =>
    rw [tryTypes, CallTree.yields_perform_bind]
    intro answer
    cases answer with
    | error e => simp [Panicked]
    | ok response =>
      simp only [orReturn_ok, CallTree.yields_pure_bind, CallTree.yields_ite,
        CallTree.yields_throw]
      exact ⟨fun _ => ih, fun _ => ⟨fun _ => takeReply_yields member _ _ _, by simp [Panicked]⟩⟩

lemma QueryFamily.Member.typesToTry_ne_nil (member : family.Member idOf)
    (extended confirmed : Bool) (sessionType : UInt8) :
    family.typesToTry extended sessionType confirmed ≠ [] := by
  cases member with
  | zone => cases extended <;> cases confirmed <;> by_cases h : sessionType = 5 <;>
      simp [zoneFamily, h]
  | output => cases extended <;> cases confirmed <;> by_cases h : sessionType = 17 <;>
      simp [outputFamily, h]
  | partition =>
    cases extended <;> cases confirmed
    all_goals simp [partitionFamily]
    split <;> simp

/-- What a query of one object asks: for this object only, at least once, with types of some
level from the richest down. -/
def Asks (family : QueryFamily π) (id : UInt16) (asked : List Frame) : Prop :=
  asked ≠ [] ∧ ∃ extended sessionType confirmed,
    asked <+: (family.typesToTry extended sessionType confirmed).map (family.request id)

lemma queryInternal_asks (member : family.Member idOf) {steps : List ClientStep}
    {r : Except Failure (SatelName × Option π)}
    (run : (queryInternal family decoder id).Runs steps r) : Asks family id (requests steps) := by
  rw [queryInternal] at run
  obtain ⟨config, steps₁, rfl, run₁⟩ := CallTree.runs_perform_bind.mp run
  obtain ⟨sessionType, steps₂, rfl, run₂⟩ := CallTree.runs_perform_bind.mp run₁
  obtain ⟨confirmed, steps₃, rfl, run₃⟩ := CallTree.runs_perform_bind.mp run₂
  obtain ⟨asked, some⟩ := tryTypes_requests run₃
  constructor
  · exact some (member.typesToTry_ne_nil _ _ _)
  · exact ⟨_, _, _, asked⟩

lemma getName_asks (member : family.Member idOf) {steps : List ClientStep}
    {r : Except Failure SatelName} (run : (getName family decoder id).Runs steps r) :
    Asks family id (requests steps) := by
  rw [getName] at run
  rcases CallTree.runs_bind.mp run with ⟨e, -, query⟩ | ⟨before, value, after, rfl, query, rest⟩
  · exact queryInternal_asks member query
  · have silent : requests after = [] := by
      obtain ⟨name, _ | params⟩ := value
      · exact requests_silent rest trivial
      · refine requests_silent rest ?_
        simp [ClientOp.silent]
    rw [requests_append, silent, List.append_nil]
    exact queryInternal_asks member query

lemma getName_yields (member : family.Member idOf) :
    (getName family decoder id).Yields (¬ Panicked ·) := by
  have query : (queryInternal family decoder id).Yields (¬ Panicked ·) := by
    simp only [queryInternal, CallTree.yields_perform_bind]
    exact fun _ _ _ => tryTypes_yields member _ _
  rw [getName]
  refine query.bind ?_ ?_
  · rintro (e | p) h
    · exact h
    · exact h
  · rintro ⟨name, _ | params⟩ -
    · simp [Panicked]
    · simp [Panicked]

lemma getZoneTemperatureRawTimeout_requests {zoneId : UInt16} {timeout : Option Duration}
    {steps : List ClientStep} {r : Except Failure ZoneTemperature}
    (run : (getZoneTemperatureRawTimeout zoneId timeout).Runs steps r) :
    requests steps = [temperatureRequest zoneId] := by
  have query {readTimeout : Duration} {steps : List ClientStep}
      (run : (queryTemperature zoneId readTimeout).Runs steps r) :
      requests steps = [temperatureRequest zoneId] := by
    rw [queryTemperature] at run
    obtain ⟨answer, later, rfl, rest⟩ := CallTree.runs_perform_bind.mp run
    rw [requests_exchange]
    suffices requests later = [] by rw [this]
    refine requests_silent rest ?_
    cases answer with
    | error e => simp [updateTempError, CallTree.bind_bind, ClientOp.silent]
    | ok response =>
      refine (orPanic_only _).bind ?_
      rintro (e | ⟨n, temp⟩)
      · simp [updateTempError, CallTree.bind_bind, ClientOp.silent]
      · simp [takeTemperature, updateTemperatureSuccessInternal, getCachedZoneTemperature,
          CallTree.bind_bind, ClientOp.silent]
  cases timeout with
  | some timeout => exact query run
  | none =>
    obtain ⟨config, later, rfl, rest⟩ := CallTree.runs_perform_bind.mp run
    have asked : requests later = [temperatureRequest zoneId] := query rest
    exact asked

lemma getZoneTemperatureRawTimeout_yields (zoneId : UInt16) (timeout : Option Duration) :
    (getZoneTemperatureRawTimeout zoneId timeout).Yields (¬ Panicked ·) := by
  have query (readTimeout : Duration) :
      (queryTemperature zoneId readTimeout).Yields (¬ Panicked ·) := by
    rw [queryTemperature, CallTree.yields_perform_bind]
    intro answer
    cases answer with
    | error e => simp [updateTempError, CallTree.bind_bind, Panicked]
    | ok response =>
      simp only [processZoneTemperature_eq]
      cases temperatureReply response with
      | none => simp [ExceptT.run, updateTempError, CallTree.bind_bind, Panicked]
      | some reply =>
        by_cases silent : reply.2 = 0xFFFF
        · simp [ExceptT.run, silent, updateTempError, CallTree.bind_bind, Panicked]
        · simp [ExceptT.run, silent, takeTemperature, updateTemperatureSuccessInternal,
            CallTree.bind_bind, getCachedZoneTemperature, Panicked]
  cases timeout with
  | some timeout => exact query timeout
  | none => exact fun _ => query _

end Requests

/-! ### Rounds of a sync -/

section Rounds

def asSync (p : ClientStep) : SyncStep := ⟨.client p.op, p.answer⟩

def sent (event : SyncEvent) : SyncStep := ⟨.send event, ()⟩

lemma attempt_runs {α : Type} {c : ClientCall α} {trace : List SyncStep}
    {r : Except Failure (Except SatelError α)} (quiet : c.Yields (¬ Panicked ·))
    (run : (SyncCall.attempt c).Runs trace r) :
    ∃ steps outcome, trace = steps.map asSync ∧
      c.Runs steps (outcome.mapError Failure.returned) ∧ r = .ok outcome := by
  induction c generalizing trace with
  | done a =>
    cases run
    exact ⟨[], .ok a, rfl, .done a, rfl⟩
  | failed e =>
    cases e with
    | returned e =>
      cases run
      exact ⟨[], .error e, rfl, .failed _, rfl⟩
    | panicked p => exact absurd trivial quiet
  | step op next ih =>
    obtain ⟨answer, later, rfl, rest⟩ := CallTree.runs_step.mp run
    obtain ⟨steps, outcome, rfl, runs, rfl⟩ := ih answer (quiet answer) rest
    exact ⟨⟨op, answer⟩ :: steps, outcome, rfl, CallTree.runs_step.mpr ⟨answer, _, rfl, runs⟩, rfl⟩

/-- The error a query ended with. -/
def errorOf {ε α : Type} : Except ε α → Option ε
  | .ok _ => none
  | .error e => some e

/-- One object of a sync: what its query performed, and how it ended. -/
structure Round (α : Type) where
  id : UInt16
  steps : List ClientStep
  outcome : Except SatelError α

def Tally.add {ε : Type} (tally : Tally ε) (ok : Bool) (error : Option ε) : Tally ε where
  successCount := if ok then tally.successCount + 1 else tally.successCount
  lastError := error.or tally.lastError

/-- The successes are counted, and of the errors the last is kept. -/
lemma tally_foldl {ε ρ : Type} (ok : ρ → Bool) (error : ρ → Option ε) (rounds : List ρ)
    (tally : Tally ε) :
    rounds.foldl (fun t p => t.add (ok p) (error p)) tally =
      { successCount := tally.successCount + .ofNat (rounds.countP ok)
        lastError := (rounds.filterMap error).getLast?.or tally.lastError } := by
  induction rounds generalizing tally with
  | nil => simp
  | cons p rounds ih =>
    rw [List.foldl_cons, ih, Tally.add, Tally.mk.injEq]
    constructor
    · by_cases success : ok p = true
      · rw [if_pos success, List.countP_cons_of_pos success, UInt16.ofNat_add, UInt16.add_assoc,
          UInt16.add_comm 1]
        rfl
      · rw [if_neg success, List.countP_cons_of_neg success]
    · cases h : error p with
      | none => simp [h]
      | some e => simp [h, List.getLast?_cons]

lemma length_numbersTo (total : UInt16) : (numbersTo total).length = total.toNat := by
  simp [numbersTo]

/-- No number is asked for twice. -/
lemma numbersTo_nodup (total : UInt16) : (numbersTo total).Nodup := by
  refine List.Nodup.map_on ?_ List.nodup_range
  intro i hi j hj same
  have bound := total.toNat_lt
  have size : UInt16.size = 65536 := rfl
  rw [List.mem_range] at hi hj
  have same := congrArg UInt16.toNat same
  rw [UInt16.toNat_ofNat_of_lt' (by omega), UInt16.toNat_ofNat_of_lt' (by omega)] at same
  omega

end Rounds

section Names
variable {π : Type} {sync : NameSync π} {idOf : π → UInt16} {decoder : NameDecoder}
  {describe : SatelError → String}

/-- The event of a round: only a name that was read is reported. -/
def NameSync.progress (sync : NameSync π) (total : UInt16) (round : Round SatelName) :
    List SyncEvent :=
  match round.outcome with
  | .ok res => [.syncProgress sync.category round.id total res.name]
  | .error _ => []

def NameSync.performs (sync : NameSync π) (total : UInt16) (round : Round SatelName) :
    List SyncStep :=
  round.steps.map asSync ++ (sync.progress total round).map sent

/-- A round is a query of its object, which ends with a name or an error. -/
structure NameRound (family : QueryFamily π) (decoder : NameDecoder) (round : Round SatelName) :
    Prop where
  query : (ClientCall.getName family decoder round.id).Runs round.steps
    (round.outcome.mapError Failure.returned)
  asks : Asks family round.id (requests round.steps)

lemma queryName_round (member : sync.family.Member idOf) (total id : UInt16)
    (tally : Tally SatelError) {trace : List SyncStep} {r : Except Failure (Tally SatelError)}
    (run : (SyncCall.queryName sync decoder total id tally).Runs trace r) :
    ∃ round : Round SatelName, round.id = id ∧ NameRound sync.family decoder round ∧
      trace = sync.performs total round ∧
      r = .ok (tally.add round.outcome.isOk (errorOf round.outcome)) := by
  rw [SyncCall.queryName] at run
  have quiet := @getName_yields _ _ _ decoder id member
  rcases CallTree.runs_bind.mp run with ⟨e, rfl, query⟩ | ⟨before, value, after, rfl, query, rest⟩
  · obtain ⟨_, _, -, -, ok⟩ := attempt_runs quiet query
    cases ok
  · obtain ⟨steps, outcome, rfl, runs, ok⟩ := attempt_runs quiet query
    obtain rfl : value = outcome := Except.ok.inj ok
    refine ⟨⟨id, steps, value⟩, rfl, ⟨runs, getName_asks member runs⟩, ?_⟩
    cases value with
    | ok res =>
      obtain ⟨_, later, rfl, done⟩ := CallTree.runs_perform_bind.mp rest
      obtain ⟨rfl, rfl⟩ := CallTree.runs_pure.mp done
      exact ⟨rfl, rfl⟩
    | error e =>
      obtain ⟨rfl, rfl⟩ := CallTree.runs_pure.mp rest
      exact ⟨rfl, rfl⟩

/-- The three syncs of names. -/
inductive NameSync.Member : {π : Type} → NameSync π → Prop where
  | zones : Member zoneSync
  | outputs : Member outputSync
  | partitions : Member partitionSync

lemma NameSync.Member.family (member : sync.Member) : ∃ idOf, sync.family.Member idOf := by
  cases member with
  | zones => exact ⟨_, .zone⟩
  | outputs => exact ⟨_, .output⟩
  | partitions => exact ⟨_, .partition⟩

lemma NameSync.Member.total_ne_zero (member : sync.Member) {version : IntegraVersion}
    (known : sync.known version = true) : sync.total version ≠ 0 := by
  cases member with
  | zones => simpa [zoneSync] using known
  | outputs => simpa [outputSync] using known
  | partitions =>
    have both : version.ioCount ≠ 0 ∧ version.partitionCount ≠ 0 := by
      simpa [partitionSync] using known
    exact both.2

/-- If no query succeeded, there is a last error. -/
lemma lastError_of_failed {α : Type} {rounds : List (Round α)}
    (failed : ∀ round ∈ rounds, ¬ round.outcome.isOk) (asked : rounds ≠ []) :
    ∃ e, (rounds.filterMap (errorOf ·.outcome)).getLast? = some e := by
  obtain ⟨round, rest, rfl⟩ := List.exists_cons_of_ne_nil asked
  have first := failed round List.mem_cons_self
  cases h : round.outcome with
  | ok a => simp [h, Except.isOk, Except.toBool] at first
  | error e => simp [h, errorOf, List.getLast?_cons]

/-- What a sync of `total` objects did, and how it ended. -/
structure NamesSynced (sync : NameSync π) (decoder : NameDecoder) (describe : SatelError → String)
    (total : UInt16) (rounds : List (Round SatelName)) (trace : List SyncStep)
    (r : Except Failure Bool) : Prop where
  ids : rounds.map Round.id = numbersTo total
  once : (rounds.map Round.id).Nodup
  each : ∀ round ∈ rounds, NameRound sync.family decoder round
  trace : trace = sent (.syncStarted sync.category total) ::
    (rounds.flatMap (sync.performs total) ++
      [sent (.syncFinished sync.category total (.ofNat (rounds.countP (·.outcome.isOk)))
        ((rounds.filterMap (errorOf ·.outcome)).getLast?.map describe))])
  value : if ∃ round ∈ rounds, round.outcome.isOk then r = .ok true else
    ∃ e, (rounds.filterMap (errorOf ·.outcome)).getLast? = some e ∧ r = .error (.returned e)

lemma queryAllNames_synced (member : sync.Member) {total : UInt16} (objects : total ≠ 0)
    {trace : List SyncStep} {r : Except Failure Bool}
    (run : (SyncCall.queryAllNames sync decoder describe total).Runs trace r) :
    ∃ rounds, NamesSynced sync decoder describe total rounds trace r := by
  obtain ⟨idOf, family⟩ := member.family
  rw [SyncCall.queryAllNames] at run
  obtain ⟨_, later, rfl, loop⟩ := CallTree.runs_perform_bind.mp run
  rcases CallTree.runs_bind.mp loop with ⟨e, -, queries⟩ | ⟨before, tally, after, rfl, queries, rest⟩
  · obtain ⟨_, -, -, -, ok⟩ := CallTree.runs_forEach
      (fun id tally _ _ => queryName_round family total id tally) queries
    cases ok
  · obtain ⟨rounds, ids, each, rfl, ok⟩ := CallTree.runs_forEach
      (fun id tally _ _ => queryName_round family total id tally) queries
    cases ok
    rw [tally_foldl] at rest
    simp only [Option.or_none, UInt16.zero_add] at rest
    obtain ⟨_, later, rfl, last⟩ := CallTree.runs_perform_bind.mp rest
    have zero : UInt16.ofNat (rounds.countP (·.outcome.isOk)) = 0 ↔
        rounds.countP (·.outcome.isOk) = 0 := by
      have all : rounds.countP (·.outcome.isOk) ≤ rounds.length := List.countP_le_length
      have length : rounds.length = total.toNat := by
        rw [← length_numbersTo, ← ids, List.length_map]
      have bound := total.toNat_lt
      have size : UInt16.size = 65536 := rfl
      rw [← UInt16.toNat_inj, UInt16.toNat_ofNat_of_lt' (by omega), UInt16.toNat_zero]
    have once : (rounds.map Round.id).Nodup := by
      rw [ids]
      exact numbersTo_nodup total
    suffices later = [] ∧ _ from ⟨rounds, ids, once, each, by rw [this.1]; rfl, this.2⟩
    by_cases none : rounds.countP (·.outcome.isOk) = 0
    · have failed : ∀ round ∈ rounds, ¬ round.outcome.isOk := List.countP_eq_zero.mp none
      have asked : rounds ≠ [] := by
        intro h
        have empty := congrArg List.length ids
        rw [h, length_numbersTo] at empty
        exact objects (UInt16.toNat_inj.mp empty.symm)
      obtain ⟨e, he⟩ := @lastError_of_failed _ rounds failed asked
      rw [if_neg (by simpa using failed)]
      rw [he] at last
      have ended : later = [] ∧ r = .error (.returned e) := by simpa [zero, none] using last
      exact ⟨ended.1, e, he, ended.2⟩
    · rw [if_pos (by simpa [List.countP_eq_zero] using none)]
      simpa [zero, none] using last

/-- Every sync of names, in every run: it is refused, and asks for nothing, unless the number of
objects is known; then it asks for each object from the first to the last and once, reports the
names read and both ends, and fails with the last error if it read none. -/
theorem names_synced (member : sync.Member) {trace : List SyncStep} {r : Except Failure Bool}
    (run : (SyncCall.getAllNames sync decoder describe).Runs trace r) :
    ∃ version rest, trace = ⟨.cachedVersion, version⟩ :: rest ∧
      match version.filter sync.known with
      | none => rest = [] ∧ r = .error (.returned .panelVersionUnknown)
      | some version =>
        ∃ rounds, NamesSynced sync decoder describe (sync.total version) rounds rest r := by
  rw [SyncCall.getAllNames] at run
  obtain ⟨version, rest, rfl, decided⟩ := CallTree.runs_perform_bind.mp run
  refine ⟨version, rest, rfl, ?_⟩
  cases version with
  | none => exact CallTree.runs_throw.mp decided
  | some version =>
    by_cases known : sync.known version = true
    · simp only [known, if_true] at decided
      rw [Option.filter_some, if_pos known]
      exact queryAllNames_synced member (member.total_ne_zero known) decided
    · simp only [known] at decided
      rw [Option.filter_some, if_neg known]
      exact CallTree.runs_throw.mp decided

/-- The panel knows nothing of zone 1 and does not answer for zone 2. -/
theorem names_synced_two_zones :
    let now : LocalTime := ⟨0, Nat.zero_le _⟩
    let env : Surroundings :=
      ⟨fun _ data => if data.drop 2 = [1] then .ok [0xEF, 0] else .error .timeout,
        fun _ => .ok (), fun _ => now⟩
    let version : IntegraVersion := ⟨"", "", "", false, 2, 1, now⟩
    let w : SyncWorld := ⟨.new {} now, some version, []⟩
    let call := SyncCall.getAllZoneNames (fun _ => ([], false)) fun _ => "Operation timed out"
    (call.run (SyncOp.exec env) w).2.syncEvents =
        [.syncStarted .zones 2, .syncProgress .zones 1 2 "",
          .syncFinished .zones 2 1 (some "Operation timed out")] ∧
      ∃ rounds, NamesSynced zoneSync (fun _ => ([], false)) (fun _ => "Operation timed out") 2 rounds
        (call.traceOf (SyncOp.exec env) w).tail (.ok true) := by
  intro now env version w call
  obtain ⟨version', rest, performed, synced⟩ :=
    names_synced .zones (CallTree.run_runs (SyncOp.exec env) call w)
  have value : (call.run (SyncOp.exec env) w).1 = .ok true := by decide
  cases performed
  rw [value] at synced
  exact ⟨by decide, synced⟩

end Names

section Temperatures
variable {describe : SatelError → String} {probeTimeout : Option Duration}

/-- A round of the scan, with the cache that gave the name of its zone. -/
structure Probed extends Round ZoneTemperature where
  cache : ItemCache

/-- The text that is reported for a zone. -/
def Probed.text (describe : SatelError → String) (round : Probed) : String :=
  SyncCall.probeText describe round.id
    (SyncCall.trimmedName (round.cache.zones (itemIndex 256 round.id))) round.outcome

def Probed.performs (describe : SatelError → String) (total : UInt16) (round : Probed) :
    List SyncStep :=
  ⟨.client (.underLock .look), round.cache⟩ :: (round.steps.map asSync ++
    [sent (.syncProgress .temperatures round.id total (round.text describe))])

/-- A round reads its zone over the network, past any block, with one request. -/
structure ProbeRound (probeTimeout : Option Duration) (round : Probed) : Prop where
  query : (ClientCall.getZoneTemperatureRawTimeout round.id probeTimeout).Runs round.steps
    (round.outcome.mapError Failure.returned)
  asks : requests round.steps = [ClientCall.temperatureRequest round.id]

lemma queryProbe_round (total zoneId : UInt16) (tally : Tally String) {trace : List SyncStep}
    {r : Except Failure (Tally String)}
    (run : (SyncCall.queryProbe describe probeTimeout total zoneId tally).Runs trace r) :
    ∃ round : Probed, round.id = zoneId ∧ ProbeRound probeTimeout round ∧
      trace = round.performs describe total ∧
      r = .ok (tally.add round.outcome.isOk (SyncCall.probeError describe round.outcome)) := by
  rw [SyncCall.queryProbe] at run
  have quiet := getZoneTemperatureRawTimeout_yields zoneId probeTimeout
  obtain ⟨cache, looked, rfl, attempted⟩ := CallTree.runs_perform_bind.mp run
  rcases CallTree.runs_bind.mp attempted with
    ⟨e, rfl, query⟩ | ⟨before, value, after, rfl, query, rest⟩
  · obtain ⟨_, _, -, -, ok⟩ := attempt_runs quiet query
    cases ok
  · obtain ⟨steps, outcome, rfl, runs, ok⟩ := attempt_runs quiet query
    obtain rfl : value = outcome := Except.ok.inj ok
    obtain ⟨_, later, rfl, done⟩ := CallTree.runs_perform_bind.mp rest
    obtain ⟨rfl, rfl⟩ := CallTree.runs_pure.mp done
    have asked := getZoneTemperatureRawTimeout_requests runs
    exact ⟨⟨⟨zoneId, steps, value⟩, cache⟩, rfl, ⟨runs, asked⟩, rfl, rfl⟩

/-- What a scan of `total` zones did. It always succeeds. -/
structure ProbesSynced (describe : SatelError → String) (probeTimeout : Option Duration)
    (total : UInt16) (rounds : List Probed) (trace : List SyncStep) (r : Except Failure Bool) :
    Prop where
  ids : rounds.map (·.id) = numbersTo total
  once : (rounds.map (·.id)).Nodup
  each : ∀ round ∈ rounds, ProbeRound probeTimeout round
  trace : trace = sent (.syncStarted .temperatures total) ::
    (rounds.flatMap (Probed.performs describe total) ++
      [sent (.syncFinished .temperatures total (.ofNat (rounds.countP (·.outcome.isOk)))
        (rounds.filterMap (SyncCall.probeError describe ·.outcome)).getLast?)])
  value : r = .ok true

lemma queryAllProbes_synced (total : UInt16) {trace : List SyncStep} {r : Except Failure Bool}
    (run : (SyncCall.queryAllProbes describe probeTimeout total).Runs trace r) :
    ∃ rounds, ProbesSynced describe probeTimeout total rounds trace r := by
  rw [SyncCall.queryAllProbes] at run
  obtain ⟨_, later, rfl, loop⟩ := CallTree.runs_perform_bind.mp run
  rcases CallTree.runs_bind.mp loop with ⟨e, -, queries⟩ | ⟨before, tally, after, rfl, queries, rest⟩
  · obtain ⟨_, -, -, -, ok⟩ := CallTree.runs_forEach
      (fun id tally _ _ => queryProbe_round total id tally) queries
    cases ok
  · obtain ⟨rounds, ids, each, rfl, ok⟩ := CallTree.runs_forEach
      (fun id tally _ _ => queryProbe_round total id tally) queries
    cases ok
    rw [tally_foldl] at rest
    simp only [Option.or_none, UInt16.zero_add] at rest
    obtain ⟨_, later, rfl, last⟩ := CallTree.runs_perform_bind.mp rest
    obtain ⟨rfl, rfl⟩ := CallTree.runs_pure.mp last
    refine ⟨rounds, ids, ?_, each, rfl, rfl⟩
    rw [ids]
    exact numbersTo_nodup total

/-- Every scan for temperature probes, in every run: where the number of zones is known it reads
each zone once and in order, reports every zone with its outcome, and keeps as its error the last
one that does not tell about a sensor. -/
theorem probes_synced {trace : List SyncStep} {r : Except Failure Bool}
    (run : (SyncCall.getAllZoneTemperatures describe probeTimeout).Runs trace r) :
    ∃ version rest, trace = ⟨.cachedVersion, version⟩ :: rest ∧
      match version.filter (·.ioCount != 0) with
      | none => rest = [] ∧ r = .error (.returned .panelVersionUnknown)
      | some version => ∃ rounds,
        ProbesSynced describe probeTimeout version.ioCount rounds rest r := by
  rw [SyncCall.getAllZoneTemperatures] at run
  obtain ⟨version, rest, rfl, decided⟩ := CallTree.runs_perform_bind.mp run
  refine ⟨version, rest, rfl, ?_⟩
  cases version with
  | none => exact CallTree.runs_throw.mp decided
  | some version =>
    by_cases unknown : version.ioCount = 0
    · simp only [unknown, if_true] at decided
      rw [Option.filter_some, if_neg (by simp [unknown])]
      exact CallTree.runs_throw.mp decided
    · simp only [unknown, if_false] at decided
      rw [Option.filter_some, if_pos (by simp [unknown])]
      exact queryAllProbes_synced version.ioCount decided

/-- Zone 1 has a sensor that is broken, zone 2 has none. -/
theorem probes_synced_two_zones :
    let now : LocalTime := ⟨0, Nat.zero_le _⟩
    let env : Surroundings :=
      ⟨fun _ data => if data = [0x7D, 1] then .ok [0x7D, 1, 0xFF, 0xFF] else .error .timeout,
        fun _ => .ok (), fun _ => now⟩
    let version : IntegraVersion := ⟨"", "", "", false, 2, 1, now⟩
    let w : SyncWorld := ⟨.new {} now, some version, []⟩
    let call := SyncCall.getAllZoneTemperatures (fun _ => "") none
    (call.run (SyncOp.exec env) w).2.syncEvents =
        [.syncStarted .temperatures 2, .syncProgress .temperatures 1 2 "1 - Błąd",
          .syncProgress .temperatures 2 2 "2", .syncFinished .temperatures 2 0 none] ∧
      ∃ rounds, ProbesSynced (fun _ => "") none 2 rounds
        (call.traceOf (SyncOp.exec env) w).tail (.ok true) := by
  intro now env version w call
  obtain ⟨version', rest, performed, synced⟩ :=
    probes_synced (CallTree.run_runs (SyncOp.exec env) call w)
  cases performed
  exact ⟨by decide, synced⟩

end Temperatures
end SatelIntegra
