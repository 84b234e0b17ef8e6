import SatelIntegra.CallTraces
import SatelIntegra.QueryLevels

/-!
# Levels only save requests

A session that has seen the panel answer a type of a kind asks for that type alone.
Against a panel that answers one type of each kind, or none for an object it does
not know, a sequence of queries gives what it would give if every query tried all
types again, and makes some of the same requests.
-/

namespace SatelIntegra

open CheckedAccess AtomicCalls ClientCall

/-- All types a query may try, the richest first. -/
def ItemKind.allTypes (kind : ItemKind) (extended : Bool) : List UInt8 :=
  if extended then kind.types else [kind.topType false]

def Surroundings.rejects (env : Surroundings) (data : Frame) : Bool :=
  match env.answer [] data with
  | .ok reply => startsWith SatelCommand.resultCode.toByte reply
  | .error _ => false

def nameRequest (type device : UInt8) : Frame := [SatelCommand.readDeviceName.toByte, type, device]

/-- The answer to a request does not depend on those before it. A type richer than `best` is
rejected, and an object whose `best` is rejected is rejected in all types. -/
structure Uniform (env : Surroundings) (extended : Bool) (best : ItemKind → UInt8) : Prop where
  static : ∀ before data, env.answer before data = env.answer [] data
  tried : ∀ kind, best kind ∈ kind.allTypes extended
  richer : ∀ kind, ∀ type ∈ kind.allTypes extended, best kind < type →
    ∀ device, env.rejects (nameRequest type device)
  poorer : ∀ kind device, env.rejects (nameRequest (best kind) device) →
    ∀ type ∈ kind.allTypes extended, env.rejects (nameRequest type device)

inductive NameQuery where
  | zoneName (id : UInt16)
  | zoneParams (id : UInt16)
  | outputName (id : UInt16)
  | outputParams (id : UInt16)
  | partitionName (id : UInt16)
  | partitionParams (id : UInt16)

inductive QueryValue where
  | name (name : SatelName)
  | zone (params : ZoneParams)
  | output (params : OutputParams)
  | partition (params : PartitionParams)
  deriving DecidableEq, Repr

def NameQuery.call (decoder : NameDecoder) : NameQuery → ClientCall QueryValue
  | zoneName id => do return .name (← getZoneName decoder id)
  | zoneParams id => do return .zone (← getZoneParams decoder id)
  | outputName id => do return .name (← getOutputName decoder id)
  | outputParams id => do return .output (← getOutputParams decoder id)
  | partitionName id => do return .name (← getPartitionName decoder id)
  | partitionParams id => do return .partition (← getPartitionParams decoder id)

/-- Queries one after another, with something done to the state before each. -/
def performAll (env : Surroundings) (decoder : NameDecoder) (before : ClientWorld → ClientWorld) :
    List NameQuery → ClientWorld → List (Except Failure QueryValue) × ClientWorld
  | [], w => ([], w)
  | query :: queries, w =>
    let first := (query.call decoder).run (ClientOp.exec env) (before w)
    let rest := performAll env decoder before queries first.2
    (first.1 :: rest.1, rest.2)

/-- The levels as a new connection sets them. -/
def forgetLevels (env : Surroundings) (w : ClientWorld) : ClientWorld :=
  ((resetLevels w.config.extendedNameRead).run (ClientOp.exec env) w).2

/-! ### The first answer -/

section Answers
variable {env : Surroundings} {request : UInt8 → Frame} {type best : UInt8} {types : List UInt8}
  {asked : List Frame}

lemma firstAnswer_next (static : ∀ before data, env.answer before data = env.answer [] data)
    (rejected : env.rejects (request type) = true) :
    firstAnswer env.answer request asked (type :: types) =
      firstAnswer env.answer request (asked ++ [request type]) types := by
  rw [Surroundings.rejects] at rejected
  rw [firstAnswer, static asked]
  cases answer : env.answer [] (request type) with
  | error e =>
    rw [answer] at rejected
    cases rejected
  | ok reply =>
    rw [answer] at rejected
    simp only [rejected, if_true]

lemma firstAnswer_stop (static : ∀ before data, env.answer before data = env.answer [] data)
    (answered : ¬ env.rejects (request type) = true) :
    firstAnswer env.answer request asked (type :: types) =
      (some (type, env.answer [] (request type)), asked ++ [request type]) := by
  rw [Surroundings.rejects] at answered
  rw [firstAnswer, static asked]
  cases answer : env.answer [] (request type) with
  | error e => rfl
  | ok reply =>
    rw [answer] at answered
    simp only [if_neg answered]

lemma firstAnswer_rejects (static : ∀ before data, env.answer before data = env.answer [] data)
    (rejected : ∀ type ∈ types, env.rejects (request type) = true) (asked : List Frame) :
    (firstAnswer env.answer request asked types).1 = none := by
  induction types generalizing asked with
  | nil => rfl
  | cons type types ih =>
    rw [firstAnswer_next static (rejected type List.mem_cons_self)]
    exact ih (fun type mem => rejected type (List.mem_cons_of_mem _ mem)) _

/-- Where all types above `best` are rejected, and all types if `best` is, the answer to `best`
decides. -/
lemma firstAnswer_best (static : ∀ before data, env.answer before data = env.answer [] data)
    (sorted : types.Pairwise (· > ·)) (mem : best ∈ types)
    (richer : ∀ type ∈ types, best < type → env.rejects (request type) = true)
    (poorer : env.rejects (request best) = true →
      ∀ type ∈ types, env.rejects (request type) = true) (asked : List Frame) :
    (firstAnswer env.answer request asked types).1 =
      if env.rejects (request best) then none
      else some (best, env.answer [] (request best)) := by
  by_cases rejected : env.rejects (request best) = true
  · rw [if_pos rejected]
    exact firstAnswer_rejects static (poorer rejected) asked
  · rw [if_neg rejected]
    clear poorer
    induction types generalizing asked with
    | nil => cases mem
    | cons type types ih =>
      by_cases here : type = best
      · subst here
        rw [firstAnswer_stop static rejected]
      · have later : best ∈ types := (List.mem_cons.mp mem).resolve_left (Ne.symm here)
        obtain ⟨above, sorted⟩ := List.pairwise_cons.mp sorted
        rw [firstAnswer_next static (richer type List.mem_cons_self (above best later))]
        exact ih sorted later (fun type mem => richer type (List.mem_cons_of_mem _ mem)) _

/-- What is asked depends on the answers alone. -/
lemma firstAnswer_asked (static : ∀ before data, env.answer before data = env.answer [] data)
    (types : List UInt8) (asked : List Frame) :
    (firstAnswer env.answer request asked types).2 =
      asked ++ (firstAnswer env.answer request [] types).2 := by
  induction types generalizing asked with
  | nil => exact (List.append_nil asked).symm
  | cons type types ih =>
    by_cases rejected : env.rejects (request type) = true
    · rw [firstAnswer_next static rejected, firstAnswer_next static rejected, ih, ih ([] ++ _)]
      simp
    · rw [firstAnswer_stop static rejected, firstAnswer_stop static rejected]
      rfl

/-- Types above `best` are rejected, so `best` is asked for. -/
lemma best_asked (static : ∀ before data, env.answer before data = env.answer [] data)
    (sorted : types.Pairwise (· > ·)) (mem : best ∈ types)
    (richer : ∀ type ∈ types, best < type → env.rejects (request type) = true) :
    request best ∈ (firstAnswer env.answer request [] types).2 := by
  induction types with
  | nil => cases mem
  | cons type types ih =>
    by_cases rejected : env.rejects (request type) = true
    · rw [firstAnswer_next static rejected, firstAnswer_asked static, List.nil_append]
      by_cases here : type = best
      · subst here
        exact List.mem_append_left _ List.mem_cons_self
      · have later : best ∈ types := (List.mem_cons.mp mem).resolve_left (Ne.symm here)
        obtain ⟨-, sorted⟩ := List.pairwise_cons.mp sorted
        exact List.mem_append_right _
          (ih sorted later fun type mem => richer type (List.mem_cons_of_mem _ mem))
    · have here : type = best := by
        by_contra ne
        have later : best ∈ types := (List.mem_cons.mp mem).resolve_left (Ne.symm ne)
        obtain ⟨above, -⟩ := List.pairwise_cons.mp sorted
        exact rejected (richer type List.mem_cons_self (above best later))
      subst here
      rw [firstAnswer_stop static rejected]
      exact List.mem_cons_self

end Answers

/-! ### Both runs -/

section Agreement
variable {π : Type} {family : QueryFamily π} {idOf : π → UInt16} {env : Surroundings}
  {decoder : NameDecoder} {id : UInt16} {w w' : ClientWorld} {best : ItemKind → UInt8}
  {extended : Bool}

/-- A level is as a new connection sets it, or confirmed at the type the panel answers. -/
def LevelFits (best : ItemKind → UInt8) (extended : Bool) (w : ClientWorld) (kind : ItemKind) :
    Prop :=
  w.session kind = ⟨kind.topType extended, false⟩ ∨
    w.session kind = ⟨best kind, true⟩

/-- The worlds differ in their levels and in what was asked. -/
structure SameBut (w w' : ClientWorld) : Prop where
  config : w.config = w'.config
  cache : w.cache = w'.cache
  events : w.events = w'.events
  clock : w.clockReadings = w'.clockReadings

/-- Operations that read and write nothing else. -/
def ClientOp.plain : ClientOp → Prop
  | .readConfig | .localNow | .underLock _ | .send _ => True
  | _ => False

/-- The run that keeps its levels, beside the one that does not. -/
structure Agrees (best : ItemKind → UInt8) (extended : Bool) (w w' : ClientWorld) : Prop
    extends SameBut w w' where
  extendedRead : w.config.extendedNameRead = extended
  levels : ∀ kind, LevelFits best extended w kind
  asked : w.asked.Sublist w'.asked

lemma agrees_exec (env : Surroundings) (op : ClientOp) (w w' : ClientWorld) (plain : op.plain)
    (h : Agrees best extended w w') :
    (ClientOp.exec env op w).1 = (ClientOp.exec env op w').1 ∧
      Agrees best extended (ClientOp.exec env op w).2 (ClientOp.exec env op w').2 := by
  obtain ⟨⟨config, cache, events, clock⟩, extendedRead, levels, asked⟩ := h
  cases op with
  | readConfig => exact ⟨config, ⟨config, cache, events, clock⟩, extendedRead, levels, asked⟩
  | localNow =>
    refine ⟨congrArg env.now clock, ⟨config, cache, events, ?_⟩, extendedRead, levels, asked⟩
    exact congrArg (· + 1) clock
  | underLock code =>
    refine ⟨cache, ⟨config, ?_, events, congrArg (· + 1) clock⟩, extendedRead, levels, asked⟩
    simp only [ClientOp.exec_underLock, ClientWorld.cache_enter, cache, clock]
  | send event =>
    exact ⟨rfl, ⟨config, cache, congrArg (· ++ [event]) events, clock⟩, extendedRead, levels, asked⟩
  | _ => exact plain.elim

lemma forgetLevels_eq (env : Surroundings) (w : ClientWorld) :
    forgetLevels env w =
      { w with session := fun kind => ⟨kind.topType w.config.extendedNameRead, false⟩ } := by
  have session : (forgetLevels env w).session =
      fun kind => ⟨kind.topType w.config.extendedNameRead, false⟩ := by
    funext kind
    cases kind <;> rfl
  rw [← session]
  rfl

lemma allTypes_sorted (kind : ItemKind) (extended : Bool) :
    (kind.allTypes extended).Pairwise (· > ·) := by
  cases kind <;> cases extended <;> decide

lemma QueryFamily.Member.fresh_types (member : family.Member idOf) (extended : Bool) :
    family.typesToTry extended (family.kind.topType extended) false =
      family.kind.allTypes extended := by
  cases member <;> cases extended <;> rfl

lemma QueryFamily.Member.confirmed_types (member : family.Member idOf) (extended : Bool)
    (type : UInt8) : family.typesToTry extended type true =
      if extended then [type] else family.kind.allTypes false := by
  cases member <;> cases extended <;> rfl

lemma le_topType {kind : ItemKind} {extended : Bool} {type : UInt8}
    (mem : type ∈ kind.allTypes extended) : ¬ kind.topType extended < type := by
  have all : ((kind.allTypes extended).all fun type => !(kind.topType extended < type)) = true := by
    cases kind <;> cases extended <;> rfl
  simpa using List.all_eq_true.mp all type mem

/-- Asked for `best` alone, or for all types. -/
lemma keptTypes (member : family.Member idOf) (fits : LevelFits best extended w family.kind) :
    let level := w.session family.kind
    let types := family.typesToTry extended level.type level.confirmed
    types = family.kind.allTypes extended ∨ types = [best family.kind] := by
  rcases fits with fresh | settled
  · simp [fresh, member.fresh_types]
  · simp only [settled, member.confirmed_types]
    cases extended with
    | true => exact .inr rfl
    | false => exact .inl rfl

/-- Both runs get the same answer, and the one that keeps its levels asks for no more. -/
lemma first_agrees (member : family.Member idOf)
    (uniform : Uniform env extended best) (h : Agrees best extended w w') :
    (family.first env id w).1 = (family.first env id (forgetLevels env w')).1 ∧
      (family.first env id w).2.Sublist (family.first env id (forgetLevels env w')).2 ∧
      ∀ type reply, (family.first env id w).1 = some (type, .ok reply) →
        type = best family.kind := by
  obtain ⟨static, tried, richer, poorer⟩ := uniform
  have richer : ∀ type ∈ family.kind.allTypes extended, best family.kind < type →
      env.rejects (family.request id type) = true :=
    fun type mem above => richer family.kind type mem above (family.deviceId id)
  have poorer : env.rejects (family.request id (best family.kind)) = true →
      ∀ type ∈ family.kind.allTypes extended,
        env.rejects (family.request id type) = true :=
    poorer family.kind (family.deviceId id)
  have sorted := allTypes_sorted family.kind extended
  have value (asked : List Frame) :=
    firstAnswer_best static sorted (tried family.kind) richer poorer asked
  have plain : family.first env id (forgetLevels env w') = firstAnswer env.answer (family.request id)
      w'.asked (family.kind.allTypes extended) := by
    rw [forgetLevels_eq, QueryFamily.first, ← h.config, h.extendedRead]
    simp only [member.fresh_types]
  have decided : ∀ type reply, (if env.rejects (family.request id (best family.kind)) then none
      else some (best family.kind, env.answer [] (family.request id (best family.kind)))) =
        some (type, (.ok reply : Except SatelError Frame)) → type = best family.kind := by
    intro type reply found
    split at found
    · cases found
    · exact (Prod.mk.inj (Option.some.inj found)).1.symm
  rw [plain]
  rcases keptTypes member (h.levels family.kind) with all | only
  · rw [QueryFamily.first, h.extendedRead, all]
    refine ⟨(value _).trans (value _).symm, ?_, ?_⟩
    · rw [firstAnswer_asked static, firstAnswer_asked static _ w'.asked]
      exact h.asked.append_right _
    · rw [value]
      exact decided
  · have alone : (firstAnswer env.answer (family.request id) w.asked [best family.kind]).1 = _ :=
      firstAnswer_best static (List.pairwise_singleton _ _) List.mem_cons_self
        (by
          intro type mem above
          obtain rfl := List.mem_singleton.mp mem
          exact absurd above (UInt8.lt_irrefl _))
        (by
          intro rejected type mem
          obtain rfl := List.mem_singleton.mp mem
          exact rejected) w.asked
    rw [QueryFamily.first, h.extendedRead, only]
    refine ⟨alone.trans (value _).symm, ?_, ?_⟩
    · have one : (firstAnswer env.answer (family.request id) [] [best family.kind]).2 =
          [family.request id (best family.kind)] := by
        by_cases rejected : env.rejects (family.request id (best family.kind)) = true
        · rw [firstAnswer_next static rejected]
          rfl
        · rw [firstAnswer_stop static rejected]
          rfl
      rw [firstAnswer_asked static, firstAnswer_asked static _ w'.asked, one]
      exact h.asked.append (List.singleton_sublist.mpr
        (best_asked static sorted (tried family.kind) richer))
    · rw [alone]
      exact decided

lemma confirm_best {kind : ItemKind} (fits : LevelFits best extended w kind)
    (tried : best kind ∈ kind.allTypes extended) :
    (w.session kind).confirm (w.session kind).type (best kind) = ⟨best kind, true⟩ := by
  rcases fits with fresh | settled
  · rw [fresh, SessionLevel.confirm]
    by_cases lower : best kind < kind.topType extended
    · rw [if_pos lower]
    · have top : kind.topType extended = best kind :=
        UInt8.le_antisymm (UInt8.not_lt.mp lower) (UInt8.not_lt.mp (le_topType tried))
      rw [if_neg lower]
      simp only [top]
  · rw [settled, SessionLevel.confirm]
    simp

/-- The level that is kept is settled by a reply. -/
lemma Agrees.confirm {kind : ItemKind} (h : Agrees best extended w w')
    (tried : best kind ∈ kind.allTypes extended) (level' : SessionLevel) :
    Agrees best extended (w.setLevel kind ((w.session kind).confirm (w.session kind).type (best kind)))
      (w'.setLevel kind level') := by
  rw [confirm_best (h.levels kind) tried]
  refine ⟨⟨h.config, h.cache, h.events, h.clock⟩, h.extendedRead, ?_, h.asked⟩
  intro kind'
  by_cases same : kind' = kind
  · subst same
    exact .inr (Function.update_self _ _ _)
  · have other : (w.setLevel kind ⟨best kind, true⟩).session kind' = w.session kind' :=
      Function.update_of_ne same _ _
    rw [LevelFits, other]
    exact h.levels kind'

lemma takeReply_agrees (reply : Frame) (loaded' : UInt8) (h : Agrees best extended w w')
    (tried : best family.kind ∈ family.kind.allTypes extended) :
    let run := (takeReply family decoder (w.session family.kind).type (best family.kind) reply).run
      (ClientOp.exec env) w
    let run' := (takeReply family decoder loaded' (best family.kind) reply).run
      (ClientOp.exec env) w'
    run.1 = run'.1 ∧ Agrees best extended run.2 run'.2 := by
  intro run run'
  have stored : run = _ := run_storeLevel family.kind (w.session family.kind).type _ _
  have stored' : run' = _ := run_storeLevel family.kind loaded' _ _
  rw [stored, stored']
  exact CallTree.run_related (agrees_exec env)
    (@readReply_only _ family decoder ClientOp.plain trivial (fun _ => trivial) reply)
    (h.confirm tried _)

/-- Once both have the same answer, both do the same with it. -/
lemma settle_agrees (first : Option (UInt8 × Except SatelError Frame)) (loaded' : UInt8)
    (h : Agrees best extended w w')
    (tried : best family.kind ∈ family.kind.allTypes extended)
    (answered : ∀ type reply, first = some (type, .ok reply) → type = best family.kind) :
    let run := (settle family decoder id (w.session family.kind).type first).run
      (ClientOp.exec env) w
    let run' := (settle family decoder id loaded' first).run (ClientOp.exec env) w'
    run.1 = run'.1 ∧ Agrees best extended run.2 run'.2 := by
  intro run run'
  rcases first with _ | ⟨type, e | reply⟩
  · have plain : (tryTypes family decoder id (w.session family.kind).type []).Only ClientOp.plain := by
      simp [tryTypes, ClientOp.plain]
    exact CallTree.run_related (agrees_exec env) plain h
  · exact ⟨rfl, h⟩
  · obtain rfl := answered type reply rfl
    by_cases name : startsWith SatelCommand.readDeviceName.toByte reply = true
    · have same := @takeReply_agrees _ family env decoder w w' best extended reply loaded' h tried
      simp only [run, run', settle, name, if_true]
      exact same
    · simp only [run, run', settle, name]
      exact ⟨rfl, h⟩

lemma run_query (w : ClientWorld) :
    (queryInternal family decoder id).run (ClientOp.exec env) w =
      (settle family decoder id (w.session family.kind).type (family.first env id w).1).run
        (ClientOp.exec env) { w with asked := (family.first env id w).2 } := run_queryInternal

/-- A query, and what a function of its family makes of it. -/
lemma query_agrees {α : Type} (member : family.Member idOf)
    (uniform : Uniform env extended best) (h : Agrees best extended w w')
    {rest : SatelName × Option π → ClientCall α} (plain : ∀ value, (rest value).Only ClientOp.plain) :
    let run := (queryInternal family decoder id >>= rest).run (ClientOp.exec env) w
    let run' := (queryInternal family decoder id >>= rest).run (ClientOp.exec env)
      (forgetLevels env w')
    run.1 = run'.1 ∧ Agrees best extended run.2 run'.2 := by
  intro run run'
  obtain ⟨same, fewer, answered⟩ :=
    @first_agrees _ family idOf env id w w' best extended member uniform h
  have asked : Agrees best extended { w with asked := (family.first env id w).2 }
      { forgetLevels env w' with asked := (family.first env id (forgetLevels env w')).2 } := by
    rw [forgetLevels_eq] at fewer ⊢
    exact ⟨⟨h.config, h.cache, h.events, h.clock⟩, h.extendedRead, h.levels, fewer⟩
  obtain ⟨value, kept⟩ := @settle_agrees _ family env decoder id _ _ best extended
    (family.first env id w).1 ((forgetLevels env w').session family.kind).type asked
    (uniform.tried family.kind) answered
  have query := @run_query _ family env decoder id w
  have query' := @run_query _ family env decoder id (forgetLevels env w')
  rw [← same] at query'
  rw [← query, ← query'] at value kept
  simp only [run, run', CallTree.run_bind]
  generalize (queryInternal family decoder id).run (ClientOp.exec env) w = result at value kept ⊢
  generalize (queryInternal family decoder id).run (ClientOp.exec env) (forgetLevels env w') =
    result' at value kept ⊢
  obtain ⟨r, after⟩ := result
  obtain ⟨r', after'⟩ := result'
  obtain rfl : r = r' := value
  cases r with
  | error e => exact ⟨rfl, kept⟩
  | ok a => exact CallTree.run_related (agrees_exec env) (plain a) kept

/-- Each of the six functions is a query of its family and plain operations that follow. -/
lemma NameQuery.call_eq (query : NameQuery) :
    ∃ (π : Type) (family : QueryFamily π) (idOf : π → UInt16) (id : UInt16)
      (rest : SatelName × Option π → ClientCall QueryValue), family.Member idOf ∧
        (∀ value, (rest value).Only ClientOp.plain) ∧
        query.call decoder = queryInternal family decoder id >>= rest := by
  have name {π : Type} {family : QueryFamily π} {idOf : π → UInt16} (member : family.Member idOf)
      (id : UInt16) : ∃ rest : SatelName × Option π → ClientCall QueryValue,
        (∀ value, (rest value).Only ClientOp.plain) ∧
        (do return .name (← getName family decoder id)) =
          queryInternal family decoder id >>= rest := by
    refine ⟨_, ?_, CallTree.bind_bind _⟩
    rintro ⟨name, _ | params⟩
    · exact trivial
    · refine CallTree.Only.bind ?_ fun _ => trivial
      simp [ClientOp.plain]
  have params {π : Type} {family : QueryFamily π} {idOf : π → UInt16} (member : family.Member idOf)
      (id : UInt16) (value : π → QueryValue) :
      ∃ rest : SatelName × Option π → ClientCall QueryValue,
        (∀ value, (rest value).Only ClientOp.plain) ∧
        (do return value (← getParams family decoder id)) =
          queryInternal family decoder id >>= rest := by
    refine ⟨_, ?_, CallTree.bind_bind _⟩
    rintro ⟨name, _ | params⟩
    · exact trivial
    · refine CallTree.Only.bind ?_ fun _ => trivial
      simp [ClientOp.plain]
  cases query with
  | zoneName id => exact ⟨_, _, _, id, _, .zone, (name .zone id).choose_spec⟩
  | zoneParams id => exact ⟨_, _, _, id, _, .zone, (params .zone id .zone).choose_spec⟩
  | outputName id => exact ⟨_, _, _, id, _, .output, (name .output id).choose_spec⟩
  | outputParams id => exact ⟨_, _, _, id, _, .output, (params .output id .output).choose_spec⟩
  | partitionName id => exact ⟨_, _, _, id, _, .partition, (name .partition id).choose_spec⟩
  | partitionParams id =>
    exact ⟨_, _, _, id, _, .partition, (params .partition id .partition).choose_spec⟩

/-- Sequences of queries. -/
lemma performAll_agrees (queries : List NameQuery) (uniform : Uniform env extended best)
    (h : Agrees best extended w w') :
    let kept := performAll env decoder (fun w => w) queries w
    let plain := performAll env decoder (forgetLevels env) queries w'
    kept.1 = plain.1 ∧ Agrees best extended kept.2 plain.2 := by
  induction queries generalizing w w' with
  | nil => exact ⟨rfl, h⟩
  | cons query queries ih =>
    obtain ⟨π, family, idOf, id, rest, member, plain, call⟩ := @NameQuery.call_eq decoder query
    obtain ⟨value, after⟩ :=
      @query_agrees _ family idOf env decoder id w w' best extended _ member uniform h rest plain
    rw [← call] at value after
    obtain ⟨values, final⟩ := ih after
    exact ⟨congrArg₂ List.cons value values, final⟩

/-! ### What is saved -/

/-- The confirmed levels of a session that asks for all parameters. -/
structure LevelsConfirmed (w : ClientWorld) : Prop where
  extendedRead : w.config.extendedNameRead = true
  confirmed : ∀ kind, (w.session kind).confirmed = true

/-- Operations that reset nothing. -/
def ClientOp.ofQuery : ClientOp → Prop
  | .resetType _ _ | .resetConfirmed _ | .swapConfig _ => False
  | _ => True

lemma settled_exec (env : Surroundings) (op : ClientOp) (w : ClientWorld) (ofQuery : op.ofQuery)
    (h : LevelsConfirmed w) : LevelsConfirmed (ClientOp.exec env op w).2 := by
  obtain ⟨extendedRead, confirmed⟩ := h
  cases op with
  | storeType kind type =>
    refine ⟨extendedRead, fun kind' => ?_⟩
    by_cases same : kind' = kind
    · subst same
      simp only [ClientOp.exec_storeType, ClientWorld.setType, ClientWorld.session_setLevel,
        Function.update_self]
      exact confirmed kind'
    · simp only [ClientOp.exec_storeType, ClientWorld.setType, ClientWorld.session_setLevel,
        Function.update_of_ne same]
      exact confirmed kind'
  | storeConfirmed kind =>
    refine ⟨extendedRead, fun kind' => ?_⟩
    by_cases same : kind' = kind
    · subst same
      simp [ClientWorld.setConfirmed]
    · simp only [ClientOp.exec_storeConfirmed, ClientWorld.setConfirmed,
        ClientWorld.session_setLevel, Function.update_of_ne same]
      exact confirmed kind'
  | swapConfig newConfig | resetType kind type | resetConfirmed kind => exact ofQuery.elim
  | _ => exact ⟨extendedRead, confirmed⟩

lemma takeReply_ofQuery (loaded type : UInt8) (reply : Frame) :
    (takeReply family decoder loaded type reply).Only ClientOp.ofQuery := by
  have read := @readReply_only _ family decoder ClientOp.ofQuery trivial (fun _ => trivial) reply
  by_cases lower : type < loaded
  · simp only [takeReply, lower, if_true, CallTree.only_perform_bind]
    exact ⟨trivial, fun _ => ⟨trivial, fun _ => read⟩⟩
  · simp only [takeReply, lower, if_false, CallTree.only_perform_bind]
    exact ⟨trivial, fun _ => read⟩

lemma tryTypes_ofQuery (loaded : UInt8) (types : List UInt8) :
    (tryTypes family decoder id loaded types).Only ClientOp.ofQuery := by
  induction types with
  | nil => simp [tryTypes, ClientOp.ofQuery]
  | cons type types ih =>
    rw [tryTypes, CallTree.only_perform_bind]
    refine ⟨trivial, fun answer => (orReturn_only _).bind fun reply => ?_⟩
    rw [CallTree.only_ite, CallTree.only_ite]
    exact ⟨fun _ => ih, fun _ => ⟨fun _ => takeReply_ofQuery _ _ _, fun _ => trivial⟩⟩

/-- A query of a settled session makes one request. -/
lemma query_one_request {α : Type} (member : family.Member idOf) (h : LevelsConfirmed w)
    {rest : SatelName × Option π → ClientCall α} (plain : ∀ value, (rest value).Only ClientOp.plain) :
    let after := ((queryInternal family decoder id >>= rest).run (ClientOp.exec env) w).2
    LevelsConfirmed after ∧ after.asked.length = w.asked.length + 1 := by
  have one (asked : List Frame) (request : UInt8 → Frame) (type : UInt8) :
      (firstAnswer env.answer request asked [type]).2 = asked ++ [request type] := by
    rw [firstAnswer]
    cases env.answer asked (request type) with
    | error e => rfl
    | ok reply =>
      by_cases rejected : startsWith SatelCommand.resultCode.toByte reply = true
      · simp [rejected, firstAnswer]
      · simp [rejected]
  obtain ⟨-, asked, -⟩ := @queryInternal_ends _ family idOf env decoder id w member
  have types : (family.first env id w).2.length = w.asked.length + 1 := by
    rw [QueryFamily.first, h.extendedRead, h.confirmed, member.confirmed_types, if_pos rfl, one]
    simp
  have query : (queryInternal family decoder id).Only ClientOp.ofQuery := by
    simp only [queryInternal, CallTree.only_perform_bind]
    exact ⟨trivial, fun _ => ⟨trivial, fun _ => ⟨trivial, fun _ => tryTypes_ofQuery _ _⟩⟩⟩
  have settled : LevelsConfirmed ((queryInternal family decoder id).run (ClientOp.exec env) w).2 :=
    CallTree.run_only (settled_exec env) query h
  intro after
  have goal (v : ClientWorld) (h : LevelsConfirmed v)
      (length : v.asked.length = w.asked.length + 1) (value) :
      let after := ((rest value).run (ClientOp.exec env) v).2
      LevelsConfirmed after ∧ after.asked.length = w.asked.length + 1 := by
    have keep (op : ClientOp) (v : ClientWorld) (plain : op.plain)
        (h : LevelsConfirmed v ∧ v.asked.length = w.asked.length + 1) :
        LevelsConfirmed (ClientOp.exec env op v).2 ∧
          (ClientOp.exec env op v).2.asked.length = w.asked.length + 1 := by
      cases op with
      | readConfig | localNow | underLock code | send event => exact ⟨⟨h.1.1, h.1.2⟩, h.2⟩
      | _ => exact plain.elim
    exact CallTree.run_only keep (plain value) ⟨h, length⟩
  simp only [after, CallTree.run_bind]
  generalize (queryInternal family decoder id).run (ClientOp.exec env) w = result at settled asked ⊢
  obtain ⟨r, v⟩ := result
  have length : v.asked.length = w.asked.length + 1 := by
    rw [show v.asked = _ from asked]
    exact types
  cases r with
  | error e => exact ⟨settled, length⟩
  | ok value => exact goal v settled length value

/-- A settled session makes one request a query. -/
lemma performAll_one_request (queries : List NameQuery) (h : LevelsConfirmed w) :
    (performAll env decoder (fun w => w) queries w).2.asked.length =
      w.asked.length + queries.length := by
  induction queries generalizing w with
  | nil => rfl
  | cons query queries ih =>
    obtain ⟨π, family, idOf, id, rest, member, plain, call⟩ := @NameQuery.call_eq decoder query
    obtain ⟨settled, one⟩ :=
      @query_one_request _ family idOf env decoder id w _ member h rest plain
    rw [← call] at settled one
    have later := ih settled
    simp only [performAll, List.length_cons]
    omega

end Agreement

/-- In any sequence of queries, against a panel of one type a kind, keeping the levels changes
neither a value, nor the cache, nor an event: it only leaves out requests, and all but one of each
query once the levels are confirmed. -/
theorem levels_only_save_requests (env : Surroundings) (decoder : NameDecoder)
    (best : ItemKind → UInt8) (queries : List NameQuery) (w : ClientWorld)
    (uniform : Uniform env w.config.extendedNameRead best)
    (fits : ∀ kind, LevelFits best w.config.extendedNameRead w kind) :
    let kept := performAll env decoder (fun w => w) queries w
    let plain := performAll env decoder (forgetLevels env) queries w
    kept.1 = plain.1 ∧ kept.2.cache = plain.2.cache ∧ kept.2.events = plain.2.events ∧
      kept.2.asked.Sublist plain.2.asked ∧
      (LevelsConfirmed w → kept.2.asked.length = w.asked.length + queries.length) := by
  have same : Agrees best w.config.extendedNameRead w w :=
    ⟨⟨rfl, rfl, rfl, rfl⟩, rfl, fits, List.Sublist.refl _⟩
  obtain ⟨values, final⟩ := @performAll_agrees env decoder w w best _ queries uniform same
  exact ⟨values, final.cache, final.events, final.asked, performAll_one_request queries⟩

/-- A panel that answers for zone 1 only, in the types 1, 4 and 16. -/
def olderPanel : Surroundings where
  answer _ data :=
    if data.getD 1 0 ∈ [1, 4, 16] ∧ data.drop 2 = [1] then .ok (data ++ List.replicate 19 0x20)
    else .ok [0xEF, 0]
  connected _ := .ok ()
  now _ := ⟨0, Nat.zero_le _⟩

lemma olderPanel_other {type device : UInt8} (h : type ∉ [1, 4, 16] ∨ device ≠ 1) :
    olderPanel.rejects (nameRequest type device) = true := by
  have outside : ¬ (type ∈ [1, 4, 16] ∧ device = 1) := by
    rintro ⟨mem, rfl⟩
    rcases h with other | other
    · exact other mem
    · exact other rfl
  have rejected : olderPanel.answer [] (nameRequest type device) = .ok [0xEF, 0] :=
    if_neg fun answers => outside ⟨answers.1, List.head_eq_of_cons_eq answers.2⟩
  rw [Surroundings.rejects, rejected]
  rfl

def olderType : ItemKind → UInt8
  | .zone => 1
  | .output => 4
  | .partition => 16

lemma olderPanel_uniform : Uniform olderPanel true olderType where
  static _ _ := rfl
  tried kind := by cases kind <;> decide
  richer kind type mem above device := by
    have others : ∀ kind : ItemKind, ∀ type ∈ kind.allTypes true, olderType kind < type →
        type ∉ [1, 4, 16] := by
      intro kind
      cases kind <;> decide +kernel
    exact olderPanel_other (.inl (others kind type mem above))
  poorer kind device rejected type mem := by
    refine olderPanel_other (.inr ?_)
    rintro rfl
    cases kind <;> exact absurd rejected (by decide)

/-- Zone 1 is asked for twice, and then once; zone 2, which it does not know, then costs one. -/
theorem levels_only_save_requests_older_panel :
    let decoder : NameDecoder := fun _ => ([], false)
    let queries : List NameQuery := [.zoneName 1, .zoneParams 1, .zoneName 2]
    let w : ClientWorld := .new {} ⟨0, Nat.zero_le _⟩
    let kept := performAll olderPanel decoder (fun w => w) queries w
    let plain := performAll olderPanel decoder (forgetLevels olderPanel) queries w
    kept.1 = plain.1 ∧ kept.2.asked.length = 4 ∧ plain.2.asked.length = 6 := by
  intro decoder queries w kept plain
  have fresh (kind : ItemKind) : LevelFits olderType true w kind := .inl rfl
  have agrees :=
    levels_only_save_requests olderPanel decoder olderType queries w olderPanel_uniform fresh
  exact ⟨agrees.1, by decide, by decide⟩

end SatelIntegra
