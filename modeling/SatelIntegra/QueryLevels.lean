import SatelIntegra.QueryRuns

/-!
# Confirmed levels beside reloads

A query loads the level of its session, waits for the panel, and stores a level; a
reload may store in between. As long as no query stores after a reset it has not
seen, and no reset changes a level that is confirmed, a confirmed type is one the
panel has answered.
-/

namespace SatelIntegra

open CheckedAccess AtomicCalls ClientCall

variable {ι : Type}

def ItemKind.types : ItemKind → List UInt8
  | .zone => [5, 1]
  | .output => [17, 4]
  | .partition => [19, 18, 16, 0]

section Trace
variable (kind : ItemKind)

/-- Either store of a reset. -/
def ClientOp.resets : ClientOp → Bool
  | .resetType k _ | .resetConfirmed k => k == kind
  | _ => false

def ClientOp.unconfirms : ClientOp → Bool
  | .resetConfirmed k => k == kind
  | _ => false

def ClientOp.loads : ClientOp → Bool
  | .loadType k => k == kind
  | _ => false

/-- The panel answers a query of this type by a name. The types of two kinds differ. -/
def answersType (type : UInt8) : (op : ClientOp) → op.Answer → Bool
  | .exchange data _, answer =>
    data.take 2 == [SatelCommand.readDeviceName.toByte, type] &&
      match (answer : Except SatelError Frame) with
      | .ok reply => startsWith SatelCommand.readDeviceName.toByte reply
      | .error _ => false
  | _, _ => false

/-- Since the confirmed flag was last reset, the panel has answered this type. -/
def answeredType (type : UInt8) : List (ClientEvent ι) → Bool
  | [] => false
  | e :: earlier =>
    answersType type e.op e.answer || (!e.op.unconfirms kind && answeredType type earlier)

/-- A reset has stored something since the task loaded the type. -/
def resetSinceLoad [DecidableEq ι] (i : ι) : List (ClientEvent ι) → Bool
  | [] => false
  | e :: earlier =>
    !(e.task = i && e.op.loads kind) && (e.op.resets kind || resetSinceLoad i earlier)

/-- A confirmed level is not replaced by a type that was not answered, and no query stores a level
it has loaded before a reset. -/
def NoStaleLevel [DecidableEq ι] (m : ClientMoment ι) (i : ι) : ClientOp → Prop
  | .resetType k type => k = kind → (m.shared.session kind).confirmed = true →
      answeredType kind type m.trace = true
  | .storeType k _ | .storeConfirmed k => k = kind → resetSinceLoad kind i m.trace = false
  | _ => True

end Trace

/-- The calls a task may make. -/
inductive LevelCall : ClientCall Unit → Prop where
  | zone (decoder : NameDecoder) (id : UInt16) :
      LevelCall (do let _ ← queryZoneInternal decoder id)
  | output (decoder : NameDecoder) (id : UInt16) :
      LevelCall (do let _ ← queryOutputInternal decoder id)
  | partition (decoder : NameDecoder) (id : UInt16) :
      LevelCall (do let _ ← queryPartitionInternal decoder id)
  | reload (newConfig : Config) : LevelCall (hotReloadConfig newConfig)

/-- Types are tried from that of the session downwards. -/
lemma QueryFamily.Member.mem_typesToTry {π : Type} {family : QueryFamily π} {idOf : π → UInt16}
    (member : family.Member idOf) {extended confirmed : Bool} {sessionType type : UInt8}
    (level : sessionType ∈ family.kind.types)
    (mem : type ∈ family.typesToTry extended sessionType confirmed) :
    type ∈ family.kind.types ∧ (type < sessionType ∨ type = sessionType) := by
  have all : (family.kind.types.all fun sessionType =>
      (family.typesToTry extended sessionType confirmed).all fun type =>
        family.kind.types.contains type && (type < sessionType || type == sessionType)) = true := by
    cases member <;> cases extended <;> cases confirmed <;> rfl
  have here := List.all_eq_true.mp (List.all_eq_true.mp all sessionType level) type mem
  simpa using here

/-! ### What every operation keeps -/

section Invariant
variable (kind : ItemKind)

structure Truthful (m : ClientMoment ι) : Prop where
  level : (m.shared.session kind).type ∈ kind.types
  answered : (m.shared.session kind).confirmed = true →
    answeredType kind (m.shared.session kind).type m.trace = true

def levelContract (ι : Type) [DecidableEq ι] (kind : ItemKind) (env : Surroundings) :
    Contract ι ClientOp ClientOp.Answer ClientWorld where
  exec := ClientOp.exec env
  allowed := NoStaleLevel kind
  Inv := Truthful kind
  promise m _ op := ∀ type, op = .storeType kind type → answeredType kind type m.trace = true

/-- Operations that store nothing in the level of this kind. -/
def LeavesLevel : ClientOp → Prop
  | .storeType k _ | .storeConfirmed k | .resetType k _ | .resetConfirmed k => k ≠ kind
  | _ => True

variable {kind : ItemKind} {env : Surroundings} {i j : ι} {m : ClientMoment ι} {op : ClientOp}

lemma answeredType_perform {type : UInt8} (keeps : op.unconfirms kind = false)
    (h : answeredType kind type m.trace = true) :
    answeredType kind type (m.perform (ClientOp.exec env) i op).trace = true := by
  simp [Moment.perform, answeredType, keeps, h]

lemma LeavesLevel.unconfirms (leaves : LeavesLevel kind op) : op.unconfirms kind = false := by
  cases op with
  | resetConfirmed k => exact beq_false_of_ne leaves
  | _ => rfl

lemma LeavesLevel.session (leaves : LeavesLevel kind op) (w : ClientWorld) :
    (ClientOp.exec env op w).2.session kind = w.session kind := by
  cases op with
  | storeType k type | storeConfirmed k | resetType k type | resetConfirmed k =>
    exact Function.update_of_ne (Ne.symm leaves) _ _
  | _ => rfl

lemma Truthful.perform_leaves (h : Truthful kind m) (leaves : LeavesLevel kind op) :
    Truthful kind (m.perform (ClientOp.exec env) i op) := by
  refine ⟨?_, ?_⟩
  · simp only [Moment.perform, leaves.session]
    exact h.level
  · intro confirmed
    simp only [Moment.perform, leaves.session] at confirmed ⊢
    exact @answeredType_perform ι kind env i m op _ leaves.unconfirms (h.answered confirmed)

lemma safe_of_leaves [DecidableEq ι] {α : Type} {c : ClientCall α} (h : c.Only (LeavesLevel kind)) :
    (levelContract ι kind env).Safe i (fun _ _ => True) c m := by
  refine Contract.safe_of_only ?_ h
  intro m op leaves truthful _
  refine ⟨?_, Truthful.perform_leaves truthful leaves⟩
  rintro type rfl
  exact absurd rfl leaves

lemma unconfirms_of_unreset (unreset : op.resets kind = false) : op.unconfirms kind = false := by
  cases op with
  | resetConfirmed k => exact unreset
  | _ => rfl

/-- Nothing but a reset and the store of a type changes the type. -/
lemma type_exec (w : ClientWorld) (unreset : op.resets kind = false)
    (unstored : ∀ type, op ≠ .storeType kind type) :
    ((ClientOp.exec env op w).2.session kind).type = (w.session kind).type := by
  cases op with
  | storeType k type =>
    have ne : kind ≠ k := by
      rintro rfl
      exact unstored type rfl
    exact congrArg SessionLevel.type (Function.update_of_ne ne _ _)
  | storeConfirmed k =>
    by_cases same : kind = k
    · subst same
      simp [ClientWorld.setConfirmed]
    · exact congrArg SessionLevel.type (Function.update_of_ne same _ _)
  | resetType k type | resetConfirmed k =>
    have ne : kind ≠ k := by
      rintro rfl
      cases (beq_self_eq_true kind).symm.trans unreset
    exact congrArg SessionLevel.type (Function.update_of_ne ne _ _)
  | _ => rfl

/-- Knowledge of a task about the level that only a reset makes wrong. -/
def UnlessReset [DecidableEq ι] (kind : ItemKind) (i : ι) (Q : ClientMoment ι → Prop)
    (m : ClientMoment ι) : Prop :=
  resetSinceLoad kind i m.trace = true ∨ Q m

/-- The panel has answered the type that is stored, unless it is one of these. -/
def AnsweredUnless (kind : ItemKind) (P : UInt8 → Prop) (m : ClientMoment ι) : Prop :=
  P (m.shared.session kind).type ∨ answeredType kind (m.shared.session kind).type m.trace = true

/-- What an operation that resets nothing leaves true, if it stores only types that are answered. -/
def Lasting (kind : ItemKind) (env : Surroundings) (Q : ClientMoment ι → Prop) : Prop :=
  ∀ m i op, op.resets kind = false →
    (∀ type, op = .storeType kind type → answeredType kind type m.trace = true) →
      Q m → Q (m.perform (ClientOp.exec env) i op)

lemma answeredType_lasting (type : UInt8) :
    Lasting kind env fun m : ClientMoment ι => answeredType kind type m.trace = true := by
  intro m i op unreset _ h
  exact answeredType_perform (unconfirms_of_unreset unreset) h

lemma answeredUnless_lasting (P : UInt8 → Prop) :
    Lasting kind env (AnsweredUnless kind P : ClientMoment ι → Prop) := by
  intro m i op unreset promised h
  by_cases stores : ∃ type, op = .storeType kind type
  · obtain ⟨type, rfl⟩ := stores
    refine .inr ?_
    have stored : ((m.perform (ClientOp.exec env) i (.storeType kind type)).shared.session
        kind).type = type := by simp [Moment.perform, ClientWorld.setType]
    rw [stored]
    exact answeredType_perform rfl (promised type rfl)
  · have same := @type_exec kind env op m.shared unreset fun type stored => stores ⟨type, stored⟩
    unfold AnsweredUnless
    simp only [Moment.perform] at same ⊢
    rw [same]
    exact h.imp_right fun h => answeredType_perform (unconfirms_of_unreset unreset) h

variable [DecidableEq ι]

lemma unlessReset_perform {Q : ClientMoment ι → Prop} (lasting : Lasting kind env Q)
    (unloaded : j ≠ i ∨ op.loads kind = false)
    (promised : ∀ type, op = .storeType kind type → answeredType kind type m.trace = true)
    (h : UnlessReset kind i Q m) :
    UnlessReset kind i Q (m.perform (ClientOp.exec env) j op) := by
  have other : (decide (j = i) && op.loads kind) = false := by
    rcases unloaded with ne | none
    · simp [ne]
    · simp [none]
  cases resets : op.resets kind with
  | true => exact .inl (by simp [Moment.perform, resetSinceLoad, other, resets])
  | false =>
    rcases h with reset | h
    · exact .inl (by simp [Moment.perform, resetSinceLoad, other, reset])
    · exact .inr (lasting m j op resets promised h)

lemma unlessReset_stable {Q : ClientMoment ι → Prop} (lasting : Lasting kind env Q) :
    (levelContract ι kind env).Stable i (UnlessReset kind i Q) := by
  intro m j op other _ promised h
  exact unlessReset_perform lasting (.inl other) promised h

end Invariant

/-! ### Calls -/

section Calls
variable [DecidableEq ι] {π : Type} {family : QueryFamily π} {idOf : π → UInt16}
  {env : Surroundings} {decoder : NameDecoder} {id : UInt16} {i : ι} {m : ClientMoment ι}

@[simp] lemma only_orPanic {α : Type} {P : ClientOp → Prop} (x : Except Panic α) :
    (orPanic x).Only P := by
  cases x <;> trivial

@[simp] lemma only_orReturn {α : Type} {P : ClientOp → Prop} (x : Except SatelError α) :
    (orReturn x).Only P := by
  cases x <;> trivial

/-- What follows the stores. -/
lemma parse_only {P : ClientOp → Prop} (now : P .localNow) (code : ∀ code, P (.underLock code))
    (reply : Frame) :
    (do
      let parsed ← orPanic (family.process decoder reply (← ClientCall.localNow)).run
      let (number, name, params) ← orReturn parsed
      let _ ← underLock (family.store number name params)
      return (name, some params) : ClientCall (SatelName × Option π)).Only P := by
  refine ⟨now, ?_⟩
  intro time
  refine (only_orPanic _).bind fun parsed => (only_orReturn _).bind ?_
  intro (number, name, params)
  exact ⟨code _, fun _ => trivial⟩

/-- A type the panel has answered may be confirmed. -/
lemma confirm_safe {kind : ItemKind} {α : Type} {rest : ClientCall α}
    (known : UnlessReset kind i (AnsweredUnless kind fun _ => False) m)
    (leaves : rest.Only (LeavesLevel kind)) :
    (levelContract ι kind env).Safe i (fun _ _ => True)
      (do
        CallTree.perform (ClientOp.storeConfirmed kind)
        rest) m := by
  refine Contract.safe_perform_bind.mpr ?_
  intro m' others truthful fresh
  have known' := (unlessReset_stable (answeredUnless_lasting _)).others others known
  have answered := (known'.resolve_left (ne_true_of_eq_false (fresh rfl))).resolve_left id
  have same : ((m'.perform (ClientOp.exec env) i (.storeConfirmed kind)).shared.session kind).type =
      (m'.shared.session kind).type := type_exec m'.shared rfl fun _ stored => by cases stored
  refine ⟨?_, ⟨?_, ?_⟩, safe_of_leaves leaves⟩
  · intro type stored
    cases stored
  · exact same ▸ truthful.level
  · intro _
    exact same ▸ answeredType_perform rfl answered

/-- The stores after an answer, once the panel has answered the type they store. -/
lemma takeReply_safe {loaded devType : UInt8} (level : devType ∈ family.kind.types)
    (down : devType < loaded ∨ devType = loaded)
    (known : UnlessReset family.kind i (AnsweredUnless family.kind (· = loaded)) m)
    (answered : UnlessReset family.kind i
      (fun m => answeredType family.kind devType m.trace = true) m) (reply : Frame) :
    (levelContract ι family.kind env).Safe i (fun _ _ => True)
      (takeReply family decoder loaded devType reply) m := by
  have rest := @parse_only _ family decoder (LeavesLevel family.kind) trivial (fun _ => trivial) reply
  by_cases lower : devType < loaded
  · simp only [takeReply, lower, if_true]
    refine Contract.safe_perform_bind.mpr ?_
    intro m' others truthful fresh
    have answered' := ((unlessReset_stable (answeredType_lasting devType)).others others
      answered).resolve_left (ne_true_of_eq_false (fresh rfl))
    have stored : ((m'.perform (ClientOp.exec env) i
        (.storeType family.kind devType)).shared.session family.kind).type = devType := by
      simp [Moment.perform, ClientWorld.setType]
    have kept : answeredType family.kind devType
        (m'.perform (ClientOp.exec env) i (.storeType family.kind devType)).trace = true :=
      answeredType_perform rfl answered'
    rw [← stored] at level kept
    refine ⟨?_, ⟨level, fun _ => kept⟩, confirm_safe (.inr (.inr kept)) rest⟩
    rintro type ⟨rfl⟩
    exact answered'
  · simp only [takeReply, lower, if_false]
    refine confirm_safe ?_ rest
    obtain rfl := down.resolve_left lower
    rcases known with reset | same | known
    · exact .inl reset
    · rcases answered with reset | answered
      · exact .inl reset
      · exact .inr (.inr (same ▸ answered))
    · exact .inr (.inr known)

/-- The loop over the types. -/
lemma tryTypes_safe {loaded : UInt8} {types : List UInt8}
    (levels : ∀ type ∈ types, type ∈ family.kind.types ∧ (type < loaded ∨ type = loaded))
    (known : UnlessReset family.kind i (AnsweredUnless family.kind (· = loaded)) m) :
    (levelContract ι family.kind env).Safe i (fun _ _ => True)
      (tryTypes family decoder id loaded types) m := by
  induction types generalizing m with
  | nil =>
    refine safe_of_leaves ⟨trivial, ?_⟩
    intro now
    exact ⟨trivial, fun _ => trivial⟩
  | cons devType types ih =>
    obtain ⟨level, down⟩ := levels devType List.mem_cons_self
    refine Contract.safe_perform_bind.mpr ?_
    intro m' others truthful _
    have known' := (unlessReset_stable (answeredUnless_lasting _)).others others known
    have later : UnlessReset family.kind i (AnsweredUnless family.kind (· = loaded))
        (m'.perform (ClientOp.exec env) i (.exchange (family.request id devType) none)) :=
      unlessReset_perform (answeredUnless_lasting _) (.inr rfl) (fun _ stored => by cases stored)
        known'
    have truthful' : Truthful family.kind
        (m'.perform (ClientOp.exec env) i (.exchange (family.request id devType) none)) :=
      truthful.perform_leaves trivial
    refine ⟨fun type stored => ?_, truthful', ?_⟩
    · cases stored
    change (levelContract ι family.kind env).Safe i (fun _ _ => True)
      (orReturn (env.answer m'.shared.asked (family.request id devType)) >>= _) _
    cases hanswer : env.answer m'.shared.asked (family.request id devType) with
    | error e => exact trivial
    | ok reply =>
      rw [orReturn_ok]
      change (levelContract ι family.kind env).Safe i (fun _ _ => True)
        (if startsWith SatelCommand.resultCode.toByte reply then _
          else if startsWith SatelCommand.readDeviceName.toByte reply then _ else _) _
      by_cases rejected : startsWith SatelCommand.resultCode.toByte reply = true
      · rw [if_pos rejected]
        exact ih (fun type mem => levels type (List.mem_cons_of_mem _ mem)) later
      rw [if_neg rejected]
      by_cases name : startsWith SatelCommand.readDeviceName.toByte reply = true
      · rw [if_pos name]
        refine takeReply_safe level down later (.inr ?_) reply
        have typed : (family.request id devType).take 2 =
            [SatelCommand.readDeviceName.toByte, devType] := rfl
        simp [Moment.perform, answeredType, answersType, hanswer, name, typed]
      · rw [if_neg name]
        exact trivial

lemma queryInternal_safe (member : family.Member idOf) :
    (levelContract ι family.kind env).Safe i (fun _ _ => True) (queryInternal family decoder id) m := by
  refine Contract.safe_perform_bind.mpr ?_
  intro m₁ _ truthful _
  refine ⟨fun type stored => ?_, Truthful.perform_leaves truthful trivial, ?_⟩
  · cases stored
  refine Contract.safe_perform_bind.mpr ?_
  intro m₂ _ truthful₂ _
  have loaded : UnlessReset family.kind i
      (AnsweredUnless family.kind (· = (m₂.shared.session family.kind).type))
      (m₂.perform (ClientOp.exec env) i (.loadType family.kind)) := .inr (.inl rfl)
  refine ⟨fun type stored => ?_, Truthful.perform_leaves truthful₂ trivial, ?_⟩
  · cases stored
  refine Contract.safe_perform_bind.mpr ?_
  intro m₃ others truthful₃ _
  have loaded₃ := (unlessReset_stable (answeredUnless_lasting _)).others others loaded
  have loaded₄ : UnlessReset family.kind i
      (AnsweredUnless family.kind (· = (m₂.shared.session family.kind).type))
      (m₃.perform (ClientOp.exec env) i (.loadConfirmed family.kind)) :=
    unlessReset_perform (answeredUnless_lasting _) (.inr rfl) (fun _ stored => by cases stored)
      loaded₃
  refine ⟨fun type stored => ?_, Truthful.perform_leaves truthful₃ trivial, ?_⟩
  · cases stored
  exact tryTypes_safe (fun type mem => member.mem_typesToTry truthful₂.level mem) loaded₄

/-- A query of another kind does not touch the level. -/
lemma tryTypes_leaves {kind : ItemKind} (other : family.kind ≠ kind) (loaded : UInt8)
    (types : List UInt8) :
    (tryTypes family decoder id loaded types).Only (LeavesLevel kind) := by
  induction types with
  | nil => exact ⟨trivial, fun now => ⟨trivial, fun _ => trivial⟩⟩
  | cons devType types ih =>
    refine ⟨trivial, ?_⟩
    intro answer
    apply (only_orReturn _).bind
    intro reply
    have taken : (takeReply family decoder loaded devType reply).Only (LeavesLevel kind) := by
      have rest := @parse_only _ family decoder (LeavesLevel kind) trivial (fun _ => trivial) reply
      by_cases lower : devType < loaded
      · simp only [takeReply, lower, if_true]
        exact ⟨other, fun _ => ⟨other, fun _ => rest⟩⟩
      · simp only [takeReply, lower, if_false]
        exact ⟨other, fun _ => rest⟩
    simp [ih, taken]

lemma queryInternal_starts {kind : ItemKind} (member : family.Member idOf) :
    (levelContract ι kind env).Starts
      (do let _ ← queryInternal family decoder id : ClientCall Unit) := by
  intro i m _
  by_cases same : family.kind = kind
  · subst same
    exact (queryInternal_safe member).andThen fun _ _ => trivial
  · refine (safe_of_leaves ?_).andThen fun _ _ => trivial
    exact ⟨trivial, fun _ => ⟨trivial, fun _ => ⟨trivial, fun _ => tryTypes_leaves same _ _⟩⟩⟩

/-- All operations of a reload: those that leave the level, and resets to a type of the kind they
are about. -/
def ReloadOp : ClientOp → Prop
  | .storeType _ _ | .storeConfirmed _ => False
  | .resetType k type => type ∈ k.types
  | _ => True

lemma Truthful.perform_reload {kind : ItemKind} {op : ClientOp} (h : Truthful kind m)
    (reload : ReloadOp op) (permitted : NoStaleLevel kind m i op) :
    Truthful kind (m.perform (ClientOp.exec env) i op) := by
  cases op with
  | resetType k type =>
    by_cases same : k = kind
    · subst same
      refine ⟨?_, ?_⟩
      · have stored : ((m.perform (ClientOp.exec env) i (.resetType k type)).shared.session k).type =
            type := by simp [Moment.perform, ClientOp.exec, ClientWorld.setType]
        rw [stored]
        exact reload
      · intro confirmed
        simp only [Moment.perform, ClientOp.exec, ClientWorld.setType, ClientWorld.session_setLevel,
          Function.update_self] at confirmed ⊢
        exact @answeredType_perform ι k env i m (.resetType k type) type rfl (permitted rfl confirmed)
    · exact h.perform_leaves same
  | resetConfirmed k =>
    by_cases same : k = kind
    · subst same
      refine ⟨?_, ?_⟩
      · simpa [Moment.perform, ClientOp.exec, ClientWorld.setConfirmed] using h.level
      · intro confirmed
        simp [Moment.perform, ClientOp.exec, ClientWorld.setConfirmed] at confirmed
    · exact h.perform_leaves same
  | storeType k type | storeConfirmed k => exact reload.elim
  | _ => exact h.perform_leaves trivial

lemma topType_mem (kind : ItemKind) (extended : Bool) : kind.topType extended ∈ kind.types := by
  cases kind <;> cases extended <;> decide

lemma resetLevels_only (extended : Bool) :
    (resetLevels extended).Only ReloadOp := by
  simp [resetLevels, ReloadOp, topType_mem]

lemma hotReloadConfig_only (newConfig : Config) :
    (hotReloadConfig newConfig).Only ReloadOp := by
  apply (only_orReturn _).bind
  intro _
  rw [CallTree.only_perform_bind]
  refine ⟨trivial, ?_⟩
  intro old
  have sent : (send .configUpdated).Only ReloadOp := ⟨trivial, fun _ => trivial⟩
  have reset (extended : Bool) :
      (resetLevels extended >>= fun _ => send .configUpdated).Only ReloadOp :=
    (resetLevels_only extended).bind fun _ => sent
  simp [sent, reset, ReloadOp]

lemma hotReloadConfig_starts (kind : ItemKind) (newConfig : Config) :
    (levelContract ι kind env).Starts (hotReloadConfig newConfig) := by
  intro i m _
  refine Contract.safe_of_only ?_ (hotReloadConfig_only newConfig)
  intro m op reload truthful permitted
  refine ⟨?_, truthful.perform_reload reload permitted⟩
  rintro type rfl
  exact reload.elim

end Calls

/-- In every state reached by runs in which no reload replaces the type of a confirmed level by one
that was not answered, and no query stores a level after a reset it has not seen, a confirmed type
is one the panel has answered since the flags were last reset. -/
theorem confirmed_type_answered [DecidableEq ι] (env : Surroundings) (config : Config)
    (now : LocalTime) (kind : ItemKind) {p : ClientPool ι}
    (run : p.Reachable (ClientOp.exec env) LevelCall (NoStaleLevel kind) (.new config now))
    (confirmed : (p.moment.shared.session kind).confirmed = true) :
    answeredType kind (p.moment.shared.session kind).type p.moment.trace = true := by
  have first : Truthful kind (⟨.new config now, []⟩ : ClientMoment ι) := by
    refine ⟨topType_mem kind _, ?_⟩
    intro confirmed
    cases confirmed
  have truthful := Contract.invariant (C := levelContract ι kind env) ?_ first run
  · exact truthful.answered confirmed
  · intro c call
    cases call with
    | zone decoder id => exact queryInternal_starts .zone
    | output decoder id => exact queryInternal_starts .output
    | partition decoder id => exact queryInternal_starts .partition
    | reload newConfig => exact hotReloadConfig_starts kind newConfig

instance [DecidableEq ι] (kind : ItemKind) (m : ClientMoment ι) (i : ι) (op : ClientOp) :
    Decidable (NoStaleLevel kind m i op) := by
  cases op <;> unfold NoStaleLevel <;> infer_instance

/-- A panel that answers a query of zone 7, with or without the partition. -/
def zone7Panel : Surroundings where
  answer _ request := .ok ([0xEE, request.getD 1 5, 7, 0, 72, 97, 108, 108] ++
    List.replicate 12 32 ++ if request.getD 1 5 = 5 then [1] else [])
  connected _ := .ok ()
  now _ := ⟨0, Nat.zero_le _⟩

/-- One task has called a query of zone 7, another may reload the configuration. -/
def zone7Query : ClientPool Bool :=
  (Pool.idle (.new {} ⟨0, Nat.zero_le _⟩)).put false
    (do let _ ← queryZoneInternal (fun _ => ([], false)) 7) ⟨.new {} ⟨0, Nat.zero_le _⟩, []⟩

/-- A reload resets the types while the query has not loaded its level, and the query confirms the
type it then asks for. -/
theorem confirmed_type_answered_zone_7 :
    ∃ p : ClientPool Bool,
      p.Reachable (ClientOp.exec zone7Panel) LevelCall (NoStaleLevel .zone)
        (.new {} ⟨0, Nat.zero_le _⟩) ∧
      p.moment.shared.session .zone = ⟨1, true⟩ ∧
      answeredType .zone (p.moment.shared.session .zone).type p.moment.trace = true := by
  have query : zone7Query.Reachable (ClientOp.exec zone7Panel) LevelCall (NoStaleLevel .zone)
      (.new {} ⟨0, Nat.zero_le _⟩) := Pool.Reachable.start .refl false _ (.zone _ 7) rfl
  have loading := query.turns [false] (by decide)
  have both := loading.start true _ (.reload { extendedNameRead := false }) rfl
  -- the swap and the six stores, then type, flag, answer and store of the query
  have reloaded := both.turns (List.replicate 7 true) (by decide)
  have stored := reloaded.turns (List.replicate 4 false) (by decide)
  refine ⟨_, stored, by decide, ?_⟩
  exact confirmed_type_answered zone7Panel {} ⟨0, Nat.zero_le _⟩ .zone stored (by decide)

/-- The answer with type 5 comes before a reload resets the type to 1, the store of the flag after it:
type 1 is confirmed, and was never asked for. -/
theorem reload_confirms_unanswered_type :
    ∃ p : ClientPool Bool,
      p.Reachable (ClientOp.exec zone7Panel) LevelCall (fun _ _ _ => True)
        (.new {} ⟨0, Nat.zero_le _⟩) ∧
      p.moment.shared.session .zone = ⟨1, true⟩ ∧
      answeredType .zone 1 p.moment.trace = false := by
  have query : zone7Query.Reachable (ClientOp.exec zone7Panel) LevelCall (fun _ _ _ => True)
      (.new {} ⟨0, Nat.zero_le _⟩) := Pool.Reachable.start .refl false _ (.zone _ 7) rfl
  have both := query.start true _ (.reload { extendedNameRead := false }) rfl
  -- configuration, type, flag and answer, then the swap and the six stores
  have answered := both.turns (List.replicate 4 false) (by decide)
  have reloaded := answered.turns (List.replicate 7 true) (by decide)
  have confirmed := reloaded.turns [false] (by decide)
  exact ⟨_, confirmed, by decide, by decide⟩

end SatelIntegra
