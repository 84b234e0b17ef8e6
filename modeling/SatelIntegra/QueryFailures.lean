import SatelIntegra.QueryRuns

/-!
# What a failed query or connection leaves behind

A query stores the level of the session when it recognises a reply, before the parser
has accepted it, and `connect` resets all levels before it knows whether it may
connect. So each leaves the levels alone exactly where it has nothing to change.
-/

namespace SatelIntegra

open CheckedAccess AtomicCalls ClientCall

/-- A failed query leaves the level of its category as it was. -/
def FailedQueryKeepsLevel {π : Type} (family : QueryFamily π) (env : Surroundings)
    (decoder : NameDecoder) (id : UInt16) (w : ClientWorld) : Prop :=
  let result := (queryInternal family decoder id).run (ClientOp.exec env) w
  ∀ e, result.1 = .error e → result.2.session family.kind = w.session family.kind

/-- The first answer that is not a rejection begins with `EE`, but its parser refuses it, and the
type it answers is below the level of the session, or that level not yet confirmed. -/
def RefusedReplyRaisesLevel {π : Type} (family : QueryFamily π) (env : Surroundings)
    (id : UInt16) (w : ClientWorld) : Prop :=
  let level := w.session family.kind
  let types := family.typesToTry w.config.extendedNameRead level.type level.confirmed
  ∃ devType reply, (firstAnswer env.answer (family.request id) w.asked types).1 =
      some (devType, .ok reply) ∧
    startsWith SatelCommand.readDeviceName.toByte reply = true ∧
    objectNumber family.kind reply = none ∧ (devType < level.type ∨ level.confirmed = false)

/-- A reply to a type of the level or above leaves a confirmed level alone, and only then. -/
lemma SessionLevel.confirm_eq_iff {devType : UInt8} {level : SessionLevel} :
    level.confirm level.type devType = level ↔ ¬ (devType < level.type ∨ level.confirmed = false) := by
  rcases level with ⟨type, confirmed⟩
  by_cases lower : devType < type
  · have ne : devType ≠ type := UInt8.ne_of_lt lower
    simp [confirm, lower, ne]
  · simp [confirm, lower, eq_comm]

theorem failedQueryKeepsLevel_iff {π : Type} {family : QueryFamily π} {idOf : π → UInt16}
    (member : family.Member idOf) (env : Surroundings) (decoder : NameDecoder) (id : UInt16)
    (w : ClientWorld) :
    FailedQueryKeepsLevel family env decoder id w ↔ ¬ RefusedReplyRaisesLevel family env id w := by
  simp only [FailedQueryKeepsLevel, RefusedReplyRaisesLevel, run_queryInternal]
  generalize firstAnswer env.answer (family.request id) w.asked
    (family.typesToTry w.config.extendedNameRead (w.session family.kind).type
      (w.session family.kind).confirmed) = outcome
  rcases outcome with ⟨_ | ⟨devType, e | reply⟩, asked⟩
  · -- all types were rejected: the query succeeds
    simp [settle, tryTypes]
  · -- an error came instead: nothing was stored
    simp [settle]
  · by_cases name : startsWith SatelCommand.readDeviceName.toByte reply = true
    · simp only [settle, name, if_true]
      rcases run_takeReply (w := { w with asked := asked }) member (w.session family.kind).type
        devType reply with ⟨n, number, p, params, -, -, result⟩ | ⟨number, result⟩
      · rw [result]
        simp [number]
      · rw [result]
        simp [number, name, SessionLevel.confirm_eq_iff]
    · simp [settle, name]

/-! ### `connect` -/

def resetSession (extended : Bool) : ItemKind → SessionLevel :=
  fun kind => ⟨kind.topType extended, false⟩

lemma run_resetLevels {α : Type} {env : Surroundings} {w : ClientWorld} (extended : Bool)
    (next : Unit → ClientCall α) :
    (resetLevels extended >>= next).run (ClientOp.exec env) w =
      (next ()).run (ClientOp.exec env) { w with session := resetSession extended } := by
  have levels (kind : ItemKind) :
      (((((((w.setType .zone (ItemKind.topType .zone extended)).setType .output
        (ItemKind.topType .output extended)).setType .partition
          (ItemKind.topType .partition extended)).setConfirmed .zone false).setConfirmed .output
            false).setConfirmed .partition false)).session kind = resetSession extended kind := by
    cases kind <;> rfl
  rw [← funext levels]
  rfl

/-- A call of `connect` refused because there is a connection leaves all levels as they were. -/
def RefusedConnectKeepsLevels (env : Surroundings) (w : ClientWorld) : Prop :=
  let result := connect.run (ClientOp.exec env) w
  result.1 = .error (.returned .alreadyConnected) → result.2.session = w.session

/-- The call gets as far as the worker, which refuses it, and some level is not at its top. -/
def ConnectResetsBeforeRefusal (env : Surroundings) (w : ClientWorld) : Prop :=
  w.config.validate = .ok () ∧ env.connected w.asked = .error .alreadyConnected ∧
    w.session ≠ resetSession w.config.extendedNameRead

lemma refusedConnectKeepsLevels_iff (env : Surroundings) (w : ClientWorld) :
    RefusedConnectKeepsLevels env w ↔ ¬ ConnectResetsBeforeRefusal env w := by
  simp only [RefusedConnectKeepsLevels, ConnectResetsBeforeRefusal, connect,
    CallTree.run_perform_bind, ClientOp.exec_readConfig]
  cases valid : w.config.validate with
  | error e =>
    simp
  | ok _ =>
    simp only [orReturn_ok, CallTree.run_pure_bind, CallTree.run_perform_bind, ClientOp.exec_readConfig,
      run_resetLevels]
    simp only [ClientOp.exec]
    cases connected : env.connected w.asked with
    | error e => simp [eq_comm]
    | ok _ => simp

/-- A query that fails leaves the level of its category alone, unless the reply it fails on was
enough to change it; and a refused `connect` leaves all levels alone only if they are at the top. -/
theorem failed_call_keeps_levels_iff (env : Surroundings) (decoder : NameDecoder) (id : UInt16)
    (w : ClientWorld) :
    (FailedQueryKeepsLevel zoneFamily env decoder id w ↔
        ¬ RefusedReplyRaisesLevel zoneFamily env id w) ∧
      (FailedQueryKeepsLevel outputFamily env decoder id w ↔
        ¬ RefusedReplyRaisesLevel outputFamily env id w) ∧
      (FailedQueryKeepsLevel partitionFamily env decoder id w ↔
        ¬ RefusedReplyRaisesLevel partitionFamily env id w) ∧
      (RefusedConnectKeepsLevels env w ↔ ¬ ConnectResetsBeforeRefusal env w) :=
  ⟨failedQueryKeepsLevel_iff .zone env decoder id w,
    failedQueryKeepsLevel_iff .output env decoder id w,
    failedQueryKeepsLevel_iff .partition env decoder id w, refusedConnectKeepsLevels_iff env w⟩

/-- A zone query fails on a reply cut short after its number and still confirms type 5; and a
second `connect` takes back what a query has confirmed. -/
theorem short_reply_confirms_level :
    ¬ FailedQueryKeepsLevel zoneFamily
        ⟨fun _ _ => .ok [0xEE, 5, 7], fun _ => .error .alreadyConnected, fun _ => ⟨0, Nat.zero_le _⟩⟩
        (fun _ => ([], false)) 7 (.new {} ⟨0, Nat.zero_le _⟩) ∧
      ¬ RefusedConnectKeepsLevels
        ⟨fun _ _ => .ok [0xEE, 5, 7], fun _ => .error .alreadyConnected, fun _ => ⟨0, Nat.zero_le _⟩⟩
        ((ClientWorld.new {} ⟨0, Nat.zero_le _⟩).setLevel .zone ⟨5, true⟩) := by
  constructor
  · intro keeps
    have same := keeps (.returned .invalidFrame) rfl
    cases same
  · intro keeps
    have same := congrFun (keeps rfl) .zone
    cases same

end SatelIntegra
