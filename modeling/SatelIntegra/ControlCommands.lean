import SatelIntegra.Client
import SatelIntegra.UserCodes

/-!
# Control commands

Arming, disarming, clearing an alarm and switching an output are one pattern: the
number is checked, the user's code resolved, and a request sent that names the user
and the object. They differ in the command, in the numbers they take and in the
width of the mask.
-/

namespace SatelIntegra

open CheckedAccess AtomicCalls

namespace ClientCall

def resolveCode (code : Option String) : ClientCall String :=
  match code with
  | some code => pure code
  | none => do
    match (← readConfig).userCode with
    | some code => pure code
    | none => throw (.returned .invalidUserCode)

/-- Evaluates the `0xEF` frame that the panel answers with. -/
def handleResultCode (response : Frame) : ClientCall Unit := do
  if response.isEmpty then throw (.returned .invalidFrame)
  if (← orPanic (index response 0)) != SatelCommand.resultCode.toByte then
    throw (.returned .invalidFrame)
  match (response[1]?).getD 0xFF with
  | 0x00 => return ()
  | 0x01 => throw (.returned .invalidUserCode)
  | 0x02 => throw (.returned .noAccess)
  | 0x11 | 0x12 => throw (.returned .canNotArm)
  | 0xFF => return ()
  | code => throw (.returned (.integraResultError code))

/-- The common body: numbers `1..=limit`, a mask of `maskLen` bytes. -/
def control (limit : UInt16) (maskLen : Nat) (command : SatelCommand) (id : UInt16)
    (code : Option String) : ClientCall Unit := do
  if ¬ (1 ≤ id ∧ id ≤ limit) then throw (.returned .noAccess)
  let resolvedCode ← resolveCode code
  let codeBytes ← orPanic (formatUserCode resolvedCode)
  let mask ← orPanic (objectMask maskLen id)
  let response ← orReturn (← exchange (command.toByte :: codeBytes ++ mask) none)
  handleResultCode response

def armCommand (mode : UInt8) (force : Bool) : SatelCommand :=
  if force then
    match mode with
    | 1 => .forceArmMode1
    | 2 => .forceArmMode2
    | 3 => .forceArmMode3
    | _ => .forceArmMode0
  else
    match mode with
    | 1 => .armMode1
    | 2 => .armMode2
    | 3 => .armMode3
    | _ => .armMode0

def arm (partitionId : UInt16) (mode : UInt8) (force : Bool) (code : Option String) :
    ClientCall Unit :=
  control 32 4 (armCommand mode force) partitionId code

def disarm : UInt16 → Option String → ClientCall Unit := control 32 4 .disarm

def clearAlarm : UInt16 → Option String → ClientCall Unit := control 32 4 .clearAlarm

def setOutputToggle : UInt16 → Option String → ClientCall Unit := control 256 32 .outputsSwitch

def setOutput (outputId : UInt16) (state : Bool) (code : Option String) : ClientCall Unit :=
  control 256 32 (if state then .outputsOn else .outputsOff) outputId code

end ClientCall

inductive ControlCommand where
  | arm (mode : UInt8) (force : Bool)
  | disarm
  | clearAlarm
  | setOutput (state : Bool)
  | setOutputToggle

namespace ControlCommand

def call : ControlCommand → UInt16 → Option String → ClientCall Unit
  | arm mode force, id, code => ClientCall.arm id mode force code
  | disarm, id, code => ClientCall.disarm id code
  | clearAlarm, id, code => ClientCall.clearAlarm id code
  | setOutput state, id, code => ClientCall.setOutput id state code
  | setOutputToggle, id, code => ClientCall.setOutputToggle id code

def command : ControlCommand → SatelCommand
  | arm mode force => ClientCall.armCommand mode force
  | disarm => .disarm
  | clearAlarm => .clearAlarm
  | setOutput state => if state then .outputsOn else .outputsOff
  | setOutputToggle => .outputsSwitch

def ofOutput : ControlCommand → Bool
  | setOutput _ | setOutputToggle => true
  | _ => false

def limit (c : ControlCommand) : UInt16 := if c.ofOutput then 256 else 32

def maskLen (c : ControlCommand) : Nat := if c.ofOutput then 32 else 4

/-- How a reply of the panel numbers the objects of the command. -/
def decodeMask (c : ControlCommand) : Frame → List Bool :=
  if c.ofOutput then parseOutputBits else parsePartitionBits

lemma call_eq (c : ControlCommand) (id : UInt16) (code : Option String) :
    c.call id code = ClientCall.control c.limit c.maskLen c.command id code := by
  cases c <;> rfl

lemma limit_le (c : ControlCommand) : c.limit.toNat ≤ 8 * c.maskLen := by
  unfold limit maskLen
  cases c.ofOutput <;> decide

lemma decodeMask_eq (c : ControlCommand) {mask : Frame} (len : mask.length = c.maskLen) :
    c.decodeMask mask = (List.range (8 * c.maskLen)).map (maskBit mask) := by
  unfold decodeMask maskLen at *
  cases hc : c.ofOutput with
  | true =>
    rw [hc, if_pos rfl] at len
    rw [if_pos rfl, if_pos rfl, parseOutputBits, flatMap_byteBits, len]
  | false =>
    have whole : mask.take 4 = mask := List.take_of_length_le (by rw [len, hc]; rfl)
    rw [hc, if_neg (by decide)] at len
    rw [if_neg (by decide), if_neg (by decide), parsePartitionBits, whole, flatMap_byteBits, len]

section Requests
variable (env : Surroundings) (w : ClientWorld) (c : ControlCommand) (id : UInt16)
  (code : Option String)

lemma run_resolveCode {α : Type} {text : String} (given : code.or w.config.userCode = some text)
    (next : String → ClientCall α) :
    (ClientCall.resolveCode code >>= next).run (ClientOp.exec env) w =
      (next text).run (ClientOp.exec env) w := by
  cases code with
  | some code =>
    cases given
    rfl
  | none =>
    have configured : w.config.userCode = some text := given
    have resolved : (ClientCall.resolveCode none).run (ClientOp.exec env) w = (.ok text, w) := by
      simp [ClientCall.resolveCode, configured]
    rw [CallTree.run_bind_ok resolved]

/-- Reading the answer changes nothing. -/
lemma run_handleResultCode (response : Frame) :
    ((ClientCall.handleResultCode response).run (ClientOp.exec env) w).2 = w := by
  rcases response with _ | ⟨first, rest⟩
  · rfl
  by_cases other : first = SatelCommand.resultCode.toByte
  · simp only [ClientCall.handleResultCode, List.isEmpty_cons, Bool.false_eq_true, if_false,
      index_cons_zero, ClientCall.orPanic_ok, other]
    split <;> rfl
  · have differs : (first != SatelCommand.resultCode.toByte) = true := by simp [other]
    simp only [ClientCall.handleResultCode, List.isEmpty_cons, Bool.false_eq_true, if_false,
      index_cons_zero, ClientCall.orPanic_ok, CallTree.run_pure_bind, differs, if_true]
    rfl

lemma run_control {limit : UInt16} {maskLen : Nat} {command : SatelCommand} {text : String}
    {codeBytes mask : List UInt8} (given : code.or w.config.userCode = some text)
    (inside : 1 ≤ id ∧ id ≤ limit) (packed : formatUserCode text = .ok codeBytes)
    (masked : objectMask maskLen id = .ok mask) :
    ((ClientCall.control limit maskLen command id code).run (ClientOp.exec env) w).2 =
      w.ask (command.toByte :: codeBytes ++ mask) := by
  rw [ClientCall.control, if_neg (not_not.mpr inside)]
  refine Eq.trans (congrArg Prod.snd (run_resolveCode env w code given _)) ?_
  simp only [packed, masked, ClientCall.orPanic_ok, CallTree.run_pure_bind,
    CallTree.run_perform_bind, ClientOp.exec_exchange]
  cases env.answer w.asked (command.toByte :: codeBytes ++ mask) with
  | error e => rfl
  | ok response =>
    simp only [ClientCall.orReturn_ok, CallTree.run_pure_bind]
    exact run_handleResultCode env _ response

/-- A control command names the user and the object asked for: the first sixteen digits of the
code and then `F`, and the bit of the object alone. For any other number nothing is sent. -/
theorem control_names_user_and_object :
    (¬ (1 ≤ id ∧ id ≤ c.limit) →
      (c.call id code).run (ClientOp.exec env) w = (.error (.returned .noAccess), w)) ∧
    (1 ≤ id ∧ id ≤ c.limit → ∀ text, code.or w.config.userCode = some text →
      ∃ codeBytes mask, formatUserCode text = .ok codeBytes ∧ objectMask c.maskLen id = .ok mask ∧
        ((c.call id code).run (ClientOp.exec env) w).2.asked =
          w.asked ++ [c.command.toByte :: codeBytes ++ mask] ∧
        codeBytes.length = 8 ∧ mask.length = c.maskLen ∧
        nibbles codeBytes = (codeDigits text).take 16 ++
          List.replicate (16 - (codeDigits text).length) 0x0F ∧
        ∀ i, (c.decodeMask mask)[i]? = some true ↔ i = id.toNat - 1) := by
  constructor
  · intro outside
    rw [call_eq, ClientCall.control, if_pos outside]
    rfl
  · intro inside text given
    have low : 1 ≤ id.toNat := UInt16.le_iff_toNat_le.mp inside.1
    have fits : id.toNat ≤ 8 * c.maskLen :=
      Nat.le_trans (UInt16.le_iff_toNat_le.mp inside.2) c.limit_le
    obtain ⟨codeBytes, packed, length, spelled⟩ := formatUserCode_eq text
    obtain ⟨mask, masked, len, bits⟩ := objectMask_eq inside.1 fits
    refine ⟨codeBytes, mask, packed, masked, ?_, length, len, spelled, ?_⟩
    · rw [call_eq, run_control env w id code given inside packed masked]
      rfl
    · intro i
      rw [c.decodeMask_eq len, List.getElem?_map]
      by_cases hi : i < 8 * c.maskLen
      · rw [List.getElem?_range hi, Option.map_some, Option.some.injEq]
        exact bits i hi
      · rw [List.getElem?_eq_none (by simpa using hi)]
        constructor
        · rintro ⟨⟩
        · intro here
          omega

end Requests
end ControlCommand
end SatelIntegra
