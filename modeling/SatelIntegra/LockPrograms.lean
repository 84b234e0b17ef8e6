import SatelIntegra.RwLocks

/-!
# The locks behind `config` and `state`

The sequence in which each call takes and releases the two locks. An update routine
holds `state` and reads `config` for the elements it does not report anyway, so the
level of `state` is below that of `config`. The handler of an unsolicited zone frame
goes the other way: its `if let` keeps the guard of `config` while the update routine
takes `state` and reads `config` again.
-/

namespace SatelIntegra

open RwLocks

inductive SharedLock where
  | config
  | state
  deriving DecidableEq, Repr

namespace SharedLock

def level : SharedLock → Nat
  | .state => 0
  | .config => 1

lemma level_le (l : SharedLock) : l.level ≤ 1 := by
  cases l <;> decide

end SharedLock

abbrev LockOps := List (Op SharedLock)

/-- `self.config.read().unwrap()` as a temporary, `count` times. -/
def configReads (count : Nat) : LockOps :=
  (List.replicate count (withGuard .read SharedLock.config [])).flatten

/-- `reads` counts the elements with `emit_all || is_initial || changed` false. -/
def updateInternalLocks (reads : Nat) : LockOps :=
  withGuard .write SharedLock.state (configReads reads)

/-- The calls, with what decides which locks they take. -/
inductive Call where
  /-- `accepted`: the parser returns `Ok`. -/
  | handleAutoZoneFrame (accepted : Bool) (reads : Nat)
  /-- `zones`: the category has an inversion list in `config`. -/
  | getOrRefresh (zones accepted : Bool) (reads : Nat)
  | updateInternal (reads : Nat)
  | setStateConnected
  | hotReloadConfig (valid : Bool)
  | reloadConfig (valid reconnects connectable : Bool)
  deriving DecidableEq, Repr

namespace Call

def locks : Call → LockOps
  | .handleAutoZoneFrame accepted reads =>
    -- the guard in the scrutinee lives through the block of `if let`
    withGuard .read .config (if accepted then updateInternalLocks reads else [])
  | .getOrRefresh zones accepted reads =>
    configReads 1 ++ (if zones then configReads 1 else []) ++
      (if accepted then updateInternalLocks reads else [])
  | .updateInternal reads => updateInternalLocks reads
  | .setStateConnected => updateInternalLocks 1
  | .hotReloadConfig valid => if valid then withGuard .write .config [] else []
  | .reloadConfig valid reconnects connectable =>
    if valid then
      withGuard .write .config [] ++ withGuard .read .state [] ++
        (if reconnects then configReads 1 ++ (if connectable then configReads 1 else []) else [])
    else []

/-- The guard of `config` is still held when another lock is taken. -/
def keepsConfig : Call → Bool
  | .handleAutoZoneFrame accepted _ => accepted
  | _ => false

def writesConfig : Call → Bool
  | .hotReloadConfig valid => valid
  | .reloadConfig valid _ _ => valid
  | _ => false

end Call

abbrev taskLocks (calls : List Call) : LockOps := calls.flatMap Call.locks

section Rules
variable {rule : List (Guard SharedLock) → Guard SharedLock → Prop}
  {held : List (Guard SharedLock)}

lemma fits_configReads {count : Nat} (read : rule held ⟨.read, .config⟩) :
    Fits rule held (configReads count) := by
  refine fits_flatten fun ops hops => ?_
  obtain rfl := List.eq_of_mem_replicate hops
  exact fits_withGuard read fits_nil

lemma fits_updateInternalLocks {reads : Nat} (write : rule held ⟨.write, .state⟩)
    (read : rule (⟨.write, .state⟩ :: held) ⟨.read, .config⟩) :
    Fits rule held (updateInternalLocks reads) :=
  fits_withGuard write (fits_configReads read)

/-- What a rule has to allow for a call to keep to it. -/
structure Allows (rule : List (Guard SharedLock) → Guard SharedLock → Prop) (call : Call) :
    Prop where
  readConfig : rule [] ⟨.read, .config⟩
  takeState : ∀ mode, rule [] ⟨mode, .state⟩
  readUnderState : rule [⟨.write, .state⟩] ⟨.read, .config⟩
  writeConfig : call.writesConfig = true → rule [] ⟨.write, .config⟩
  stateUnderConfig : call.keepsConfig = true → rule [⟨.read, .config⟩] ⟨.write, .state⟩
  readAgain : call.keepsConfig = true →
    rule [⟨.write, .state⟩, ⟨.read, .config⟩] ⟨.read, .config⟩

lemma Allows.fits {call : Call} (h : Allows rule call) : Fits rule [] call.locks := by
  have update (reads : Nat) : Fits rule [] (updateInternalLocks reads) :=
    fits_updateInternalLocks (h.takeState .write) h.readUnderState
  have read : Fits rule [] (configReads 1) := fits_configReads h.readConfig
  cases call with
  | handleAutoZoneFrame accepted reads =>
    refine fits_withGuard h.readConfig (Fits.ite (fun kept => ?_) fits_nil)
    exact fits_updateInternalLocks (h.stateUnderConfig kept) (h.readAgain kept)
  | getOrRefresh zones accepted reads =>
    refine (read.append (Fits.ite (fun _ => read) fits_nil)).append ?_
    exact Fits.ite (fun _ => update reads) fits_nil
  | updateInternal reads => exact update reads
  | setStateConnected => exact update 1
  | hotReloadConfig valid =>
    exact Fits.ite (fun writes => fits_withGuard (h.writeConfig writes) fits_nil) fits_nil
  | reloadConfig valid reconnects connectable =>
    refine Fits.ite (fun writes => ?_) fits_nil
    refine ((fits_withGuard (h.writeConfig writes) fits_nil).append
      (fits_withGuard (h.takeState .read) fits_nil)).append ?_
    exact Fits.ite (fun _ => read.append (Fits.ite (fun _ => read) fits_nil)) fits_nil

end Rules

inductive Party where
  | autoRequester
  | client
  deriving DecidableEq, Repr

def reloadDuringFrame : Party → List Call
  | .autoRequester => [.handleAutoZoneFrame true 1]
  | .client => [.hotReloadConfig true]

section Runs
variable {ι : Type}

def start (calls : ι → List Call) : System ι SharedLock :=
  fun t => ⟨[], false, taskLocks (calls t)⟩

lemma start_disciplined {rule : List (Guard SharedLock) → Guard SharedLock → Prop}
    {calls : ι → List Call} (h : ∀ t, ∀ call ∈ calls t, Allows rule call) :
    Disciplined rule (start calls) := by
  intro t
  refine Fits.follows (fits_flatten fun ops hops => ?_)
  obtain ⟨call, hcall, rfl⟩ := List.mem_map.mp hops
  exact (h t call hcall).fits

lemma allows_rises (call : Call) : Allows (Rises SharedLock.level .config) call where
  readConfig := nofun
  takeState _ := nofun
  readUnderState := by simp [Rises, SharedLock.level]
  writeConfig _ := nofun
  stateUnderConfig _ := by simp [Rises]
  readAgain _ := by simp [Rises, SharedLock.level]

variable [DecidableEq ι]

lemma run_disciplined {rule : List (Guard SharedLock) → Guard SharedLock → Prop}
    {allowed : System ι SharedLock → Action ι → Prop} {calls : ι → List Call}
    {s : System ι SharedLock} (run : Run allowed (start calls) s)
    (h : ∀ t, ∀ call ∈ calls t, Allows rule call) : Disciplined rule s :=
  run.invariant (P := Disciplined rule) (start_disciplined h) fun _ _ _ h _ step => h.step step

/-- No deadlock, as long as writers of `config` keep apart from the tasks that hold a guard of
it across another acquisition. -/
theorem apart_not_deadlocked (calls : ι → List Call) {s : System ι SharedLock}
    (run : Run (KeepsApart .config) (start calls) s) (D : Set ι) : ¬ Deadlocked s D := by
  have apart : Apart .config s := by
    refine run.invariant (P := Apart .config) ?_ fun _ _ _ apart ok step => apart.step ok step
    intro t u hwants
    cases hwants
  exact not_deadlocked 1 SharedLock.level_le (run_disciplined run fun _ call _ => allows_rises call)
    apart D

/-- The same two calls, with the reload before the handler starts. -/
theorem reload_before_frame : ∃ s, Run (KeepsApart .config) (start reloadDuringFrame) s ∧
    (s .client).held = [⟨.write, .config⟩] ∧ (s .autoRequester).waiting = true ∧
    ∀ D, ¬ Deadlocked s D := by
  have idle : Run (KeepsApart .config) (start reloadDuringFrame) (start reloadDuringFrame) := .refl
  have called := idle.step (a := .call .client) (by intro _ _ u; cases u <;> nofun)
    (.call rfl rfl)
  have taken := called.step (a := .take .client) (by intro _ _ h across; cases h; exact across.elim)
    (.take rfl rfl (by intro t; cases t <;> nofun))
  have blocked := taken.step (a := .call .autoRequester) (by rintro _ h; cases h)
    (.call rfl rfl)
  exact ⟨_, blocked, rfl, rfl, fun D => apart_not_deadlocked reloadDuringFrame blocked D⟩

/-- Either kind of call alone cannot deadlock. -/
theorem run_not_deadlocked {calls : ι → List Call} {s : System ι SharedLock}
    (run : Run (fun _ _ => True) (start calls) s)
    (h : (∀ t, ∀ call ∈ calls t, call.keepsConfig = false) ∨
      ∀ t, ∀ call ∈ calls t, call.writesConfig = false) (D : Set ι) : ¬ Deadlocked s D := by
  have apart : Apart .config s := by
    rcases h with keeps | writes
    · refine apart_of_releases (run_disciplined run fun t call hcall => ?_)
      have never := keeps t call hcall
      constructor <;> simp [never]
    · refine apart_of_no_writer (run_disciplined run fun t call hcall => ?_)
      have never := writes t call hcall
      constructor <;> simp [never]
  exact not_deadlocked 1 SharedLock.level_le (run_disciplined run fun _ call _ => allows_rises call)
    apart D

/-- The handler holds `config` and reads it again behind the writer that waits for it. -/
def upgrade : System Party SharedLock
  | .autoRequester =>
    ⟨[⟨.write, .state⟩, ⟨.read, .config⟩], true,
      [.lock ⟨.read, .config⟩, .unlock, .unlock, .unlock]⟩
  | .client => ⟨[], true, [.lock ⟨.write, .config⟩, .unlock]⟩

lemma upgrade_reached : Run WritersFirst (start reloadDuringFrame) upgrade := by
  have idle : Run WritersFirst (start reloadDuringFrame) (start reloadDuringFrame) := .refl
  have read := idle.step (a := .call .autoRequester) trivial (.call rfl rfl)
  have frame := read.step (a := .take .autoRequester) (by intro l _ u h; cases u <;> cases h)
    (.take rfl rfl (by intro t; cases t <;> nofun))
  have update := frame.step (a := .call .autoRequester) trivial (.call rfl rfl)
  have state := update.step (a := .take .autoRequester) (by intro l h; cases h)
    (.take rfl rfl (by intro t; cases t <;> decide))
  have reload := state.step (a := .call .client) trivial (.call rfl rfl)
  have again := reload.step (a := .call .autoRequester) trivial (.call rfl rfl)
  convert again using 1
  funext t
  cases t <;> rfl

lemma upgrade_deadlocked : Deadlocked upgrade Set.univ := by
  refine ⟨⟨.client, trivial⟩, ?_⟩
  rintro (_ | _) -
  · exact ⟨.client, trivial, ⟨.read, .config⟩, rfl, Or.inr ⟨rfl, rfl⟩⟩
  · refine ⟨.autoRequester, trivial, ⟨.write, .config⟩, rfl, Or.inl ?_⟩
    exact ⟨⟨.read, .config⟩, by decide, by decide⟩

theorem reload_deadlocks : ∃ s, Run WritersFirst (start reloadDuringFrame) s ∧
    Deadlocked s Set.univ ∧ ∀ s', Run WritersFirst s s' → Deadlocked s' Set.univ :=
  ⟨upgrade, upgrade_reached, upgrade_deadlocked, fun _ run => upgrade_deadlocked.forever run⟩

end Runs

end SatelIntegra
