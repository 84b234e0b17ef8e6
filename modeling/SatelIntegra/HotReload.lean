import SatelIntegra.AutoReadTables
import SatelIntegra.QueryFailures

/-!
# Changing the configuration of a running client

A hot reload checks the configuration it is given and stores another one, which keeps
how the panel is reached. The checks fall into two parts, one about the connection and
one about the probes, so the mixture of two valid configurations is valid.
-/

namespace SatelIntegra

open CheckedAccess AtomicCalls ClientCall

/-! ### Validity of a mixture -/

lemma validate_ok_iff {c : Config} :
    c.validate = .ok () ↔ (c.encryption = true → c.validateKey = .ok ()) ∧
      Config.validateProbes [] c.temperatureProbes = .ok () := by
  rw [Config.validate]
  by_cases encryption : c.encryption = true
  · rw [if_pos encryption]
    cases key : c.validateKey with
    | error e =>
      constructor
      · intro accepted
        cases accepted
      · rintro ⟨accepted, -⟩
        cases accepted encryption
    | ok _ =>
      constructor
      · intro accepted
        exact ⟨fun _ => rfl, accepted⟩
      · exact And.right
  · rw [if_neg encryption]
    simp [encryption]

theorem validate_keepConnection {newConfig old : Config} (hnew : newConfig.validate = .ok ())
    (hold : old.validate = .ok ()) : (newConfig.keepConnection old).validate = .ok () := by
  obtain ⟨-, probes⟩ := validate_ok_iff.mp hnew
  obtain ⟨key, -⟩ := validate_ok_iff.mp hold
  exact validate_ok_iff.mpr ⟨key, probes⟩

/-! ### One reload -/

/-- What an accepted reload makes of a client. -/
structure Reloaded (w : ClientWorld) (newConfig : Config) (w' : ClientWorld) : Prop where
  valid : w'.config.validate = .ok ()
  connection : w'.config.connection = w.config.connection
  encryption : w'.config.encryption = w.config.encryption
  integrationKey : w'.config.integrationKey = w.config.integrationKey
  others : { w'.config with
    connection := newConfig.connection
    encryption := newConfig.encryption
    integrationKey := newConfig.integrationKey } = newConfig
  dirty : ∀ support14ByteMask, w'.autoReadDirty = true ↔ w.autoReadDirty = true ∨
    SatelConnectionWorker.connectBuildPushMask w.config support14ByteMask ≠
      SatelConnectionWorker.connectBuildPushMask w'.config support14ByteMask
  session : w'.session =
    if w.config.extendedNameRead ≠ w'.config.extendedNameRead then
      resetSession w'.config.extendedNameRead
    else w.session
  events : w'.events = w.events ++ [.configUpdated]

section Reload
variable {env : Surroundings} {w : ClientWorld} {newConfig : Config}

lemma run_hotReloadConfig_refused {e : SatelError} (refused : newConfig.validate = .error e) :
    (hotReloadConfig newConfig).run (ClientOp.exec env) w = (.error (.returned e), w) := by
  rw [hotReloadConfig, refused]
  rfl

/-- The world an accepted reload leaves. -/
def reloaded (newConfig : Config) (w : ClientWorld) : ClientWorld :=
  let stored := newConfig.keepConnection w.config
  { w with
    config := stored
    autoReadDirty := w.autoReadDirty ||
      SatelConnectionWorker.connectBuildPushMask w.config true !=
        SatelConnectionWorker.connectBuildPushMask stored true
    session :=
      if w.config.extendedNameRead ≠ stored.extendedNameRead then
        resetSession stored.extendedNameRead
      else w.session
    events := w.events ++ [.configUpdated] }

lemma run_hotReloadConfig_accepted (accepted : newConfig.validate = .ok ()) :
    (hotReloadConfig newConfig).run (ClientOp.exec env) w = (.ok (), reloaded newConfig w) := by
  rw [hotReloadConfig, accepted, orReturn_ok, CallTree.run_pure_bind, CallTree.run_perform_bind]
  simp only [ClientOp.exec, reloaded]
  by_cases changed : SatelConnectionWorker.connectBuildPushMask w.config true =
      SatelConnectionWorker.connectBuildPushMask (newConfig.keepConnection w.config) true
  · by_cases extended : w.config.extendedNameRead =
        (newConfig.keepConnection w.config).extendedNameRead
    · simp only [changed, extended, bne_self_eq_false, Bool.false_eq_true, if_false, Bool.or_false,
        ne_eq, not_true_eq_false]
      rfl
    · simp only [changed, extended, bne_self_eq_false, Bool.false_eq_true, if_false, Bool.or_false,
        ne_eq, not_false_eq_true, if_true, bne_iff_ne, run_resetLevels]
      rfl
  · have differ := bne_iff_ne.mpr changed
    by_cases extended : w.config.extendedNameRead =
        (newConfig.keepConnection w.config).extendedNameRead
    · simp only [differ, extended, bne_self_eq_false, Bool.false_eq_true, if_true, if_false,
        Bool.or_true, ne_eq, not_true_eq_false]
      rfl
    · simp only [differ, extended, if_true, Bool.or_true, ne_eq, not_false_eq_true, bne_iff_ne,
        CallTree.run_perform_bind, run_resetLevels]
      rfl

lemma reloaded_reloaded (accepted : newConfig.validate = .ok ())
    (valid : w.config.validate = .ok ()) : Reloaded w newConfig (reloaded newConfig w) where
  valid := validate_keepConnection accepted valid
  connection := rfl
  encryption := rfl
  integrationKey := rfl
  others := rfl
  dirty support14ByteMask := by
    rw [connectBuildPushMask_ne_iff]
    simp [reloaded]
  session := rfl
  events := rfl

/-- The client after one reload and another. -/
def afterReloads (env : Surroundings) (w : ClientWorld) (reloads : List Config) : ClientWorld :=
  reloads.foldl (fun w newConfig => ((hotReloadConfig newConfig).run (ClientOp.exec env) w).2) w

lemma valid_reload (newConfig : Config) (valid : w.config.validate = .ok ()) :
    ((hotReloadConfig newConfig).run (ClientOp.exec env) w).2.config.validate = .ok () := by
  cases checked : newConfig.validate with
  | error e =>
    rw [run_hotReloadConfig_refused checked]
    exact valid
  | ok _ =>
    rw [run_hotReloadConfig_accepted checked]
    exact validate_keepConnection checked valid

lemma valid_afterReloads (reloads : List Config) (valid : w.config.validate = .ok ()) :
    (afterReloads env w reloads).config.validate = .ok () := by
  induction reloads generalizing w with
  | nil => exact valid
  | cons newConfig reloads ih => exact ih (valid_reload newConfig valid)

end Reload

/-- A refused reload changes nothing. An accepted one stores the new configuration with the old
connection, marks the mask for the panel if it differs, whichever length the panel uses, resets
the session if the names are read another way, and reports itself once. No sequence of reloads
makes a valid configuration invalid. -/
theorem hot_reload_keeps_valid (env : Surroundings) (w : ClientWorld)
    (valid : w.config.validate = .ok ()) :
    (∀ newConfig failure w', (hotReloadConfig newConfig).run (ClientOp.exec env) w =
        (.error failure, w') → w' = w) ∧
    (∀ newConfig w', (hotReloadConfig newConfig).run (ClientOp.exec env) w = (.ok (), w') →
      Reloaded w newConfig w') ∧
    ∀ reloads, (afterReloads env w reloads).config.validate = .ok () := by
  refine ⟨?_, ?_, fun reloads => valid_afterReloads reloads valid⟩
  · intro newConfig failure w' run
    cases checked : newConfig.validate with
    | error e =>
      rw [run_hotReloadConfig_refused checked] at run
      exact (congrArg Prod.snd run).symm
    | ok _ =>
      rw [run_hotReloadConfig_accepted checked] at run
      cases run
  · intro newConfig w' run
    cases checked : newConfig.validate with
    | error e =>
      rw [run_hotReloadConfig_refused checked] at run
      cases run
    | ok _ =>
      rw [run_hotReloadConfig_accepted checked] at run
      obtain rfl := congrArg Prod.snd run
      exact reloaded_reloaded checked valid

/-- Violations are asked for, and the key that would come with them is not taken over. -/
theorem hot_reload_keeps_valid_violations :
    let w : ClientWorld := .new {} ⟨0, Nat.zero_le _⟩
    let newConfig : Config :=
      { encryption := true, integrationKey := some "key", autoReadZonesViolation := true }
    w.config.validate = .ok () ∧ Reloaded w newConfig (reloaded newConfig w) := by
  intro w newConfig
  let env : Surroundings :=
    ⟨fun _ _ => .error .timeout, fun _ => .ok (), fun _ => ⟨0, Nat.zero_le _⟩⟩
  have valid : w.config.validate = .ok () := rfl
  have accepted : newConfig.validate = .ok () := by decide
  have run : (hotReloadConfig newConfig).run (ClientOp.exec env) w =
      (.ok (), reloaded newConfig w) := run_hotReloadConfig_accepted accepted
  exact ⟨valid, (hot_reload_keeps_valid env w valid).2.1 newConfig _ run⟩

end SatelIntegra
