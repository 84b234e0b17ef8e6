import SatelIntegra.Config

/-!
# Validation of a configuration

`Config::validate` checks the key of an encrypted connection and every temperature
probe. What follows for the probes is the one fact later proofs use.
-/

namespace SatelIntegra

def ConnectionConfig.isUart : ConnectionConfig → Bool
  | .tcp _ _ => false
  | .uart _ _ => true

def isAscii (text : String) : Bool := text.toList.all fun c => c.toNat < 128

/-- The checks made only for an encrypted connection. -/
def Config.validateKey (c : Config) : Except SatelError Unit :=
  match c.integrationKey with
  | none =>
    throw (.invalidIntegrationKey "encryption is enabled but integration_key is not set")
  | some key => do
    let length := key.utf8ByteSize
    if length = 0 ∨ length > 12 then
      throw (.invalidIntegrationKey s!"integration_key must be 1-12 characters long, got {length}")
    if !isAscii key then
      throw (.invalidIntegrationKey "integration_key must contain only ASCII characters")
    if c.connection.isUart then
      throw (.invalidIntegrationKey
        "encryption is only supported for TCP connections (ETHM-1 Plus), not UART (INT-RS)")

/-- The loop over the probes; `seenZones` are the zones of those before. -/
def Config.validateProbes (seenZones : List UInt16) : List TemperatureProbe → Except SatelError Unit
  | [] => pure ()
  | probe :: probes => do
    let zone := probe.zoneId
    let cycles := probe.unblockAfterCycles
    let minimum := minUnblockAfterCycles
    if zone = 0 ∨ zone > 256 then
      throw (.invalidConfig s!"invalid zone_id {zone} in temperature_probes (must be 1..=256)")
    if zone ∈ seenZones then
      throw (.invalidConfig s!"duplicate zone_id {zone} in temperature_probes")
    if probe.unblockEnabled ∧ cycles < minimum then
      throw (.invalidConfig
        s!"unblock_after_cycles for zone {zone} is {cycles}, minimum is {minimum}")
    validateProbes (zone :: seenZones) probes

def Config.validate (c : Config) : Except SatelError Unit := do
  if c.encryption then c.validateKey
  validateProbes [] c.temperatureProbes

/-- What an accepted probe satisfies. -/
structure TemperatureProbe.Valid (probe : TemperatureProbe) : Prop where
  zone : 0 < probe.zoneId ∧ probe.zoneId ≤ 256
  cycles : probe.unblockEnabled = true → minUnblockAfterCycles ≤ probe.unblockAfterCycles

lemma Config.validateProbes_cons {seenZones : List UInt16} {probe : TemperatureProbe}
    {probes : List TemperatureProbe} (h : validateProbes seenZones (probe :: probes) = .ok ()) :
    probe.Valid ∧ probe.zoneId ∉ seenZones ∧
      validateProbes (probe.zoneId :: seenZones) probes = .ok () := by
  rw [validateProbes] at h
  by_cases zone : probe.zoneId = 0 ∨ probe.zoneId > 256
  · rw [if_pos zone] at h
    cases h
  rw [if_neg zone] at h
  by_cases seen : probe.zoneId ∈ seenZones
  · rw [if_pos seen] at h
    cases h
  rw [if_neg seen] at h
  by_cases cycles : probe.unblockEnabled = true ∧ probe.unblockAfterCycles < minUnblockAfterCycles
  · rw [if_pos cycles] at h
    cases h
  rw [if_neg cycles] at h
  obtain ⟨zero, large⟩ := not_or.mp zone
  have positive : 0 < probe.zoneId := UInt16.pos_iff_ne_zero.mpr zero
  refine ⟨⟨⟨positive, UInt16.not_lt.mp large⟩, ?_⟩, seen, h⟩
  intro enabled
  exact UInt32.not_lt.mp fun few => cycles ⟨enabled, few⟩

/-- An accepted list has valid probes, of distinct zones. -/
theorem Config.validateProbes_ok {seenZones : List UInt16} {probes : List TemperatureProbe}
    (h : validateProbes seenZones probes = .ok ()) :
    (∀ probe ∈ probes, probe.Valid ∧ probe.zoneId ∉ seenZones) ∧
      (probes.map TemperatureProbe.zoneId).Nodup := by
  induction probes generalizing seenZones with
  | nil => simp
  | cons probe probes ih =>
    obtain ⟨valid, fresh, rest⟩ := validateProbes_cons h
    obtain ⟨later, distinct⟩ := ih rest
    constructor
    · intro other mem
      rcases List.mem_cons.mp mem with rfl | mem
      · exact ⟨valid, fresh⟩
      · exact ⟨(later other mem).1, fun seen => (later other mem).2 (List.mem_cons_of_mem _ seen)⟩
    · rw [List.map_cons, List.nodup_cons]
      refine ⟨?_, distinct⟩
      intro mem
      obtain ⟨other, mem, same⟩ := List.mem_map.mp mem
      exact (later other mem).2 (same ▸ List.mem_cons_self)

lemma Config.validate_probes {c : Config} (h : c.validate = .ok ()) :
    validateProbes [] c.temperatureProbes = .ok () := by
  rw [validate] at h
  by_cases encryption : c.encryption = true
  · rw [if_pos encryption] at h
    cases key : c.validateKey with
    | error e =>
      rw [key] at h
      cases h
    | ok _ =>
      rw [key] at h
      exact h
  · rw [if_neg encryption] at h
    exact h

end SatelIntegra
