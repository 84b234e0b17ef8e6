import SatelIntegra.AutoRequester

/-!
# The trouble cache against the trouble frames

A trouble key has its bits in one place of one command. The cache mirrors a key if
it reads active exactly when the last accepted frame of that command has a bit of
the key set, and if a change from set to clear is announced. It does for every key
but the reserved bits of the GSM modules, which the decoder reports only while set.
-/

namespace SatelIntegra

open CheckedAccess

section Home

def part (normal memorized : UInt8) (memory : Bool) : UInt8 := if memory then memorized else normal

/-- Command, byte and mask of entry `n` of a bit field that starts with entry `start`. -/
def fieldPlace (cmd : UInt8) (offset start n : Nat) : UInt8 × Nat × UInt8 :=
  (cmd, offset + (n - start) / 8, bitMask ((n - start) % 8))

/-- The one place where a key has its bits. -/
def home : TroubleType → Bool → UInt8 × Nat × UInt8
  | .mainBoardOutOverload n, m => fieldPlace (part 0x1B 0x20 m) 40 1 n.toNat
  | .mainBoardKpdPowerOverload, m => fieldPlace (part 0x1B 0x20 m) 40 0 4
  | .mainBoardExPowerOverload, m => fieldPlace (part 0x1B 0x20 m) 40 0 5
  | .mainBoardBatteryLow, m => fieldPlace (part 0x1B 0x20 m) 40 0 6
  | .mainBoardAcLoss, m => fieldPlace (part 0x1B 0x20 m) 40 0 7
  | .mainBoardDataBusDt1, m => fieldPlace (part 0x1B 0x20 m) 40 0 8
  | .mainBoardDataBusDt2, m => fieldPlace (part 0x1B 0x20 m) 40 0 9
  | .mainBoardDataBusDtm, m => fieldPlace (part 0x1B 0x20 m) 40 0 10
  | .rtcLoss, m => fieldPlace (part 0x1B 0x20 m) 40 0 11
  | .noDtrSignal, m => fieldPlace (part 0x1B 0x20 m) 40 0 12
  | .mainBoardBatteryMissing, m => fieldPlace (part 0x1B 0x20 m) 40 0 13
  | .externalModemInitTrouble, m => fieldPlace (part 0x1B 0x20 m) 40 0 14
  | .externalModemCmdTrouble, m => fieldPlace (part 0x1B 0x20 m) 40 0 15
  | .telephoneLineNoVoltage, m => fieldPlace (part 0x1B 0x20 m) 40 0 16
  | .telephoneLineBadSignal, m => fieldPlace (part 0x1B 0x20 m) 40 0 17
  | .telephoneLineNoSignal, m => fieldPlace (part 0x1B 0x20 m) 40 0 18
  | .monitoringStation1Trouble, m => fieldPlace (part 0x1B 0x20 m) 40 0 19
  | .monitoringStation2Trouble, m => fieldPlace (part 0x1B 0x20 m) 40 0 20
  | .eepromRtcTrouble, m => fieldPlace (part 0x1B 0x20 m) 40 0 21
  | .ramMemoryError, m => fieldPlace (part 0x1B 0x20 m) 40 0 22
  | .mainPanelRestartMemory, m => fieldPlace (part 0x1B 0x20 m) 40 0 23
  | .technicalZoneTrouble n, m =>
    if n ≤ 128 then fieldPlace (part 0x1B 0x20 m) 0 1 n.toNat
    else fieldPlace 0x2D (if m then 16 else 0) 129 n.toNat
  | .expanderAcLoss n, m => fieldPlace (part 0x1B 0x20 m) 16 1 n.toNat
  | .expanderBatteryLow n, m => fieldPlace (part 0x1B 0x20 m) 24 1 n.toNat
  | .expanderBatteryMissing n, m => fieldPlace (part 0x1B 0x20 m) 32 1 n.toNat
  | .ethmPingTrouble n, m => fieldPlace (part 0x1B 0x20 m) 43 1 n.toNat
  | .ethmServerIdError n, m => fieldPlace (part 0x1B 0x20 m) 44 1 n.toNat
  | .ethmSatelServerConnectionError n, m => fieldPlace (part 0x1B 0x20 m) 45 1 n.toNat
  | .ethmMonitoringStation1Error, m => fieldPlace (part 0x1B 0x20 m) 46 0 0
  | .ethmMonitoringStation2Error, m => fieldPlace (part 0x1B 0x20 m) 46 0 1
  | .gprsMonitoringStation1Error, m => fieldPlace (part 0x1B 0x20 m) 46 0 2
  | .gprsMonitoringStation2Error, m => fieldPlace (part 0x1B 0x20 m) 46 0 3
  | .timeServerTrouble, m => fieldPlace (part 0x1B 0x20 m) 46 0 4
  | .gsmInitError, m => fieldPlace (part 0x1B 0x20 m) 46 0 5
  | .ipMonitoringStation1Trouble, m => fieldPlace (part 0x1B 0x20 m) 46 0 6
  | .ipMonitoringStation2Trouble, m => fieldPlace (part 0x1B 0x20 m) 46 0 7
  | .expanderCardReaderHeadA n, m => fieldPlace (part 0x1C 0x21 m) 0 1 n.toNat
  | .expanderCardReaderHeadB n, m => fieldPlace (part 0x1C 0x21 m) 8 1 n.toNat
  | .expanderSupplyOverload n, m => fieldPlace (part 0x1C 0x21 m) 16 1 n.toNat
  | .expanderAcuJammedOrShortCircuit n, m =>
    if n ≤ 16 then fieldPlace (part 0x1C 0x21 m) 24 1 n.toNat
    else fieldPlace 0x22 (if m then 2 else 0) 17 n.toNat
  | .keypadRestart n, _ => fieldPlace 0x21 26 1 n.toNat
  | .expanderRestart n, _ => fieldPlace 0x21 27 1 n.toNat
  | .wirelessDeviceLowBattery n, m =>
    if n ≤ 136 then fieldPlace (part 0x1D 0x22 m) 15 17 n.toNat
    else fieldPlace (part 0x2C 0x2E m) 0 137 n.toNat
  | .wirelessDeviceNoComm n, m =>
    if n ≤ 136 then fieldPlace (part 0x1D 0x22 m) 30 17 n.toNat
    else fieldPlace (part 0x2C 0x2E m) 15 137 n.toNat
  | .wirelessOutputNoComm n, m =>
    if n ≤ 136 then fieldPlace (part 0x1D 0x22 m) 45 17 n.toNat
    else fieldPlace (part 0x2C 0x2E m) 30 137 n.toNat
  | .expanderNoComm n, m => fieldPlace (part 0x1E 0x23 m) 0 1 n.toNat
  | .expanderSubstituted n, m => fieldPlace (part 0x1E 0x23 m) 8 1 n.toNat
  | .keypadNoComm n, m => fieldPlace (part 0x1E 0x23 m) 16 1 n.toNat
  | .keypadSubstituted n, m => fieldPlace (part 0x1E 0x23 m) 17 1 n.toNat
  | .ethmNoLanCable n, m => fieldPlace (part 0x1E 0x23 m) 18 1 n.toNat
  | .expanderTamper n, m => fieldPlace (part 0x1E 0x23 m) 19 1 n.toNat
  | .keypadTamper n, m => fieldPlace (part 0x1E 0x23 m) 27 1 n.toNat
  | .keypadInitError n, m => fieldPlace (part 0x1E 0x23 m) 28 1 n.toNat
  | .auxiliaryStmTroubles, m => (part 0x1E 0x23 m, 29, 0xFF)
  | .masterKeyFobLowBattery n, _ => fieldPlace 0x1F 0 1 n.toNat
  | .userKeyFobLowBattery n, _ => fieldPlace 0x1F 1 1 n.toNat
  | .zoneLongViolationTrouble n, _ =>
    if n ≤ 128 then fieldPlace 0x24 0 1 n.toNat else fieldPlace 0x2F 0 129 n.toNat
  | .zoneNoViolationTrouble n, _ =>
    if n ≤ 128 then fieldPlace 0x24 16 1 n.toNat else fieldPlace 0x2F 16 129 n.toNat
  | .zoneTamperTrouble n, _ =>
    if n ≤ 128 then fieldPlace 0x24 32 1 n.toNat else fieldPlace 0x2F 32 129 n.toNat
  | .gsmEthmStation1Error k, m => fieldPlace (part 0x30 0x31 m) (k.toNat * 8) 0 0
  | .gsmEthmStation2Error k, m => fieldPlace (part 0x30 0x31 m) (k.toNat * 8) 0 1
  | .gsmGprsSim1Station1Error k, m => fieldPlace (part 0x30 0x31 m) (k.toNat * 8) 0 2
  | .gsmGprsSim1Station2Error k, m => fieldPlace (part 0x30 0x31 m) (k.toNat * 8) 0 3
  | .gsmGprsSim2Station1Error k, m => fieldPlace (part 0x30 0x31 m) (k.toNat * 8) 0 4
  | .gsmGprsSim2Station2Error k, m => fieldPlace (part 0x30 0x31 m) (k.toNat * 8) 0 5
  | .gsmSmsSim1Station1Error k, m => fieldPlace (part 0x30 0x31 m) (k.toNat * 8) 0 6
  | .gsmSmsSim1Station2Error k, m => fieldPlace (part 0x30 0x31 m) (k.toNat * 8) 0 7
  | .gsmSmsSim2Station1Error k, m => fieldPlace (part 0x30 0x31 m) (k.toNat * 8) 0 8
  | .gsmSmsSim2Station2Error k, m => fieldPlace (part 0x30 0x31 m) (k.toNat * 8) 0 9
  | .gsmSimPinError k sim, m => fieldPlace (part 0x30 0x31 m) (k.toNat * 8) 1 (10 + sim.toNat)
  | .gsmSimLoggingError k sim, m => fieldPlace (part 0x30 0x31 m) (k.toNat * 8) 1 (12 + sim.toNat)
  | .gsmSimCreditLow k sim, m => fieldPlace (part 0x30 0x31 m) (k.toNat * 8) 1 (14 + sim.toNat)
  | .gsmSimSmsError k sim, m => fieldPlace (part 0x30 0x31 m) (k.toNat * 8) 1 (16 + sim.toNat)
  | .gsmJamming k, m => fieldPlace (part 0x30 0x31 m) (k.toNat * 8) 0 18
  | .gsmSettingsCrcError k, m => fieldPlace (part 0x30 0x31 m) (k.toNat * 8) 0 19
  | .gsmModuleMissing k, m => fieldPlace (part 0x30 0x31 m) (k.toNat * 8) 0 20
  | .gsmModuleChanged k, m => fieldPlace (part 0x30 0x31 m) (k.toNat * 8) 0 21
  | .gsmServerConnError k, m => fieldPlace (part 0x30 0x31 m) (k.toNat * 8) 0 22
  | .gsmMailServerConnError k, m => fieldPlace (part 0x30 0x31 m) (k.toNat * 8) 0 23
  | .gsmNtpServerConnError k, m => fieldPlace (part 0x30 0x31 m) (k.toNat * 8) 0 24
  | .genericTrouble _ bit, m => fieldPlace (part 0x30 0x31 m) 0 0 bit.toNat

/-- Every slot is at the home of its key. -/
lemma layout_home {cmd : UInt8} : ∀ slot ∈ layout cmd,
    home slot.trouble slot.memory = (cmd, slot.byte, slot.mask) ∧
      slot.onlyActive = slot.trouble.isGeneric := by
  unfold layout
  cases h : getRules cmd with
  | none => simp
  | some entry =>
    unfold getRules at h
    split at h <;> cases h
    all_goals decide +kernel

/-- No two slots of the sixteen commands share a key. -/
theorem layout_key_unique {cmd cmd' : UInt8} {slot slot' : Slot} (h : slot ∈ layout cmd)
    (h' : slot' ∈ layout cmd') (same : slot.key = slot'.key) : cmd = cmd' ∧ slot = slot' := by
  obtain ⟨place, generic⟩ := layout_home slot h
  obtain ⟨place', generic'⟩ := layout_home slot' h'
  obtain ⟨htrouble, hmemory⟩ := Prod.mk.inj same
  have places := place.symm.trans ((congrArg₂ home htrouble hmemory).trans place')
  obtain ⟨hcmd, hrest⟩ := Prod.mk.inj places
  obtain ⟨hbyte, hmask⟩ := Prod.mk.inj hrest
  refine ⟨hcmd, ?_⟩
  cases slot
  cases slot'
  simp_all

end Home

/-! ### One frame -/

section Update
variable (emitUnchanged : Bool)

def Slot.event (slot : Slot) (active : Bool) : SatelEvent :=
  if slot.memory then .troubleMemory slot.trouble active else .trouble slot.trouble active

/-- The cache reads the key as active. -/
def SatelState.reads (state : SatelState) (key : Slot.Key) : Bool :=
  (state.troubleFlags key).getD false

lemma updateTrouble_reads_of_not_mem {item : TroubleItem} {key : Slot.Key}
    (h : ∀ active, (key, active) ∉ flagsOf [item]) (state : SatelState) :
    (updateTrouble emitUnchanged state item).1.reads key = state.reads key := by
  cases item with
  | flag trouble memory active =>
    have distinct : key ≠ (trouble, memory) := by
      rintro rfl
      exact h active (by simp [flagsOf])
    simp only [updateTrouble, SatelState.reads, Table.insert_of_ne distinct]
  | acuJamLevel module level => rfl
  | cmeError source sim memory code => rfl

lemma flagsOf_cons (item : TroubleItem) (items : List TroubleItem) :
    flagsOf (item :: items) = flagsOf [item] ++ flagsOf items :=
  flagsOf_append [item] items

lemma updateTroubles_reads_of_not_mem {items : List TroubleItem} {key : Slot.Key}
    (h : ∀ active, (key, active) ∉ flagsOf items) (state : SatelState) :
    (updateTroubles emitUnchanged state items).1.reads key = state.reads key := by
  induction items generalizing state with
  | nil => rfl
  | cons item items ih =>
    have head : ∀ active, (key, active) ∉ flagsOf [item] := fun active hm =>
      h active (flagsOf_cons item items ▸ List.mem_append_left _ hm)
    have tail : ∀ active, (key, active) ∉ flagsOf items := fun active hm =>
      h active (flagsOf_cons item items ▸ List.mem_append_right _ hm)
    have first := updateTrouble_reads_of_not_mem emitUnchanged head state
    exact (ih tail (updateTrouble emitUnchanged state item).1).trans first

/-- An event about a trouble comes from a flag of the frame. -/
lemma mem_flagsOf_of_event {items : List TroubleItem} {slot : Slot} {active : Bool}
    {state : SatelState} (h : slot.event active ∈ (updateTroubles emitUnchanged state items).2) :
    (slot.key, active) ∈ flagsOf items := by
  induction items generalizing state with
  | nil => cases h
  | cons item items ih =>
    rw [flagsOf_cons]
    rcases List.mem_append.mp h with h | h
    · refine List.mem_append_left _ ?_
      cases item with
      | flag trouble memory active' =>
        simp only at h
        split at h
        · have heq := List.mem_singleton.mp h
          cases hm : slot.memory <;> cases memory <;>
            simp_all [Slot.event, Slot.key, flagsOf]
        · cases h
      | acuJamLevel module level =>
        simp only at h
        split at h
        · have heq := List.mem_singleton.mp h
          cases hm : slot.memory <;> simp_all [Slot.event]
        · cases h
      | cmeError source sim memory code =>
        simp only at h
        split at h
        · have heq := List.mem_singleton.mp h
          cases hm : slot.memory <;> simp_all [Slot.event]
        · cases h
    · exact List.mem_append_right _ (ih h)

/-- A key that the frame flags, always with one value, takes that value; the change is
announced. -/
lemma updateTroubles_reads {items : List TroubleItem} {slot : Slot} {active : Bool}
    (flagged : (slot.key, active) ∈ flagsOf items)
    (agree : ∀ active', (slot.key, active') ∈ flagsOf items → active' = active)
    (state : SatelState) :
    (updateTroubles emitUnchanged state items).1.reads slot.key = active ∧
      (state.reads slot.key ≠ active →
        slot.event active ∈ (updateTroubles emitUnchanged state items).2) := by
  induction items generalizing state with
  | nil => cases flagged
  | cons item items ih =>
    rw [flagsOf_cons] at flagged agree
    have agree_rest : ∀ active', (slot.key, active') ∈ flagsOf items → active' = active :=
      fun active' h => agree active' (List.mem_append_right _ h)
    -- the first flag of the key announces the change; later ones repeat its value
    by_cases first : (slot.key, active) ∈ flagsOf [item]
    · cases item with
      | acuJamLevel module level => cases first
      | cmeError source sim memory code => cases first
      | flag trouble memory active' =>
        have heq : slot.key = (trouble, memory) ∧ active = active' := by
          simpa [flagsOf] using first
        obtain ⟨hkey, rfl⟩ := heq
        have now : (updateTrouble emitUnchanged state (.flag trouble memory active)).1.reads
            slot.key = active := by
          rw [hkey]
          simp [updateTrouble, SatelState.reads]
        refine ⟨?_, ?_⟩
        · by_cases later : (slot.key, active) ∈ flagsOf items
          · exact (ih later agree_rest _).1
          · have absent : ∀ active', (slot.key, active') ∉ flagsOf items := by
              intro active' h
              cases agree_rest active' h
              exact later h
            exact (updateTroubles_reads_of_not_mem emitUnchanged absent _).trans now
        · intro change
          refine List.mem_append_left _ ?_
          obtain ⟨htrouble, hmemory⟩ := Prod.mk.inj hkey
          have changed : ((state.troubleFlags (trouble, memory)).getD false != active) = true := by
            rw [← hkey]
            simpa [SatelState.reads] using change
          simp only [changed, Bool.true_or, if_true, Slot.event, htrouble, hmemory,
            List.mem_singleton]
    · have later : (slot.key, active) ∈ flagsOf items :=
        (List.mem_append.mp flagged).resolve_left first
      have absent : ∀ active', (slot.key, active') ∉ flagsOf [item] := by
        intro active' h
        cases agree active' (List.mem_append_left _ h)
        exact first h
      have kept := updateTrouble_reads_of_not_mem emitUnchanged absent state
      obtain ⟨reads, announced⟩ := ih later agree_rest (updateTrouble emitUnchanged state item).1
      refine ⟨reads, ?_⟩
      intro change
      exact List.mem_append_right _ (announced (kept ▸ change))

end Update

/-! ### Runs -/

/-- What one call of `update_troubles_internal` leaves and sends; a rejected frame does nothing. -/
def troublesStep (config : Config) (state : SatelState) (frame : SatelCommand × Frame) : Updated :=
  match updateTroublesInternal config state frame.1 frame.2 with
  | .ok (.ok updated) => updated
  | _ => (state, [])

def troublesRun (config : Config) (start : Instant) (run : List (SatelCommand × Frame)) :
    SatelState :=
  run.foldl (fun state frame => (troublesStep config state frame).1) (SatelState.new start)

/-- Whether the bits of the slot were set, in each accepted frame of a command. -/
def slotBits (cmd : SatelCommand) (slot : Slot) (run : List (SatelCommand × Frame)) : List Bool :=
  run.filterMap fun frame =>
    if frame.1 = cmd ∧ AcceptsTroubles cmd.toByte frame.2 then some (slot.raised frame.2) else none

/-- The cache reads the key as its last frame has it, and every fall was announced. -/
structure Mirrors (config : Config) (start : Instant) (run : List (SatelCommand × Frame))
    (cmd : SatelCommand) (slot : Slot) : Prop where
  active : (troublesRun config start run).reads slot.key = (slotBits cmd slot run).getLastD false
  cleared : ∀ pre data post, run = pre ++ (cmd, data) :: post →
    AcceptsTroubles cmd.toByte data → (slotBits cmd slot pre).getLast? = some true →
    slot.raised data = false →
      slot.event false ∈ (troublesStep config (troublesRun config start pre) (cmd, data)).2

/-- Somewhere the bits go from set to clear. -/
def Falls (bits : List Bool) : Prop := [true, false] <:+: bits

lemma troublesStep_rejected (config : Config) (state : SatelState) {cmd : SatelCommand}
    {data : Frame} (h : ¬ AcceptsTroubles cmd.toByte data) :
    troublesStep config state (cmd, data) = (state, []) := by
  rcases decodeTroubles_flags cmd.toByte data with ⟨accepted, -⟩ | ⟨-, hdecode⟩
  · exact absurd accepted h
  · rw [troublesStep, updateTroublesInternal, hdecode]
    rfl

lemma troublesStep_accepted (config : Config) (state : SatelState) {cmd : SatelCommand}
    {data : Frame} (h : AcceptsTroubles cmd.toByte data) :
    ∃ items, troublesStep config state (cmd, data) =
        updateTroubles config.emitUnchangedTroubles state items ∧
      flagsOf items = Slot.reported (layout cmd.toByte) data := by
  rcases decodeTroubles_flags cmd.toByte data with ⟨-, items, hdecode, hflags⟩ | ⟨rejected, -⟩
  · refine ⟨items, ?_, hflags⟩
    rw [troublesStep, updateTroublesInternal, hdecode]
    rfl
  · exact absurd h rejected

section Step
variable (config : Config) (state : SatelState) {cmd : SatelCommand} {slot : Slot}
  (hslot : slot ∈ layout cmd.toByte) {data : Frame}
include hslot

/-- Frames of other commands and rejected ones do not touch the key. -/
lemma troublesStep_other {frame : SatelCommand × Frame}
    (h : ¬ (frame.1 = cmd ∧ AcceptsTroubles cmd.toByte frame.2)) :
    (troublesStep config state frame).1.reads slot.key = state.reads slot.key := by
  obtain ⟨cmd', data⟩ := frame
  by_cases accepted : AcceptsTroubles cmd'.toByte data
  · obtain ⟨items, hstep, hflags⟩ := troublesStep_accepted config state accepted
    rw [hstep]
    apply updateTroubles_reads_of_not_mem
    intro active hmem
    rw [hflags] at hmem
    obtain ⟨slot', hslot', hkey, -⟩ := Slot.mem_reported.mp hmem
    have same := SatelCommand.toByte_injective (layout_key_unique hslot' hslot hkey).1
    subst same
    exact h ⟨rfl, accepted⟩
  · rw [troublesStep_rejected config state accepted]

/-- A frame of the command that shows the key sets it, and announces the change. -/
lemma troublesStep_visible (accepted : AcceptsTroubles cmd.toByte data)
    (visible : slot.onlyActive = true → slot.raised data = true) :
    (troublesStep config state (cmd, data)).1.reads slot.key = slot.raised data ∧
      (state.reads slot.key ≠ slot.raised data →
        slot.event (slot.raised data) ∈ (troublesStep config state (cmd, data)).2) := by
  obtain ⟨items, hstep, hflags⟩ := troublesStep_accepted config state accepted
  rw [hstep]
  apply updateTroubles_reads
  · rw [hflags]
    exact Slot.mem_reported.mpr ⟨slot, hslot, rfl, rfl, visible⟩
  · intro active hmem
    rw [hflags] at hmem
    obtain ⟨slot', hslot', hkey, hraised, -⟩ := Slot.mem_reported.mp hmem
    rw [← hraised, (layout_key_unique hslot' hslot hkey).2]

/-- A reserved bit that is clear is passed over. -/
lemma troublesStep_silent (accepted : AcceptsTroubles cmd.toByte data)
    (only : slot.onlyActive = true) (clear : slot.raised data = false) :
    (troublesStep config state (cmd, data)).1.reads slot.key = state.reads slot.key ∧
      ∀ active, slot.event active ∉ (troublesStep config state (cmd, data)).2 := by
  obtain ⟨items, hstep, hflags⟩ := troublesStep_accepted config state accepted
  have absent : ∀ active, (slot.key, active) ∉ flagsOf items := by
    intro active hmem
    rw [hflags] at hmem
    obtain ⟨slot', hslot', hkey, hraised, hvisible⟩ := Slot.mem_reported.mp hmem
    have same := (layout_key_unique hslot' hslot hkey).2
    subst same
    rw [hvisible only, clear] at hraised
    cases hraised
  rw [hstep]
  refine ⟨updateTroubles_reads_of_not_mem _ absent state, ?_⟩
  intro active hevent
  exact absent active (mem_flagsOf_of_event _ hevent)

end Step

lemma slotBits_snoc (cmd : SatelCommand) (slot : Slot) (run : List (SatelCommand × Frame))
    (frame : SatelCommand × Frame) :
    slotBits cmd slot (run ++ [frame]) = slotBits cmd slot run ++
      if frame.1 = cmd ∧ AcceptsTroubles cmd.toByte frame.2 then [slot.raised frame.2] else [] := by
  rw [slotBits, List.filterMap_append]
  split <;> simp_all [slotBits]

lemma troublesRun_snoc (config : Config) (start : Instant) (run : List (SatelCommand × Frame))
    (frame : SatelCommand × Frame) :
    troublesRun config start (run ++ [frame]) =
      (troublesStep config (troublesRun config start run) frame).1 := by
  simp [troublesRun]

/-- A key that is reported in both directions reads as its last frame has it. -/
lemma reads_of_visible (config : Config) (start : Instant) (run : List (SatelCommand × Frame))
    {cmd : SatelCommand} {slot : Slot} (hslot : slot ∈ layout cmd.toByte)
    (visible : slot.onlyActive = false) :
    (troublesRun config start run).reads slot.key = (slotBits cmd slot run).getLastD false := by
  induction run using List.reverseRecOn with
  | nil => rfl
  | append_singleton run frame ih =>
    rw [troublesRun_snoc, slotBits_snoc]
    by_cases h : frame.1 = cmd ∧ AcceptsTroubles cmd.toByte frame.2
    · obtain ⟨cmd', data⟩ := frame
      obtain ⟨rfl, accepted⟩ := h
      have step := troublesStep_visible config (troublesRun config start run) hslot accepted
        fun only => absurd only (by simp [visible])
      rw [step.1, if_pos ⟨rfl, accepted⟩]
      simp
    · rw [troublesStep_other config _ hslot h, ih, if_neg h, List.append_nil]

/-- A reserved bit reads active once it was ever set. -/
lemma reads_of_onlyActive (config : Config) (start : Instant) (run : List (SatelCommand × Frame))
    {cmd : SatelCommand} {slot : Slot} (hslot : slot ∈ layout cmd.toByte)
    (only : slot.onlyActive = true) :
    (troublesRun config start run).reads slot.key = (slotBits cmd slot run).contains true := by
  induction run using List.reverseRecOn with
  | nil => rfl
  | append_singleton run frame ih =>
    rw [troublesRun_snoc, slotBits_snoc]
    by_cases h : frame.1 = cmd ∧ AcceptsTroubles cmd.toByte frame.2
    · obtain ⟨cmd', data⟩ := frame
      obtain ⟨rfl, accepted⟩ := h
      rw [if_pos ⟨rfl, accepted⟩]
      cases hr : slot.raised data with
      | true =>
        have step := troublesStep_visible config (troublesRun config start run) hslot accepted
          fun _ => hr
        rw [step.1, hr]
        simp
      | false =>
        have step := troublesStep_silent config (troublesRun config start run) hslot accepted
          only hr
        rw [step.1, ih]
        simp
    · rw [troublesStep_other config _ hslot h, ih, if_neg h, List.append_nil]

lemma falls_of_getLast? {bits rest : List Bool} (h : bits.getLast? = some true) :
    Falls (bits ++ false :: rest) := by
  obtain ⟨init, rfl⟩ := List.getLast?_eq_some_iff.mp h
  exact ⟨init, rest, by simp⟩

/-- Without a fall, a bit that was ever set is still set. -/
lemma contains_eq_getLastD {bits : List Bool} (h : ¬ Falls bits) :
    bits.contains true = bits.getLastD false := by
  induction bits using List.reverseRecOn with
  | nil => rfl
  | append_singleton bits bit ih =>
    have kept : ¬ Falls bits := by
      rintro ⟨pre, post, rfl⟩
      exact h ⟨pre, post ++ [bit], by simp⟩
    cases bit with
    | true => simp
    | false =>
      have low : bits.getLastD false = false := by
        cases hlast : bits.getLast? with
        | none => simp [hlast]
        | some last =>
          cases last with
          | true => exact absurd (falls_of_getLast? hlast) h
          | false => simp [hlast]
      have before := (ih kept).trans low
      simpa using before

/-- An accepted frame of the command, at a given place among them. -/
lemma slotBits_split {cmd : SatelCommand} {slot : Slot} {run : List (SatelCommand × Frame)}
    {xs ys : List Bool} {bit : Bool} (h : slotBits cmd slot run = xs ++ bit :: ys) :
    ∃ pre data post, run = pre ++ (cmd, data) :: post ∧ AcceptsTroubles cmd.toByte data ∧
      slotBits cmd slot pre = xs ∧ slot.raised data = bit := by
  obtain ⟨pre, later, rfl, hpre, hlater⟩ := List.filterMap_eq_append_iff.mp h
  obtain ⟨skipped, ⟨cmd', data⟩, post, rfl, hskipped, hframe, -⟩ :=
    List.filterMap_eq_cons_iff.mp hlater
  split at hframe
  · rename_i hcond
    obtain ⟨rfl, accepted⟩ := hcond
    refine ⟨pre ++ skipped, data, post, by simp, accepted, ?_, Option.some.inj hframe⟩
    rw [slotBits, List.filterMap_append, hpre, List.filterMap_eq_nil_iff.mpr hskipped,
      List.append_nil]
  · cases hframe

/-- The cache mirrors exactly the keys that are not reserved bits, and those that never fall. -/
theorem mirrors_iff (config : Config) (start : Instant) (run : List (SatelCommand × Frame))
    (cmd : SatelCommand) (slot : Slot) (hslot : slot ∈ layout cmd.toByte) :
    Mirrors config start run cmd slot ↔
      slot.trouble.isGeneric = false ∨ ¬ Falls (slotBits cmd slot run) := by
  have generic := (layout_home slot hslot).2
  constructor
  · intro mirrors
    by_contra hcon
    obtain ⟨hgeneric, hfalls⟩ := not_or.mp hcon
    have only : slot.onlyActive = true := by simpa [generic] using hgeneric
    obtain ⟨xs, ys, hsplit⟩ := not_not.mp hfalls
    have hbits : slotBits cmd slot run = (xs ++ [true]) ++ false :: ys := by
      simp [← hsplit]
    obtain ⟨pre, data, post, hrun, accepted, hpre, clear⟩ := slotBits_split hbits
    have announced := mirrors.cleared pre data post hrun accepted (by simp [hpre]) clear
    exact (troublesStep_silent config _ hslot accepted only clear).2 false announced
  · intro h
    cases only : slot.onlyActive with
    | false =>
      refine ⟨reads_of_visible config start run hslot only, ?_⟩
      intro pre data post hrun accepted high clear
      have step := troublesStep_visible config (troublesRun config start pre) hslot accepted
        fun o => absurd o (by simp [only])
      rw [clear] at step
      apply step.2
      rw [reads_of_visible config start pre hslot only]
      simp [high]
    | true =>
      have rising := h.resolve_left (by simp [← generic, only])
      refine ⟨?_, ?_⟩
      · rw [reads_of_onlyActive config start run hslot only, contains_eq_getLastD rising]
      · intro pre data post hrun accepted high clear
        refine absurd ?_ rising
        have hbits : slotBits cmd slot run =
            slotBits cmd slot pre ++ false :: slotBits cmd slot post := by
          rw [hrun, slotBits, List.filterMap_append, List.filterMap_cons,
            if_pos ⟨rfl, accepted⟩, clear]
          rfl
        rw [hbits]
        exact falls_of_getLast? high

section ReservedBit

/-- Bit 25 of the first GSM module, the first reserved bit. -/
def reservedSlot : Slot where
  trouble := .genericTrouble 7 25
  memory := false
  byte := 3
  mask := 0x02
  onlyActive := true

def reservedSet : Frame := [0, 0, 0, 0x02] ++ List.replicate 60 0

def reservedClear : Frame := List.replicate 64 0

lemma reservedSlot_mem : reservedSlot ∈ layout SatelCommand.troublesPart8.toByte := by
  decide

/-- A reserved bit is set, then clear: the cache still reads it as active, and the second frame
does not announce the change. -/
theorem reserved_bit_stays :
    slotBits .troublesPart8 reservedSlot
      [(.troublesPart8, reservedSet), (.troublesPart8, reservedClear)] = [true, false] ∧
    (troublesRun {} 0 [(.troublesPart8, reservedSet), (.troublesPart8, reservedClear)]).reads
      reservedSlot.key = true ∧
    reservedSlot.event false ∉ (troublesStep {} (troublesRun {} 0 [(.troublesPart8, reservedSet)])
      (.troublesPart8, reservedClear)).2 := by
  refine ⟨by decide, ?_, ?_⟩
  · rw [reads_of_onlyActive {} 0 _ reservedSlot_mem rfl]
    decide
  · exact (troublesStep_silent {} _ reservedSlot_mem (by decide) rfl (by decide)).2
      false

/-- After one frame with the reserved bit set, the cache mirrors it. -/
theorem mirrors_iff_reserved :
    Mirrors {} 0 [(.troublesPart8, reservedSet)] .troublesPart8 reservedSlot := by
  refine (mirrors_iff {} 0 _ .troublesPart8 reservedSlot reservedSlot_mem).mpr (.inr ?_)
  have one : slotBits .troublesPart8 reservedSlot [(.troublesPart8, reservedSet)] = [true] := by
    decide
  rw [one]
  rintro ⟨pre, post, h⟩
  have := congrArg List.length h
  simp only [List.length_append, List.length_cons, List.length_nil] at this
  omega

end ReservedBit

end SatelIntegra
