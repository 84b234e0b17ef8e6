import Mathlib.Data.List.Chain
import Mathlib.Data.List.Nodup
import SatelIntegra.KeyedWrites
import SatelIntegra.TroubleCache
import SatelIntegra.TroubleCodes

/-!
# The three trouble maps over a run of frames

Flags, jam levels and error codes are kept in three maps, and each is a store
whose writes are announced when they change something. A key of any of them is
written by the frames of one command, at most once in each. So frames of
different commands may be swapped, and the events tell what the maps hold.
-/

namespace SatelIntegra

open CheckedAccess KeyedWrites

/-- One of the maps: where it is, and the items and events that are about it. -/
structure TroubleMap (K V : Type) [DecidableEq K] [DecidableEq V] where
  blank : V
  contents : SatelState → K → Option V
  write : TroubleItem → Option (K × V)
  event : SatelEvent → Option (K × V)
  /-- The command whose frames write the key. -/
  command : K → UInt8
  contents_update : ∀ emitUnchanged state item,
    contents (updateTrouble emitUnchanged state item).1 =
      match write item with
      | some (key, value) => put (contents state) ⟨key, value, emitUnchanged⟩
      | none => contents state
  event_update : ∀ emitUnchanged state item,
    (updateTrouble emitUnchanged state item).2.filterMap event =
      match write item with
      | some (key, value) => announced blank (contents state) ⟨key, value, emitUnchanged⟩
      | none => []
  command_write : ∀ {cmd data items}, decodeTroubles cmd data = (.ok (.ok items) : Except Panic _) →
    ∀ entry ∈ items.filterMap write, command entry.1 = cmd
  once : ∀ {cmd data items}, decodeTroubles cmd data = (.ok (.ok items) : Except Panic _) →
    ((items.filterMap write).map Prod.fst).Nodup

section Maps

lemma insert_eq_put {K V : Type} [DecidableEq K] (table : K → Option V) (key : K) (value : V)
    (forced : Bool) : Table.insert table key value = put table ⟨key, value, forced⟩ := by
  funext key'
  by_cases h : key' = key
  · subst h
    rw [put, Function.update_self]
    exact Table.insert_self table _ value
  · rw [put, Function.update_of_ne h]
    exact Table.insert_of_ne h table value

section Conditional
variable {A B : Type} {event : A → Option B} {due : Bool} {told : A}

/-- An event that is sent when due, seen by a map that it is about. -/
lemma filterMap_due {entry : B} (h : event told = some entry) :
    (if due = true then [told] else []).filterMap event = if due = true then [entry] else [] := by
  cases due with
  | true => simp [h]
  | false => rfl

lemma filterMap_other (h : event told = none) :
    (if due = true then [told] else []).filterMap event = [] := by
  cases due with
  | true => simp [h]
  | false => rfl

end Conditional

lemma mem_reported_layout {cmd : UInt8} {data : Frame} {entry : Slot.Key × Bool}
    (h : entry ∈ Slot.reported (layout cmd) data) : (home entry.1.1 entry.1.2).1 = cmd := by
  obtain ⟨key, active⟩ := entry
  obtain ⟨slot, hslot, rfl, -⟩ := Slot.mem_reported.mp h
  exact congrArg Prod.fst (layout_home slot hslot).1

/-- A number that grows along a layout. -/
def Slot.place (slot : Slot) : Nat := slot.byte * 256 + slot.mask.toNat

lemma layout_ascending (cmd : UInt8) : ((layout cmd).map Slot.place).IsChain (· < ·) := by
  unfold layout
  cases h : getRules cmd with
  | none => exact .nil
  | some entry =>
    unfold getRules at h
    split at h <;> cases h
    all_goals decide +kernel

lemma layout_keys_nodup (cmd : UInt8) : ((layout cmd).map Slot.key).Nodup := by
  have places : ((layout cmd).map Slot.place).Nodup :=
    (layout_ascending cmd).pairwise.imp Nat.ne_of_lt
  have from_keys : (layout cmd).map Slot.place = ((layout cmd).map Slot.key).map fun key =>
      (home key.1 key.2).2.1 * 256 + (home key.1 key.2).2.2.toNat := by
    rw [List.map_map]
    refine List.map_congr_left ?_
    intro slot hslot
    have := (layout_home slot hslot).1
    simp only [Function.comp_apply, Slot.key, this]
    rfl
  rw [from_keys] at places
  exact List.Nodup.of_map _ places

def troubleFlagsMap : TroubleMap Slot.Key Bool where
  blank := false
  contents := SatelState.troubleFlags
  write := fun
    | .flag trouble memory active => some ((trouble, memory), active)
    | _ => none
  event := fun
    | .trouble trouble active => some ((trouble, false), active)
    | .troubleMemory trouble active => some ((trouble, true), active)
    | _ => none
  command := fun key => (home key.1 key.2).1
  contents_update := by
    intro emitUnchanged state item
    cases item <;> first | rfl | exact insert_eq_put ..
  event_update := by
    intro emitUnchanged state item
    cases item with
    | flag trouble memory active => exact filterMap_due (by cases memory <;> rfl)
    | acuJamLevel module level => exact filterMap_other rfl
    | cmeError source sim memory code => exact filterMap_other rfl
  command_write := by
    intro cmd data items h entry hentry
    have hentry : entry ∈ flagsOf items := hentry
    rw [flagsOf_decoded h] at hentry
    exact mem_reported_layout hentry
  once := by
    intro cmd data items h
    change ((flagsOf items).map Prod.fst).Nodup
    rw [flagsOf_decoded h, Slot.reported, List.map_map]
    exact (layout_keys_nodup cmd).sublist (List.Sublist.map Slot.key List.filter_sublist)

/-- The levels of modules 1 to 15 and of the rest come with different commands. -/
def levelCommand (module : UInt8) : UInt8 := if module ≤ 15 then 0x1D else 0x2D

lemma levelLayout_command (cmd : UInt8) :
    (∀ place ∈ levelLayout cmd, levelCommand place.1 = cmd) ∧
      ((levelLayout cmd).map Prod.fst).Nodup := by
  unfold levelLayout
  cases h : getRules cmd with
  | none => simp
  | some entry =>
    unfold getRules at h
    split at h <;> cases h
    all_goals decide

def acuJamLevelsMap : TroubleMap UInt8 UInt8 where
  blank := 0
  contents := SatelState.acuJamLevels
  write := fun
    | .acuJamLevel module level => some (module, level)
    | _ => none
  event := fun
    | .acuJamLevel module level => some (module, level)
    | _ => none
  command := levelCommand
  contents_update := by
    intro emitUnchanged state item
    cases item <;> first | rfl | exact insert_eq_put ..
  event_update := by
    intro emitUnchanged state item
    cases item with
    | flag trouble memory active => exact filterMap_other (by cases memory <;> rfl)
    | acuJamLevel module level => exact filterMap_due rfl
    | cmeError source sim memory code => exact filterMap_other rfl
  command_write := by
    intro cmd data items h entry hentry
    have hentry : entry ∈ levelsOf items := hentry
    rw [(decodeTroubles_words h).1] at hentry
    obtain ⟨place, hplace, rfl⟩ := List.mem_map.mp hentry
    exact (levelLayout_command cmd).1 place hplace
  once := by
    intro cmd data items h
    change ((levelsOf items).map Prod.fst).Nodup
    rw [(decodeTroubles_words h).1, readLevels, List.map_map]
    exact (levelLayout_command cmd).2

/-- The panel's codes come with one command, those of the GSM modules with two. -/
def codeCommand : CodeKey → UInt8
  | (.panel, _, _) => 0x21
  | (.gsmModule _, _, memory) => part 0x30 0x31 memory

lemma codeLayout_command (cmd : UInt8) :
    (∀ place ∈ codeLayout cmd, codeCommand place.1 = cmd) ∧
      ((codeLayout cmd).map Prod.fst).Nodup := by
  unfold codeLayout
  cases h : getRules cmd with
  | none => simp
  | some entry =>
    unfold getRules at h
    split at h <;> cases h
    all_goals decide

def cmeErrorsMap : TroubleMap CodeKey UInt16 where
  blank := 0
  contents := SatelState.cmeErrors
  write := fun
    | .cmeError source sim memory code => some ((source, sim, memory), code)
    | _ => none
  event := fun
    | .cmeError source sim code memory => some ((source, sim, memory), code)
    | _ => none
  command := codeCommand
  contents_update := by
    intro emitUnchanged state item
    cases item <;> first | rfl | exact insert_eq_put ..
  event_update := by
    intro emitUnchanged state item
    cases item with
    | flag trouble memory active => exact filterMap_other (by cases memory <;> rfl)
    | acuJamLevel module level => exact filterMap_other rfl
    | cmeError source sim memory code => exact filterMap_due rfl
  command_write := by
    intro cmd data items h entry hentry
    have hentry : entry ∈ codesOf items := hentry
    rw [(decodeTroubles_words h).2] at hentry
    obtain ⟨place, hplace, rfl⟩ := List.mem_map.mp hentry
    exact (codeLayout_command cmd).1 place hplace
  once := by
    intro cmd data items h
    change ((codesOf items).map Prod.fst).Nodup
    rw [(decodeTroubles_words h).2, readCodes, List.map_map]
    exact (codeLayout_command cmd).2

end Maps

/-! ### Runs -/

/-- A call of `update_troubles_internal`, with the configuration it finds. -/
structure TroubleFrame where
  config : Config
  cmd : SatelCommand
  data : Frame

namespace TroubleFrame

/-- The decoded items; none when the frame is rejected. -/
def items (frame : TroubleFrame) : List TroubleItem :=
  match decodeTroubles frame.cmd.toByte frame.data with
  | .ok (.ok items) => items
  | _ => []

def step (state : SatelState) (frame : TroubleFrame) : Updated :=
  troublesStep frame.config state (frame.cmd, frame.data)

lemma step_eq (state : SatelState) (frame : TroubleFrame) :
    frame.step state = updateTroubles frame.config.emitUnchangedTroubles state frame.items := by
  rcases decodeTroubles_flags frame.cmd.toByte frame.data with ⟨-, items, h, -⟩ | ⟨-, h⟩
  · rw [step, troublesStep, updateTroublesInternal, TroubleFrame.items, h]
    rfl
  · rw [step, troublesStep, updateTroublesInternal, TroubleFrame.items, h]
    rfl

/-- The state that a run leaves and the events it sends. -/
def run : SatelState → List TroubleFrame → Updated
  | state, [] => (state, [])
  | state, frame :: frames =>
    let (state₁, events) := frame.step state
    let (state₂, events') := run state₁ frames
    (state₂, events ++ events')

/-- The frames of one command, in order. -/
def ofCommand (cmd : UInt8) (frames : List TroubleFrame) : List TroubleFrame :=
  frames.filter fun frame => frame.cmd.toByte = cmd

end TroubleFrame

namespace TroubleMap
variable {K V : Type} [DecidableEq K] [DecidableEq V] (map : TroubleMap K V)

/-- What a frame writes into the map. -/
def writes (frame : TroubleFrame) : List (Write K V) :=
  (frame.items.filterMap map.write).map fun entry =>
    ⟨entry.1, entry.2, frame.config.emitUnchangedTroubles⟩

def itemWrites (emitUnchanged : Bool) (items : List TroubleItem) : List (Write K V) :=
  (items.filterMap map.write).map fun entry => ⟨entry.1, entry.2, emitUnchanged⟩

/-- The loop over the items is the writes of the items, for each of the maps. -/
lemma updateTroubles_writes (emitUnchanged : Bool) (items : List TroubleItem) (state : SatelState) :
    map.contents (updateTroubles emitUnchanged state items).1 =
        final (map.contents state) (map.itemWrites emitUnchanged items) ∧
      (updateTroubles emitUnchanged state items).2.filterMap map.event =
        announcements map.blank (map.contents state) (map.itemWrites emitUnchanged items) := by
  induction items generalizing state with
  | nil => exact ⟨rfl, rfl⟩
  | cons item items ih =>
    obtain ⟨contents, events⟩ := ih (updateTrouble emitUnchanged state item).1
    have now := map.contents_update emitUnchanged state item
    have told := map.event_update emitUnchanged state item
    cases hwrite : map.write item with
    | none =>
      rw [hwrite] at now told
      have same : map.itemWrites emitUnchanged (item :: items) =
          map.itemWrites emitUnchanged items := by
        simp only [itemWrites, List.filterMap_cons, hwrite]
      rw [same]
      refine ⟨?_, ?_⟩
      · rw [updateTroubles, contents, now]
      · rw [updateTroubles, List.filterMap_append, told, events, now]
        rfl
    | some entry =>
      obtain ⟨key, value⟩ := entry
      rw [hwrite] at now told
      have more : map.itemWrites emitUnchanged (item :: items) =
          ⟨key, value, emitUnchanged⟩ :: map.itemWrites emitUnchanged items := by
        simp only [itemWrites, List.filterMap_cons, hwrite, List.map_cons]
      rw [more]
      refine ⟨?_, ?_⟩
      · rw [updateTroubles, contents, now]
        rfl
      · rw [updateTroubles, List.filterMap_append, told, events, now]
        rfl

/-- A run of frames is the writes of its frames. -/
lemma run_writes (frames : List TroubleFrame) (state : SatelState) :
    map.contents (TroubleFrame.run state frames).1 =
        final (map.contents state) (frames.flatMap map.writes) ∧
      (TroubleFrame.run state frames).2.filterMap map.event =
        announcements map.blank (map.contents state) (frames.flatMap map.writes) := by
  induction frames generalizing state with
  | nil => exact ⟨rfl, rfl⟩
  | cons frame frames ih =>
    obtain ⟨contents, events⟩ := ih (frame.step state).1
    have now := map.updateTroubles_writes frame.config.emitUnchangedTroubles frame.items state
    rw [← frame.step_eq] at now
    have head : map.itemWrites frame.config.emitUnchangedTroubles frame.items = map.writes frame :=
      rfl
    rw [head] at now
    rw [List.flatMap_cons, final_append, announcements_append, ← now.1, ← now.2, ← contents,
      ← events]
    exact ⟨rfl, List.filterMap_append⟩

lemma writes_command (frame : TroubleFrame) :
    ∀ w ∈ map.writes frame, map.command w.key = frame.cmd.toByte := by
  intro w hw
  obtain ⟨entry, hentry, rfl⟩ := List.mem_map.mp hw
  rcases decodeTroubles_flags frame.cmd.toByte frame.data with ⟨-, items, h, -⟩ | ⟨-, h⟩
  · rw [TroubleFrame.items, h] at hentry
    exact map.command_write h entry hentry
  · rw [TroubleFrame.items, h] at hentry
    cases hentry

/-- The events of one key, in order, by their values. -/
def eventsOf (key : K) (events : List SatelEvent) : List V :=
  announcedOf key (events.filterMap map.event)

/-- A key depends on the frames of its command alone. -/
theorem key_of_command (state : SatelState) (key : K) {frames frames' : List TroubleFrame}
    (same : TroubleFrame.ofCommand (map.command key) frames =
      TroubleFrame.ofCommand (map.command key) frames') :
    map.contents (TroubleFrame.run state frames).1 key =
        map.contents (TroubleFrame.run state frames').1 key ∧
      map.eventsOf key (TroubleFrame.run state frames).2 =
        map.eventsOf key (TroubleFrame.run state frames').2 := by
  rw [eventsOf, eventsOf, (map.run_writes frames state).1, (map.run_writes frames state).2,
    (map.run_writes frames' state).1, (map.run_writes frames' state).2]
  have owned := map.writes_command
  exact same_owned_batches owned map.blank (map.contents state) same

/-- The events tell the reader of an empty map what every key reads. -/
theorem follow_events (start : Instant) (frames : List TroubleFrame)
    (empty : map.contents (SatelState.new start) = fun _ => none) :
    follow (fun _ => map.blank)
        ((TroubleFrame.run (SatelState.new start) frames).2.filterMap map.event) =
      reading map.blank (map.contents (TroubleFrame.run (SatelState.new start) frames).1) := by
  obtain ⟨contents, events⟩ := map.run_writes frames (SatelState.new start)
  rw [contents, events, empty]
  exact follow_announcements map.blank (frames.flatMap map.writes) fun _ => none

/-- Two runs leave the same contents, and the same events of every key. -/
def Agree (state : SatelState) (frames frames' : List TroubleFrame) : Prop :=
  map.contents (TroubleFrame.run state frames).1 =
      map.contents (TroubleFrame.run state frames').1 ∧
    ∀ key, map.eventsOf key (TroubleFrame.run state frames).2 =
      map.eventsOf key (TroubleFrame.run state frames').2

lemma agree_of_commands (state : SatelState) {frames frames' : List TroubleFrame}
    (same : ∀ cmd, TroubleFrame.ofCommand cmd frames = TroubleFrame.ofCommand cmd frames') :
    map.Agree state frames frames' := by
  constructor
  · funext key
    exact (map.key_of_command state key (same _)).1
  · intro key
    exact (map.key_of_command state key (same _)).2

/-- No frame writes a key twice. -/
lemma writes_once (frame : TroubleFrame) : ((map.writes frame).map Write.key).Nodup := by
  rw [writes, List.map_map]
  rcases decodeTroubles_flags frame.cmd.toByte frame.data with ⟨-, items, h, -⟩ | ⟨-, h⟩
  · rw [TroubleFrame.items, h]
    exact map.once h
  · rw [TroubleFrame.items, h]
    exact List.nodup_nil

end TroubleMap

lemma ofCommand_swap (pre post : List TroubleFrame) {a b : TroubleFrame} (h : a.cmd ≠ b.cmd)
    (cmd : UInt8) : TroubleFrame.ofCommand cmd (pre ++ a :: b :: post) =
      TroubleFrame.ofCommand cmd (pre ++ b :: a :: post) := by
  have apart : ¬ (a.cmd.toByte = cmd ∧ b.cmd.toByte = cmd) := by
    rintro ⟨ha, hb⟩
    exact h (SatelCommand.toByte_injective (ha.trans hb.symm))
  simp only [TroubleFrame.ofCommand, List.filter_append, List.filter_cons]
  by_cases ha : a.cmd.toByte = cmd
  · have hb : ¬ b.cmd.toByte = cmd := fun hb => apart ⟨ha, hb⟩
    simp [ha, hb]
  · simp [ha]

/-- The three maps, and the events of each key, depend for every command on its own frames alone,
so frames of different commands may be swapped; no frame writes a key twice; and a reader of
three blank maps who follows the events holds what the cache holds. -/
theorem troubles_commute_and_replay :
    (∀ state frames frames',
      (∀ cmd, TroubleFrame.ofCommand cmd frames = TroubleFrame.ofCommand cmd frames') →
        troubleFlagsMap.Agree state frames frames' ∧ acuJamLevelsMap.Agree state frames frames' ∧
          cmeErrorsMap.Agree state frames frames') ∧
    (∀ state pre post a b, a.cmd ≠ b.cmd →
      troubleFlagsMap.Agree state (pre ++ a :: b :: post) (pre ++ b :: a :: post) ∧
        acuJamLevelsMap.Agree state (pre ++ a :: b :: post) (pre ++ b :: a :: post) ∧
        cmeErrorsMap.Agree state (pre ++ a :: b :: post) (pre ++ b :: a :: post)) ∧
    (∀ frame, ((troubleFlagsMap.writes frame).map Write.key).Nodup ∧
      ((acuJamLevelsMap.writes frame).map Write.key).Nodup ∧
      ((cmeErrorsMap.writes frame).map Write.key).Nodup) ∧
    (∀ start frames,
      let (state, events) := TroubleFrame.run (SatelState.new start) frames
      follow (fun _ => false) (events.filterMap troubleFlagsMap.event) =
          reading false state.troubleFlags ∧
        follow (fun _ => 0) (events.filterMap acuJamLevelsMap.event) =
          reading 0 state.acuJamLevels ∧
        follow (fun _ => 0) (events.filterMap cmeErrorsMap.event) =
          reading 0 state.cmeErrors) := by
  refine ⟨?_, ?_, ?_, ?_⟩
  · intro state frames frames' same
    exact ⟨troubleFlagsMap.agree_of_commands state same, acuJamLevelsMap.agree_of_commands state same,
      cmeErrorsMap.agree_of_commands state same⟩
  · intro state pre post a b h
    have same := ofCommand_swap pre post h
    exact ⟨troubleFlagsMap.agree_of_commands state same, acuJamLevelsMap.agree_of_commands state same,
      cmeErrorsMap.agree_of_commands state same⟩
  · intro frame
    exact ⟨troubleFlagsMap.writes_once frame, acuJamLevelsMap.writes_once frame,
      cmeErrorsMap.writes_once frame⟩
  · intro start frames
    exact ⟨troubleFlagsMap.follow_events start frames rfl, acuJamLevelsMap.follow_events start frames rfl,
      cmeErrorsMap.follow_events start frames rfl⟩

/-- A frame of troubles and a frame of trouble memory may come in either order. -/
theorem troubles_commute_part1 :
    troubleFlagsMap.Agree (SatelState.new 0)
      ([] ++ ⟨{}, .troublesPart1, List.replicate 47 0xFF⟩ ::
        ⟨{}, .troublesMemoryPart1, List.replicate 47 0x0F⟩ :: [])
      ([] ++ ⟨{}, .troublesMemoryPart1, List.replicate 47 0x0F⟩ ::
        ⟨{}, .troublesPart1, List.replicate 47 0xFF⟩ :: []) :=
  (troubles_commute_and_replay.2.1 (SatelState.new 0) [] [] ⟨{}, .troublesPart1, _⟩
    ⟨{}, .troublesMemoryPart1, _⟩ (by decide)).1

end SatelIntegra
