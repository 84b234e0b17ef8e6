import Mathlib.Data.List.Perm.Basic
import SatelIntegra.CacheLog

/-!
# Two ways to the cache

The worker hands a frame either to the auto-requester's channel, which is a queue,
or to the client that asked for it. The two kinds of task then apply what they
hold in any order. A cached flag is the one shown by the frame applied last, which
need not be the newest: nothing orders a reply against the frames in the channel.
-/

namespace SatelIntegra

open CheckedAccess ObservedCell

/-- A frame off the wire, with its place among the frames taken. -/
structure Message where
  position : Nat
  application : Application

def Application.unsolicited : Application → Bool
  | .auto _ => true
  | _ => false

structure Delivery where
  cache : SatelState
  /-- Everything taken off the wire so far, in that order. -/
  taken : List Message := []
  /-- The channel of the auto-requester. -/
  queue : List Message := []
  /-- Replies held by clients. -/
  replies : List Message := []
  /-- What was applied so far, in that order, and when. -/
  applied : List (Message × Clock) := []

inductive Move where
  | takeFrame (frame : Frame)
  | takeReply (category : Category) (emitAll : Bool) (frame : Frame)
  | autoApply (clock : Clock)
  | clientApply (client : Nat) (clock : Clock)

namespace Delivery

def next (d : Delivery) (application : Application) : Message :=
  { position := d.taken.length, application }

def apply (config : Config) (clock : Clock) (d : Delivery) (m : Message) :
    Except Panic Delivery := do
  let (cache, _) ← m.application.apply config clock d.cache
  return { d with cache, applied := d.applied ++ [(m, clock)] }

/-- A task with nothing to apply does nothing. -/
def move (config : Config) (d : Delivery) : Move → Except Panic Delivery
  | .takeFrame frame =>
    let m := d.next (.auto frame)
    .ok { d with taken := d.taken ++ [m], queue := d.queue ++ [m] }
  | .takeReply category emitAll frame =>
    let m := d.next (if emitAll then .refresh category frame else .get category frame)
    .ok { d with taken := d.taken ++ [m], replies := d.replies ++ [m] }
  | .autoApply clock =>
    match d.queue with
    | [] => .ok d
    | m :: queue => apply config clock { d with queue } m
  | .clientApply client clock =>
    match d.replies[client]? with
    | none => .ok d
    | some m => apply config clock { d with replies := d.replies.eraseIdx client } m

def moves (config : Config) (d : Delivery) (ms : List Move) : Except Panic Delivery :=
  ms.foldlM (move config) d

def appliedRun (d : Delivery) : List (Application × Clock) :=
  d.applied.map fun (m, clock) => (m.application, clock)

def appliedMessages (d : Delivery) : List Message := d.applied.map Prod.fst

/-- Messages are neither lost nor repeated, and the channel keeps the order of the wire. -/
structure Sound (config : Config) (d : Delivery) : Prop where
  tracks : ∃ log, Tracks config d.appliedRun d.cache log
  perm : (d.appliedMessages ++ d.queue ++ d.replies).Perm d.taken
  fifo : d.appliedMessages.filter (·.application.unsolicited) ++ d.queue =
    d.taken.filter (·.application.unsolicited)
  solicited : ∀ m ∈ d.replies, m.application.unsolicited = false

lemma sound_new (config : Config) (start : Instant) :
    Sound config { cache := SatelState.new start } :=
  ⟨⟨[], tracks_nil config start⟩, .refl _, rfl, by simp⟩

/-- Applying a message succeeds, and appends it to what was applied. -/
lemma apply_ok {config : Config} {d : Delivery} (h : ∃ log, Tracks config d.appliedRun d.cache log)
    (clock : Clock) (m : Message) :
    ∃ cache, apply config clock d m =
        .ok { d with cache, applied := d.applied ++ [(m, clock)] } ∧
      ∃ log, Tracks config (d.appliedRun ++ [(m.application, clock)]) cache log := by
  obtain ⟨log, htracks⟩ := h
  obtain ⟨cache, events, happly, htracks', -⟩ := htracks.step m.application clock
  refine ⟨cache, ?_, log ++ events, htracks'⟩
  rw [apply, happly]
  rfl

lemma eraseIdx_perm {α : Type} {xs : List α} {i : Nat} {x : α} (h : xs[i]? = some x) :
    xs.Perm (x :: xs.eraseIdx i) := by
  obtain ⟨inside, rfl⟩ := List.getElem?_eq_some_iff.mp h
  exact (List.getElem_cons_eraseIdx_perm inside).symm

theorem move_sound {config : Config} {d : Delivery} (h : Sound config d) (mv : Move) :
    ∃ d', move config d mv = .ok d' ∧ Sound config d' := by
  cases mv with
  | takeFrame frame =>
    refine ⟨_, rfl, h.tracks, ?_, ?_, h.solicited⟩
    · have := (h.perm.append_right [d.next (.auto frame)])
      refine List.Perm.trans ?_ this
      simp only [appliedMessages, List.append_assoc]
      exact .append_left _ (.append_left _ List.perm_append_comm)
    · have auto : [d.next (.auto frame)].filter (·.application.unsolicited) =
          [d.next (.auto frame)] := rfl
      rw [List.filter_append, auto, ← h.fifo, List.append_assoc]
      rfl
  | takeReply category emitAll frame =>
    have reply : (if emitAll then Application.refresh category frame
        else .get category frame).unsolicited = false := by
      cases emitAll <;> rfl
    refine ⟨_, rfl, h.tracks, ?_, ?_, ?_⟩
    · rw [← List.append_assoc]
      exact h.perm.append_right _
    · rw [List.filter_append, ← h.fifo]
      simp [next, reply, appliedMessages]
    · intro m hm
      rcases List.mem_append.mp hm with hm | hm
      · exact h.solicited m hm
      · cases List.mem_singleton.mp hm
        exact reply
  | autoApply clock =>
    cases hq : d.queue with
    | nil => exact ⟨d, by simp [move, hq], h⟩
    | cons m queue =>
      have perm := h.perm
      have fifo := h.fifo
      have auto : m.application.unsolicited = true := by
        have : m ∈ d.taken.filter (·.application.unsolicited) := by
          rw [← fifo, hq]
          simp
        exact (List.mem_filter.mp this).2
      obtain ⟨cache, happly, htracks⟩ := apply_ok (d := { d with queue }) h.tracks clock m
      have moved : move config d (.autoApply clock) =
          .ok { d with queue, cache, applied := d.applied ++ [(m, clock)] } := by
        simp only [move, hq]
        exact happly
      refine ⟨_, moved, ?_, ?_, ?_, h.solicited⟩
      · simpa [appliedRun] using htracks
      · rw [hq] at perm
        simpa [appliedMessages] using perm
      · rw [hq] at fifo
        simpa [appliedMessages, auto] using fifo
  | clientApply client clock =>
    cases hr : d.replies[client]? with
    | none => exact ⟨d, by simp [move, hr], h⟩
    | some m =>
      have reply := h.solicited m (List.mem_of_getElem? hr)
      obtain ⟨cache, happly, htracks⟩ := apply_ok
        (d := { d with replies := d.replies.eraseIdx client }) h.tracks clock m
      have moved : move config d (.clientApply client clock) = .ok { d with
          replies := d.replies.eraseIdx client, cache, applied := d.applied ++ [(m, clock)] } := by
        simp only [move, hr]
        exact happly
      refine ⟨_, moved, ?_, ?_, ?_, ?_⟩
      · simpa [appliedRun] using htracks
      · refine List.Perm.trans ?_ h.perm
        have pick := List.Perm.append_left (d.appliedMessages ++ d.queue) (eraseIdx_perm hr).symm
        refine List.Perm.trans ?_ pick
        simp only [appliedMessages, List.map_append, List.map_cons, List.map_nil,
          List.append_assoc]
        refine .append_left _ ?_
        simpa using List.perm_middle.symm
      · have fifo := h.fifo
        simpa [appliedMessages, reply] using fifo
      · intro m' hm'
        exact h.solicited m' (List.mem_of_mem_eraseIdx hm')

theorem moves_sound (config : Config) (ms : List Move) {d : Delivery} (h : Sound config d) :
    ∃ d', moves config d ms = .ok d' ∧ Sound config d' := by
  induction ms generalizing d with
  | nil => exact ⟨d, rfl, h⟩
  | cons mv ms ih =>
    obtain ⟨d₁, hmove, h₁⟩ := move_sound h mv
    obtain ⟨d₂, hmoves, h₂⟩ := ih h₁
    refine ⟨d₂, ?_, h₂⟩
    rw [moves, List.foldlM_cons, hmove]
    exact hmoves

/-- What messages show at an index, in their order. -/
def shown (config : Config) (category : Category) (i : Nat) (ms : List Message) : List Bool :=
  ms.filterMap fun m => m.application.shows category config i

lemma history_appliedRun (config : Config) (category : Category) (i : Nat) (d : Delivery) :
    history config category i d.appliedRun = shown config category i d.appliedMessages := by
  simp [history, shown, appliedRun, appliedMessages, List.filterMap_map]

/-- `m` shows `value` at the index, and no later message of the list shows anything there. -/
def Newest (config : Config) (category : Category) (i : Nat) (ms : List Message) (m : Message)
    (value : Bool) : Prop :=
  ∃ pre post, ms = pre ++ m :: post ∧ m.application.shows category config i = some value ∧
    ∀ m' ∈ post, m'.application.shows category config i = none

lemma Newest.shown {config : Config} {category : Category} {i : Nat} {ms : List Message}
    {m : Message} {value : Bool} (h : Newest config category i ms m value) (default : Bool) :
    (shown config category i ms).getLastD default = value := by
  obtain ⟨pre, post, rfl, hm, hpost⟩ := h
  have silent : post.filterMap (fun m => m.application.shows category config i) = [] :=
    List.filterMap_eq_nil_iff.mpr hpost
  simp [Delivery.shown, hm, silent]

lemma shown_cons (config : Config) (category : Category) (i : Nat) (m : Message)
    (ms : List Message) : shown config category i (m :: ms) =
      (m.application.shows category config i).toList ++ shown config category i ms := by
  cases h : m.application.shows category config i <;> simp [shown, h]

/-- Only the unsolicited messages matter where no reply shows anything. -/
lemma shown_unsolicited {config : Config} {category : Category} {i : Nat} {ms : List Message}
    (h : ∀ m ∈ ms, m.application.unsolicited = false →
      m.application.shows category config i = none) :
    shown config category i (ms.filter (·.application.unsolicited)) =
      shown config category i ms := by
  induction ms with
  | nil => rfl
  | cons m ms ih =>
    have rest := ih fun m' hm' => h m' (List.mem_cons_of_mem m hm')
    cases hm : m.application.unsolicited with
    | true =>
      have kept : (m :: ms).filter (·.application.unsolicited) =
          m :: ms.filter (·.application.unsolicited) := by simp [hm]
      rw [kept, shown_cons, shown_cons, rest]
    | false =>
      have dropped : (m :: ms).filter (·.application.unsolicited) =
          ms.filter (·.application.unsolicited) := by simp [hm]
      rw [dropped, shown_cons, h m List.mem_cons_self hm, rest]
      rfl

end Delivery

open Delivery

/-- Once nothing is in flight, a cached flag is the one shown by the message applied last. It is
the newest one if that was applied after all others that show the flag, and so it is if all
of those were unsolicited. -/
theorem cache_is_last_applied (config : Config) (start : Instant) (ms : List Move) :
    ∃ d, moves config { cache := SatelState.new start } ms = .ok d ∧
      (d.queue = [] → d.replies = [] →
        ∀ (category : Category) (i : Nat) (m : Message) (value : Bool),
          i < category.capacity → Newest config category i d.taken m value →
            ∃ cell, category.cell d.cache i = some cell ∧
              d.appliedMessages.Perm d.taken ∧
              cell.value = (shown config category i d.appliedMessages).getLastD false ∧
              (Newest config category i d.appliedMessages m value → cell.value = value) ∧
              ((∀ m' ∈ d.taken, m'.application.shows category config i ≠ none →
                m'.application.unsolicited = true) → cell.value = value)) := by
  obtain ⟨d, hmoves, hsound⟩ := moves_sound config ms (sound_new config start)
  refine ⟨d, hmoves, ?_⟩
  intro hqueue hreplies category i m value hi newest
  obtain ⟨log, htracks⟩ := hsound.tracks
  obtain ⟨cell, hcell, hfollows⟩ := htracks.follows category i hi
  have perm : d.appliedMessages.Perm d.taken := by
    simpa [hqueue, hreplies] using hsound.perm
  have last : cell.value = (shown config category i d.appliedMessages).getLastD false := by
    rw [hfollows.value, history_appliedRun]
  refine ⟨cell, hcell, perm, last, ?_, ?_⟩
  · intro applied_last
    rw [last, applied_last.shown]
  · intro unsolicited
    have hidden : ∀ m' ∈ d.taken, m'.application.unsolicited = false →
        m'.application.shows category config i = none := by
      intro m' hm' reply
      by_contra shows
      rw [unsolicited m' hm' shows] at reply
      cases reply
    have fifo : d.appliedMessages.filter (·.application.unsolicited) =
        d.taken.filter (·.application.unsolicited) := by
      simpa [hqueue] using hsound.fifo
    rw [last, ← shown_unsolicited fun m' hm' => hidden m' (perm.mem_iff.mp hm'), fifo,
      shown_unsolicited hidden, newest.shown]

section Overtaking

def violated : Frame := 0x00 :: 0x01 :: List.replicate 15 0x00

def quiet : Frame := 0x00 :: List.replicate 16 0x00

def atOnce : Clock := { now := ⟨0, by decide⟩, single := fun _ _ _ _ _ _ => none }

/-- Zone 1 is pushed as violated, then read as quiet; the reply is applied first. -/
def overtaking : List Move :=
  [.takeFrame violated, .takeReply (.zones .violation) false quiet, .clientApply 0 atOnce,
    .autoApply atOnce]

/-- Nothing is in flight, the newest frame shows zone 1 as quiet, the cache has it violated. -/
theorem reply_overtaken : ∃ d, moves {} { cache := SatelState.new 0 } overtaking = .ok d ∧
    d.queue = [] ∧ d.replies = [] ∧
    (d.taken.getLast?.bind fun m => m.application.shows (.zones .violation) {} 0) = some false ∧
    ((Category.zones .violation).cell d.cache 0).map (·.value) = some true := by
  refine ⟨_, rfl, rfl, rfl, ?_, ?_⟩
  · decide
  · decide

/-- Afterwards zone 1 is pushed as quiet. -/
def caughtUpWith : List Move := overtaking ++ [.takeFrame quiet, .autoApply atOnce]

def cellAfter (ms : List Move) : Option FlagCell :=
  (moves {} { cache := SatelState.new 0 } ms).toOption.bind fun d =>
    (Category.zones .violation).cell d.cache 0

/-- The push is applied behind the reply and stays, until a later push is applied behind it. -/
theorem cache_is_last_applied_reordered :
    (∃ cell, cellAfter overtaking = some cell ∧ cell.value = true) ∧
      ∃ cell, cellAfter caughtUpWith = some cell ∧ cell.value = false := by
  constructor
  · obtain ⟨d, hmoves, h⟩ := cache_is_last_applied {} 0 overtaking
    have hd : d.queue = [] ∧ d.replies = [] ∧
        d.taken = [⟨0, .auto violated⟩, ⟨1, .get (.zones .violation) quiet⟩] ∧
        d.appliedMessages = [⟨1, .get (.zones .violation) quiet⟩, ⟨0, .auto violated⟩] := by
      cases hmoves
      exact ⟨rfl, rfl, rfl, rfl⟩
    obtain ⟨queue, replies, taken, applied⟩ := hd
    have newest : Newest {} (.zones .violation) 0 d.taken ⟨1, .get (.zones .violation) quiet⟩
        false :=
      ⟨[_], [], taken, by decide, by simp⟩
    obtain ⟨cell, hcell, -, last, -, -⟩ :=
      h queue replies (.zones .violation) 0 _ false (by decide) newest
    refine ⟨cell, by rw [cellAfter, hmoves]; exact hcell, ?_⟩
    rw [last, applied]
    decide
  · obtain ⟨d, hmoves, h⟩ := cache_is_last_applied {} 0 caughtUpWith
    have hd : d.queue = [] ∧ d.replies = [] ∧
        d.taken = [⟨0, .auto violated⟩, ⟨1, .get (.zones .violation) quiet⟩, ⟨2, .auto quiet⟩] ∧
        d.appliedMessages =
          [⟨1, .get (.zones .violation) quiet⟩, ⟨0, .auto violated⟩, ⟨2, .auto quiet⟩] := by
      cases hmoves
      exact ⟨rfl, rfl, rfl, rfl⟩
    obtain ⟨queue, replies, taken, applied⟩ := hd
    have shows : (Application.auto quiet).shows (.zones .violation) {} 0 = some false := by
      decide
    have newest : Newest {} (.zones .violation) 0 d.taken ⟨2, .auto quiet⟩ false :=
      ⟨[_, _], [], taken, shows, by simp⟩
    obtain ⟨cell, hcell, -, -, applied_last, -⟩ :=
      h queue replies (.zones .violation) 0 _ false (by decide) newest
    refine ⟨cell, by rw [cellAfter, hmoves]; exact hcell, applied_last ?_⟩
    exact ⟨[_, _], [], applied, shows, by simp⟩

end Overtaking

end SatelIntegra
