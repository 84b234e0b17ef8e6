import SatelIntegra.SessionKeys
import SatelIntegra.WorkerInvariants
import SatelIntegra.WorkerLedger

/-!
# Encrypted sessions stay encrypted

The worker reads the connection, the encryption and the key one after the other, and other
tasks may change the configuration in between. A hot reload keeps all three, and a full
reload stores an accepted configuration: as long as these ask for encryption, what is read
may be a mixture, but no mixture opens a stream in plaintext.
-/

namespace SatelIntegra

open CheckedAccess ProgramLogic SatelConnectionWorker

/-- The panel is reached over TCP, with encryption and a key. -/
structure Config.Sealed (c : Config) : Prop where
  encrypted : c.encryption = true
  keyed : c.integrationKey ≠ none
  tcp : c.connection.isUart = false

lemma Config.sealed_of_valid {c : Config} (valid : c.validate = .ok ())
    (encrypted : c.encryption = true) : c.Sealed := by
  obtain ⟨key, accepted⟩ := acceptedKey valid encrypted
  refine ⟨encrypted, ?_, accepted.tcp⟩
  rw [accepted.set]
  exact Option.some_ne_none key

lemma Config.Sealed.keepConnection {old : Config} (h : old.Sealed) (newConfig : Config) :
    (newConfig.keepConnection old).Sealed :=
  ⟨h.encrypted, h.keyed, h.tcp⟩

/-- The three parts may come from three configurations. -/
lemma openedStream_sealed {c c' c'' : Config} (h : c.Sealed) (h' : c'.Sealed) (h'' : c''.Sealed)
    {outcome : OpenOutcome} {stream : FramedStream}
    (opened : openedStream c.connection c'.encryption c''.integrationKey outcome = .ok stream) :
    stream.encrypted = true := by
  have tcp := h.tcp
  rw [h'.encrypted] at opened
  cases connection : c.connection with
  | uart path baudRate =>
    rw [connection] at tcp
    cases tcp
  | tcp host port =>
    rw [connection] at opened
    cases outcome with
    | timedOut => cases opened
    | failed => cases opened
    | opened =>
      cases key : c''.integrationKey with
      | none => exact absurd key h''.keyed
      | some text =>
        rw [key] at opened
        cases opened
        rfl

/-- A configuration that a full reload stores is sealed. -/
def Outside.Sealed : Outside → Prop
  | .storeConfig config => config.Sealed
  | _ => True

structure World.Sealed (w : World) : Prop where
  config : w.config.Sealed
  stream : ∀ stream, w.stream = some stream → stream.encrypted = true
  outside : ∀ acts ∈ w.outside, ∀ act ∈ acts, act.Sealed

section Steps
variable {w : World}

lemma World.Sealed.act (h : w.Sealed) {o : Outside} (stored : o.Sealed) : (w.act o).Sealed := by
  cases o with
  | storeConfig config => exact ⟨stored, h.stream, h.outside⟩
  | hotReload newConfig => exact ⟨h.config.keepConnection newConfig, h.stream, h.outside⟩
  | _ => exact ⟨h.config, h.stream, h.outside⟩

lemma World.Sealed.acts (h : w.Sealed) {acts : List Outside} (stored : ∀ act ∈ acts, act.Sealed) :
    (acts.foldl World.act w).Sealed := by
  induction acts generalizing w with
  | nil => exact h
  | cons act acts ih =>
    have next := h.act (stored act List.mem_cons_self)
    exact ih next fun later mem => stored later (List.mem_cons_of_mem _ mem)

lemma World.Sealed.interleave (h : w.Sealed) : w.interleave.Sealed := by
  unfold World.interleave
  cases acts : w.outside with
  | nil => exact h
  | cons acts' later =>
    have stored := h.outside
    rw [acts] at stored
    have taken : ({ w with outside := later } : World).Sealed :=
      ⟨h.config, h.stream, fun acts mem => stored acts (List.mem_cons_of_mem _ mem)⟩
    exact taken.acts (stored acts' List.mem_cons_self)

lemma World.Sealed.issue (h : w.Sealed) {stream : FramedStream} (hstream : w.stream = some stream)
    (data : Frame) : ({ w with stream := some (stream.issue data) } : World).Sealed := by
  refine ⟨h.config, ?_, h.outside⟩
  rintro _ ⟨⟩
  exact h.stream stream hstream

lemma World.Sealed.detach (h : w.Sealed) : ({ w with stream := none } : World).Sealed := by
  refine ⟨h.config, ?_, h.outside⟩
  rintro _ ⟨⟩

lemma enduring_sealed : Enduring World.Sealed where
  interleave _ h := h.interleave
  telemetry _ _ _ h := ⟨h.config, h.stream, h.outside⟩
  waited _ _ _ _ _ h := ⟨h.config, h.stream, h.outside⟩
  pings _ _ h := ⟨h.config, h.stream, h.outside⟩
  report _ _ _ h := ⟨h.config, h.stream, h.outside⟩
  issue _ _ data _ hstream h := h.issue hstream data
  lose w h := by
    have dropped : ({ w with stream := none, consecutiveMissedPings := 0 } : World).Sealed :=
      ⟨h.config, h.detach.stream, h.outside⟩
    have later := dropped.interleave
    exact ⟨later.config, later.stream, later.outside⟩

/-- Whatever changes between the reads, the stream is encrypted. -/
lemma connectPhysical_sealed (connTimeout : Duration) (h : w.Sealed) :
    IfEnds (connectPhysical connTimeout)
      (fun r w' => ∀ stream, r = .ok stream → ({ w' with stream := some stream } : World).Sealed)
      w := by
  have connection := h.interleave
  have encryption := connection.interleave
  have integrationKey := encryption.interleave
  unfold connectPhysical
  simp only [IfEnds, wp_bind, wp_readConfig]
  refine wp_imp (enduring_sealed.awaitOpen connTimeout _ integrationKey) ?_
  intro outcome w' kept stream opened
  refine ⟨kept.config, ?_, kept.outside⟩
  rintro _ ⟨⟩
  exact openedStream_sealed connection.config encryption.config integrationKey.config opened

lemma standing_sealed : Standing World.Sealed where
  toEnduring := enduring_sealed
  write _ _ h := ⟨h.config, h.stream, h.outside⟩
  mark _ _ h := ⟨h.config, h.stream, h.outside⟩
  tell _ _ h := ⟨h.config, h.stream, h.outside⟩
  ask _ _ data hstream h := h.issue hstream data
  detach _ h := h.detach
  attach connTimeout _ h := connectPhysical_sealed connTimeout h

end Steps

/-- A worker that starts with an accepted, encrypted configuration never holds a stream in
plaintext, whatever is reloaded and when, as long as full reloads ask for encryption too. -/
theorem sessions_sealed (first : Turn) (turns : List Turn) (config : Config) (clock : Instant)
    (wall : LocalTime) (valid : config.validate = .ok ()) (encrypted : config.encryption = true)
    (stored : ∀ turn ∈ first :: turns, ∀ acts ∈ turn.outside, ∀ c, .storeConfig c ∈ acts →
      c.validate = .ok () ∧ c.encryption = true) :
    IfEnds (run first turns)
      (fun _ w => w.config.Sealed ∧ ∀ stream, w.stream = some stream → stream.encrypted = true)
      (.new config clock wall) := by
  have fresh : (World.new config clock wall).Sealed := by
    refine ⟨Config.sealed_of_valid valid encrypted, ?_, ?_⟩
    · rintro _ ⟨⟩
    · rintro _ ⟨⟩
  refine wp_imp (standing_sealed.run first ?_ _ fresh) fun _ w h => ⟨h.config, h.stream⟩
  intro turn mem w h
  refine ⟨h.config, h.stream, ?_⟩
  intro acts hacts act hact
  cases act with
  | storeConfig c =>
    obtain ⟨accepted, asked⟩ := stored turn mem acts hacts c hact
    exact Config.sealed_of_valid accepted asked
  | _ => trivial

/-- Between the reads of the first attempt one client stores another key, and another one tries
to reload a configuration without encryption. -/
def reloadingTurn : Turn :=
  { connectingTurn with
    outside :=
      [[], [], [], [.storeConfig { encryption := true, integrationKey := some "other key" }],
        [.hotReload {}]] }

example :
    ((run reloadingTurn []).run
        (.new { encryption := true, integrationKey := some "key" } 0 ⟨0, Nat.zero_le _⟩)).toOption.map
      (fun out => (out.2.stream.map (·.encrypted), out.2.config.integrationKey)) =
    some (some true, some "other key") := by
  decide

attribute [local irreducible] run

theorem sessions_sealed_reloading :
    IfEnds (run reloadingTurn [connectingTurn])
      (fun _ w => w.config.Sealed ∧ ∀ stream, w.stream = some stream → stream.encrypted = true)
      (.new { encryption := true, integrationKey := some "key" } 0 ⟨0, Nat.zero_le _⟩) := by
  refine sessions_sealed reloadingTurn [connectingTurn] _ 0 _ rfl rfl ?_
  intro turn mem acts hacts c hc
  have known : c = { encryption := true, integrationKey := some "other key" } := by
    rcases List.mem_cons.mp mem with rfl | mem
    · simp only [reloadingTurn, List.mem_cons, List.not_mem_nil, or_false] at hacts
      rcases hacts with rfl | rfl | rfl | rfl | rfl <;> simp at hc
      exact hc
    · obtain rfl := List.mem_singleton.mp mem
      simp [connectingTurn, promptTurn] at hacts
  rw [known]
  exact ⟨rfl, rfl⟩

end SatelIntegra
