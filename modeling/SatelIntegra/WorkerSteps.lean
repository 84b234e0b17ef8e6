import SatelIntegra.Worker

/-!
# What the steps of the worker leave alone

The later results read only `Core` of a worker: status, session, counters of
sessions, whether there is a stream, and the clocks. Sending, receiving and
counting frames do not touch it; other tasks and a lost connection do. A property
of the core that other tasks keep is carried through every wait of the worker.
-/

namespace SatelIntegra

open CheckedAccess ProgramLogic SatelConnectionWorker

structure Core where
  status : ConnectionStatus
  connectedSince : Option LocalTime
  totalConnectedBefore : Duration
  connectionsEstablished : UInt64
  connectionsLost : UInt64
  attached : Bool
  wall : LocalTime
  timeConnected : Duration
  clockTurnedBack : Bool
  resets : Nat

def World.core (w : World) : Core where
  status := w.telemetry.status
  connectedSince := w.telemetry.connectedSince
  totalConnectedBefore := w.telemetry.totalConnectedBefore
  connectionsEstablished := w.telemetry.connectionsEstablished
  connectionsLost := w.telemetry.connectionsLost
  attached := w.stream.isSome
  wall := w.wall
  timeConnected := w.timeConnected
  clockTurnedBack := w.clockTurnedBack
  resets := w.resets

section Accesses
variable {α : Type} {Q : α → World → Prop} {E : Panic → Prop} {w : World}

@[simp] lemma wp_readConfig {Q : Config → World → Prop} :
    wp readConfig Q E w ↔ Q w.interleave.config w.interleave := Iff.rfl

@[simp] lemma wp_readState {Q : SatelState → World → Prop} :
    wp readState Q E w ↔ Q w.interleave.state w.interleave := Iff.rfl

@[simp] lemma wp_readTelemetry {Q : ConnectionTelemetry → World → Prop} :
    wp readTelemetry Q E w ↔ Q w.interleave.telemetry w.interleave := Iff.rfl

@[simp] lemma wp_updateTelemetry {Q : Unit → World → Prop}
    (f : World → ConnectionTelemetry → ConnectionTelemetry) :
    wp (updateTelemetry f) Q E w ↔ Q () (w.interleave.mapTelemetry (f w.interleave)) := Iff.rfl

@[simp] lemma wp_localNow {Q : LocalTime → World → Prop} :
    wp localNow Q E w ↔ Q w.interleave.wall w.interleave := Iff.rfl

@[simp] lemma wp_swapAutoReadDirty {Q : Bool → World → Prop} (dirty : Bool) :
    wp (swapAutoReadDirty dirty) Q E w ↔
      Q w.interleave.autoReadDirty { w.interleave with autoReadDirty := dirty } := Iff.rfl

@[simp] lemma wp_elapsedSince {Q : Duration → World → Prop} (start : Instant) :
    wp (elapsedSince start) Q E w ↔ Q (w.clock - start) w := Iff.rfl

@[simp] lemma wp_sleep {Q : Unit → World → Prop} (duration : Duration) :
    wp (sleep duration) Q E w ↔ Q () { w with clock := w.clock + duration } := Iff.rfl

@[simp] lemma wp_notifyStateWorker {Q : Unit → World → Prop} (msg : StateWorkerMessage) :
    wp (notifyStateWorker msg) Q E w ↔
      Q () { w with stateWorkerTx := w.stateWorkerTx.map (· ++ [msg]) } := Iff.rfl

end Accesses

/-- A property of the core that other tasks keep. -/
structure Steady (P : Core → Prop) : Prop where
  act : ∀ (w : World) (o : Outside), P w.core → P (w.act o).core

/-- Whether there is a stream, and the state it is in, are the worker's alone. -/
lemma steady_status (p : ConnectionState → Bool → Prop) :
    Steady fun c => p c.status.state c.attached where
  act w o h := by cases o <;> exact h

lemma Steady.acts {P : Core → Prop} (hP : Steady P) (acts : List Outside) {w : World}
    (h : P w.core) : P (acts.foldl World.act w).core := by
  induction acts generalizing w with
  | nil => exact h
  | cons o acts ih => exact ih (hP.act w o h)

lemma Steady.interleave {P : Core → Prop} (hP : Steady P) {w : World} (h : P w.core) :
    P w.interleave.core := by
  unfold World.interleave
  cases w.outside with
  | nil => exact h
  | cons acts later => exact hP.acts acts (w := { w with outside := later }) h

/-- As far as the core can tell, only other tasks ran between `w` and `w'`. -/
def Onward (w w' : World) : Prop := ∀ P, Steady P → P w.core → P w'.core

namespace Onward
variable {w w' w'' : World}

lemma of_core (h : w'.core = w.core) : Onward w w' := by
  intro P _ hP
  rw [h]
  exact hP

lemma refl (w : World) : Onward w w := of_core rfl

lemma trans (h : Onward w w') (h' : Onward w' w'') : Onward w w'' :=
  fun P hP hw => h' P hP (h P hP hw)

lemma interleave (w : World) : Onward w w.interleave := fun _ hP h => hP.interleave h

/-- Counting frames and errors does not show in the core. -/
lemma count (w : World) {f : ConnectionTelemetry → ConnectionTelemetry}
    (hf : ∀ u : World, (u.mapTelemetry f).core = u.core) :
    Onward w (w.interleave.mapTelemetry f) :=
  (interleave w).trans (of_core (hf _))

/-- The same after a step of the worker that does not show in the core. -/
lemma count_of (h : w'.core = w.core) {f : ConnectionTelemetry → ConnectionTelemetry}
    (hf : ∀ u : World, (u.mapTelemetry f).core = u.core) :
    Onward w (w'.interleave.mapTelemetry f) :=
  (of_core h).trans (count w' hf)

lemma attached (h : Onward w w') (hs : w.stream.isSome) : w'.stream.isSome :=
  h (fun c => c.attached = true) (steady_status fun _ a => a = true) hs

lemma state_eq (h : Onward w w') : w'.connectionState = w.connectionState :=
  h (fun c => c.status.state = w.connectionState)
    (steady_status fun s _ => s = w.connectionState) rfl

end Onward

/-- What `connection_lost` makes of the worker. -/
def World.lose (w : World) : World :=
  let w := { w with stream := none, consecutiveMissedPings := 0 }.interleave
  { w.mapTelemetry (enterConnectionLost w) with
    stateWorkerTx := w.stateWorkerTx.map (· ++ [.statusChanged .connectionLost]) }

@[simp] lemma wp_connectionLost {Q : Unit → World → Prop} {E : Panic → Prop} {w : World} :
    wp connectionLost Q E w ↔ Q () w.lose := Iff.rfl

/-- The connection was given up on the way from `w` to `w'`. -/
def Torn (w w' : World) : Prop := ∃ u, Onward w u ∧ w' = u.lose

/-- A failed exchange leaves the connection as it was, or gives it up. -/
def Failed (w w' : World) : Prop := Onward w w' ∨ Torn w w'

lemma Failed.of_onward {w w' w'' : World} (h : Onward w w') (h' : Failed w' w'') :
    Failed w w'' := by
  rcases h' with kept | ⟨u, hu, hlose⟩
  · exact .inl (h.trans kept)
  · exact .inr ⟨u, h.trans hu, hlose⟩

/-- What no action of another task changes is the same at the worker's next access. -/
lemma interleave_same {β : Type} (part : World → β) (kept : ∀ w o, part (w.act o) = part w)
    (later : ∀ w outside, part { w with outside := outside } = part w) (w : World) :
    part w.interleave = part w := by
  have fold (acts : List Outside) (u : World) : part (acts.foldl World.act u) = part u := by
    induction acts generalizing u with
    | nil => rfl
    | cons o acts ih => exact (ih (u.act o)).trans (kept u o)
  unfold World.interleave
  cases w.outside with
  | nil => rfl
  | cons acts left => exact (fold acts _).trans (later w left)

/-- Other tasks do not answer the worker's waits. -/
lemma interleave_inputs (w : World) :
    w.interleave.clock = w.clock ∧ w.interleave.opens = w.opens ∧
      w.interleave.sends = w.sends ∧ w.interleave.reads = w.reads := by
  have same := interleave_same (fun w => (w.clock, w.opens, w.sends, w.reads))
    (fun w o => by cases o <;> rfl) (fun _ _ => rfl) w
  simpa only [Prod.mk.injEq] using same

/-- Nor do they report anything to the state worker. -/
@[simp] lemma interleave_stateWorkerTx (w : World) :
    w.interleave.stateWorkerTx = w.stateWorkerTx :=
  interleave_same World.stateWorkerTx (fun _ o => by cases o <;> rfl) (fun _ _ => rfl) w

@[simp] lemma interleave_clock (w : World) : w.interleave.clock = w.clock :=
  (interleave_inputs w).1

@[simp] lemma interleave_opens (w : World) : w.interleave.opens = w.opens :=
  (interleave_inputs w).2.1

@[simp] lemma interleave_sends (w : World) : w.interleave.sends = w.sends :=
  (interleave_inputs w).2.2.1

@[simp] lemma interleave_reads (w : World) : w.interleave.reads = w.reads :=
  (interleave_inputs w).2.2.2

/-- Between two waits: nothing but other tasks shows in the core, and no wait was answered. -/
structure Between (w w' : World) : Prop where
  onward : Onward w w'
  clock : w'.clock = w.clock
  sends : w'.sends = w.sends
  reads : w'.reads = w.reads

namespace Between

lemma refl (w : World) : Between w w := ⟨.refl w, rfl, rfl, rfl⟩

lemma trans {w w' w'' : World} (h : Between w w') (h' : Between w' w'') : Between w w'' where
  onward := h.onward.trans h'.onward
  clock := h'.clock.trans h.clock
  sends := h'.sends.trans h.sends
  reads := h'.reads.trans h.reads

lemma count (w : World) {f : ConnectionTelemetry → ConnectionTelemetry}
    (hf : ∀ u : World, (u.mapTelemetry f).core = u.core) :
    Between w (w.interleave.mapTelemetry f) where
  onward := .count w hf
  clock := interleave_clock w
  sends := interleave_sends w
  reads := interleave_reads w

end Between

lemma count_between {f : World → ConnectionTelemetry → ConnectionTelemetry}
    (hf : ∀ u v : World, (u.mapTelemetry (f v)).core = u.core) (w : World) :
    Ends (updateTelemetry f) (fun _ w' => Between w w') w :=
  .count w fun u => hf u _

lemma notifyStateWorker_between (msg : StateWorkerMessage) (w : World) :
    Ends (notifyStateWorker msg) (fun _ w' => Between w w') w :=
  ⟨.of_core rfl, rfl, rfl, rfl⟩

lemma runIf_between {x : Task Unit} (hx : ∀ w, Ends x (fun _ w' => Between w w') w) (c : Bool)
    (w : World) : Ends (runIf c x) (fun _ w' => Between w w') w := by
  cases c with
  | false => exact Between.refl w
  | true => exact hx w

lemma wp_unwrapStream {w : World} {Q : FramedStream → World → Prop} {E : Panic → Prop}
    (h : w.stream.isSome) : wp unwrapStream Q E w ↔ Q (w.stream.get h) w := by
  obtain ⟨stream, hs⟩ := Option.isSome_iff_exists.mp h
  simp [unwrapStream, hs]

end SatelIntegra
