import SatelIntegra.WorkerExchange

/-!
# Where an exchange sends each frame

While a command waits for its reply the panel may push frames of its own. The
reply is the first frame with the command's byte or `EF`; every frame before it
goes to the state worker, in order, and a rejection goes both ways.
-/

namespace SatelIntegra

open CheckedAccess ProgramLogic SatelConnectionWorker

/-! ### Counters of the telemetry -/

/-- A counter that other tasks set back but never raise. -/
structure WorkerCounter where
  read : ConnectionTelemetry → UInt64
  reset : ∀ (t : ConnectionTelemetry) now, read (t.reset now) = 0
  mark : ∀ (t : ConnectionTelemetry) mark, read { t with lastSentStatsMark := mark } = read t
  transport : ∀ (t : ConnectionTelemetry) sent received crcErrors,
    read { t with bytesSent := sent, bytesReceived := received, crcErrors := crcErrors } = read t

def rejectedByPanel : WorkerCounter where
  read := ConnectionTelemetry.rejectedByPanel
  reset := by intros; rfl
  mark := by intros; rfl
  transport := by intros; rfl

def timeouts : WorkerCounter where
  read := ConnectionTelemetry.timeouts
  reset := by intros; rfl
  mark := by intros; rfl
  transport := by intros; rfl

/-- The counter was raised `n` times. If another task reset it meanwhile, what was counted after
the reset is left. -/
structure Raised (counter : WorkerCounter) (n : Nat) (w w' : World) : Prop where
  resets : w.resets ≤ w'.resets
  undisturbed : w'.resets = w.resets →
    counter.read w'.telemetry = counter.read w.telemetry + .ofNat n
  disturbed : w.resets < w'.resets → ∃ k ≤ n, counter.read w'.telemetry = .ofNat k

namespace Raised
variable {counter : WorkerCounter} {m n : Nat} {w w' w'' : World}

lemma same (resets : w'.resets = w.resets)
    (kept : counter.read w'.telemetry = counter.read w.telemetry) : Raised counter 0 w w' where
  resets := Nat.le_of_eq resets.symm
  undisturbed _ := by simp [kept]
  disturbed h := by omega

lemma trans (h : Raised counter m w w') (h' : Raised counter n w' w'') :
    Raised counter (m + n) w w'' where
  resets := Nat.le_trans h.resets h'.resets
  undisturbed heq := by
    have first := h.resets
    have second := h'.resets
    rw [h'.undisturbed (by omega), h.undisturbed (by omega), UInt64.ofNat_add, UInt64.add_assoc]
  disturbed hlt := by
    rcases Nat.eq_or_lt_of_le h'.resets with kept | later
    · obtain ⟨k, hk, value⟩ := h.disturbed (by omega)
      refine ⟨k + n, by omega, ?_⟩
      rw [h'.undisturbed kept.symm, value, UInt64.ofNat_add]
    · obtain ⟨k, hk, value⟩ := h'.disturbed later
      exact ⟨k, by omega, value⟩

lemma act (w : World) (o : Outside) : Raised counter 0 w (w.act o) := by
  cases o with
  | resetStatistics =>
    refine ⟨Nat.le_succ _, ?_, ?_⟩
    · intro h
      exact absurd h (Nat.succ_ne_self w.resets)
    · intro _
      exact ⟨0, Nat.le_refl 0, counter.reset _ _⟩
  | wallClock now => exact same rfl rfl
  | markStatistics => exact same rfl (counter.mark _ _)
  | transportCounters sent received crcErrors => exact same rfl (counter.transport _ _ _ _)
  | _ => exact same rfl rfl

lemma interleave (w : World) : Raised counter 0 w w.interleave := by
  have fold (acts : List Outside) (u : World) : Raised counter 0 u (acts.foldl World.act u) := by
    induction acts generalizing u with
    | nil => exact same rfl rfl
    | cons o acts ih => exact (act u o).trans (ih (u.act o))
  unfold World.interleave
  cases w.outside with
  | nil => exact same rfl rfl
  | cons acts left =>
    have rest : Raised counter 0 w { w with outside := left } := same rfl rfl
    exact rest.trans (fold acts { w with outside := left })

/-- An update of the telemetry that raises the counter `n` times. -/
lemma update (w : World) {f : World → ConnectionTelemetry → ConnectionTelemetry}
    (hf : ∀ u t, counter.read (f u t) = counter.read t + .ofNat n) :
    Raised counter n w (w.interleave.mapTelemetry (f w.interleave)) := by
  have raised : Raised counter n w.interleave (w.interleave.mapTelemetry (f w.interleave)) := by
    refine ⟨Nat.le_refl _, ?_, ?_⟩
    · intro _
      exact hf _ _
    · intro h
      exact absurd h (Nat.lt_irrefl _)
  have both := (interleave w).trans raised
  rwa [Nat.zero_add] at both

end Raised

/-! ### What happens to the frames of an exchange -/

/-- A reply to the command, or a result code. -/
def isTargetResponse (expectedCmd : UInt8) : Frame → Bool
  | [] => false
  | first :: _ => first == expectedCmd || first == 0xEF

/-- A result code other than acceptance. -/
def isRejection (frame : Frame) : Bool := frame[0]? == some 0xEF && frame[1]? != some 0xFF

/-- The frame goes to the state worker. -/
def isForwarded (expectedCmd : UInt8) (frame : Frame) : Bool :=
  !frame.isEmpty && (!isTargetResponse expectedCmd frame || isRejection frame && expectedCmd != 0xEE)

lemma isForwarded_reply {expectedCmd : UInt8} {frame : Frame}
    (target : isTargetResponse expectedCmd frame = true) :
    isForwarded expectedCmd frame = (isRejection frame && expectedCmd != 0xEE) := by
  cases frame with
  | nil => cases target
  | cons first more => simp [isForwarded, target]

/-- Between two waits or behind the last one: what was forwarded, counted and forgotten. -/
structure Routed (forwarded : List Frame) (rejections timedOut : Nat) (heard : Bool)
    (w w' : World) : Prop where
  log : w'.stateWorkerTx = w.stateWorkerTx.map (· ++ forwarded.map .frame)
  rejected : Raised rejectedByPanel rejections w w'
  timedOut : Raised timeouts timedOut w w'
  pings : w'.consecutiveMissedPings = if heard then 0 else w.consecutiveMissedPings
  stream : w'.stream.isSome = w.stream.isSome

namespace Routed
variable {forwarded forwarded' : List Frame} {m n m' n' : Nat} {heard heard' : Bool}
  {w w' w'' : World}

lemma trans (h : Routed forwarded m n heard w w') (h' : Routed forwarded' m' n' heard' w' w'') :
    Routed (forwarded ++ forwarded') (m + m') (n + n') (heard || heard') w w'' where
  log := by
    rw [h'.log, h.log, Option.map_map, List.map_append]
    congr 1
    funext log
    simp
  rejected := h.rejected.trans h'.rejected
  timedOut := h.timedOut.trans h'.timedOut
  pings := by
    rw [h'.pings, h.pings]
    cases heard <;> cases heard' <;> rfl
  stream := h'.stream.trans h.stream

/-- A wait. -/
lemma wait (w : World) (reads : List (Answer ReadOutcome)) (clock : Instant) :
    Routed [] 0 0 false w { w with reads, clock } where
  log := by simp
  rejected := .same rfl rfl
  timedOut := .same rfl rfl
  pings := rfl
  stream := rfl

lemma forget (w : World) : Routed [] 0 0 true w { w with consecutiveMissedPings := 0 } where
  log := by simp
  rejected := .same rfl rfl
  timedOut := .same rfl rfl
  pings := rfl
  stream := rfl

lemma forward (w : World) (frame : Frame) : Routed [frame] 0 0 false w
    { w with stateWorkerTx := w.stateWorkerTx.map (· ++ [.frame frame]) } where
  log := rfl
  rejected := .same rfl rfl
  timedOut := .same rfl rfl
  pings := rfl
  stream := rfl

end Routed

/-- Counters are raised after other tasks ran. -/
lemma count_routed {f : World → ConnectionTelemetry → ConnectionTelemetry} {m n : Nat}
    (hm : ∀ u t, rejectedByPanel.read (f u t) = rejectedByPanel.read t + .ofNat m)
    (hn : ∀ u t, timeouts.read (f u t) = timeouts.read t + .ofNat n) (w : World) :
    Ends (updateTelemetry f) (fun _ w' => Routed [] m n false w w') w := by
  refine ⟨?_, .update w hm, .update w hn, ?_, ?_⟩
  · change w.interleave.stateWorkerTx = _
    simp
  · exact interleave_same (·.consecutiveMissedPings) (fun _ o => by cases o <;> rfl)
      (fun _ _ => rfl) w
  · exact interleave_same (·.stream.isSome) (fun _ o => by cases o <;> rfl) (fun _ _ => rfl) w

lemma countTimeout_routed (w : World) :
    Ends countTimeout (fun _ w' => Routed [] 0 1 false w w') w := by
  apply count_routed
  · intro u t
    exact (UInt64.add_zero t.rejectedByPanel).symm
  · intro u t
    rfl

lemma countNonPingFrame_routed (c : Bool) (w : World) :
    Ends (runIf c countNonPingFrame) (fun _ w' => Routed [] 0 0 false w w') w := by
  cases c with
  | false => exact Routed.wait w w.reads w.clock
  | true =>
    apply count_routed
    · intro u t
      exact (UInt64.add_zero t.rejectedByPanel).symm
    · intro u t
      exact (UInt64.add_zero t.timeouts).symm

lemma countRejected_routed (c : Bool) (w : World) :
    Ends (runIf c countRejected) (fun _ w' => Routed [] c.toNat 0 false w w') w := by
  cases c with
  | false => exact Routed.wait w w.reads w.clock
  | true =>
    apply count_routed
    · intro u t
      rfl
    · intro u t
      exact (UInt64.add_zero t.timeouts).symm

lemma notify_routed (c : Bool) (frame : Frame) (w : World) :
    Ends (runIf c (notifyStateWorker (.frame frame)))
      (fun _ w' => Routed (if c then [frame] else []) 0 0 false w w') w := by
  cases c with
  | false => exact Routed.wait w w.reads w.clock
  | true => exact Routed.forward w frame

/-- One frame that is not empty. -/
lemma routeFrame_routed (expectedCmd first : UInt8) (isPing : Bool) (rest : Frame) (w : World) :
    Ends (routeFrame expectedCmd isPing (first :: rest))
      (fun isReply w' => isReply = isTargetResponse expectedCmd (first :: rest) ∧
        Routed (if isForwarded expectedCmd (first :: rest) then [first :: rest] else [])
          (isRejection (first :: rest)).toNat 0 true w w') w := by
  unfold routeFrame
  simp only [resetMissedPings, index_cons_zero, Ends, wp_bind, wp_modify, wp_lift_ok]
  refine wp_imp (countRejected_routed _ _) fun _ w₁ h₁ => ?_
  refine wp_imp (countNonPingFrame_routed _ _) fun _ w₂ h₂ => ?_
  refine wp_imp (notify_routed _ _ _) fun _ w₃ h₃ => ?_
  rw [wp_pure]
  refine ⟨rfl, ?_⟩
  have all := (Routed.forget w).trans (h₁.trans (h₂.trans h₃))
  have rejection : (first == 0xEF && !(first == 0xEF && (first :: rest)[1]? == some 0xFF)) =
      isRejection (first :: rest) := by
    simp only [isRejection, List.getElem?_cons_zero]
    cases hcode : first == 0xEF <;> simp_all [bne]
  have forwarded : ((first != expectedCmd || first == 0xEF) &&
      !(first == 0xEF && (first :: rest)[1]? == some 0xFF) &&
        !(expectedCmd == 0xEE && first == 0xEF)) = isForwarded expectedCmd (first :: rest) := by
    rw [isForwarded, ← rejection, isTargetResponse]
    cases htarget : first == expectedCmd <;> cases hcode : first == 0xEF <;>
      cases hname : expectedCmd == 0xEE <;> simp_all [bne]
  rw [rejection, forwarded] at all
  simpa using all

/-! ### The loop -/

/-- A frame, and how long the worker waited for it. -/
structure Arrival where
  elapsed : Duration
  frame : Frame

def Arrival.answer (arrival : Arrival) : Answer ReadOutcome :=
  ⟨arrival.elapsed, .frame arrival.frame⟩

def totalWait : List Arrival → Duration
  | [] => 0
  | arrival :: arrivals => arrival.elapsed + totalWait arrivals

lemma totalWait_le_append (before after : List Arrival) :
    totalWait before ≤ totalWait (before ++ after) := by
  induction before with
  | nil => exact Nat.zero_le _
  | cons arrival before ih => exact Nat.add_le_add_left ih _

/-- The frames that are not empty. -/
def framesOf (arrivals : List Arrival) : List Frame :=
  (arrivals.map Arrival.frame).filter fun frame => !frame.isEmpty

/-- Frames that are not the reply are taken, and forwarded unless they are empty. -/
lemma receiveReply_before {expectedCmd : UInt8} {readTimeout : Duration} {isPing : Bool}
    {start : Instant} {before : List Arrival} {rest : List (Answer ReadOutcome)} {w : World}
    {Q : Except SatelError Frame → World → Prop} {E : Panic → Prop}
    (reads : w.reads = before.map Arrival.answer ++ rest) (hstart : start ≤ w.clock)
    (hstream : w.stream.isSome) (intime : w.clock - start + totalWait before < readTimeout)
    (others : ∀ arrival ∈ before, isTargetResponse expectedCmd arrival.frame = false)
    (next : ∀ w₁, Routed (framesOf before) 0 0 (!(framesOf before).isEmpty) w w₁ →
      w₁.reads = rest → w₁.clock = w.clock + totalWait before →
      wp (receiveReply expectedCmd readTimeout isPing start rest) Q E w₁) :
    wp (receiveReply expectedCmd readTimeout isPing start (before.map Arrival.answer ++ rest))
      Q E w := by
  induction before generalizing w with
  | nil => exact next w (Routed.wait w w.reads w.clock) reads rfl
  | cons arrival before ih =>
    obtain ⟨elapsed, frame⟩ := arrival
    have total : totalWait (⟨elapsed, frame⟩ :: before) = elapsed + totalWait before := rfl
    rw [total] at intime next
    have soon : w.clock - start < readTimeout := Nat.lt_of_le_of_lt (Nat.le_add_right _ _) intime
    -- the world in which the frame is looked at
    let w₁ : World :=
      { w with reads := before.map Arrival.answer ++ rest, clock := w.clock + elapsed }
    have hstart₁ : start ≤ w₁.clock := Nat.le_trans hstart (Nat.le_add_right _ _)
    have clock₁ : w₁.clock - start = w.clock - start + elapsed := Nat.sub_add_comm hstart
    have intime₁ : w₁.clock - start + totalWait before < readTimeout := by
      rw [clock₁, Nat.add_assoc]
      exact intime
    have waited : Routed [] 0 0 false w w₁ := Routed.wait w _ _
    have others' : ∀ arrival ∈ before, isTargetResponse expectedCmd arrival.frame = false :=
      fun arrival h => others arrival (List.mem_cons_of_mem _ h)
    simp only [Arrival.answer, List.map_cons, List.cons_append, receiveReply, wp_bind,
      wp_elapsedSince, if_pos soon]
    rw [wp_unwrapStream hstream, wp_modify]
    change wp _ _ _ w₁
    cases frame with
    | nil =>
      simp only [List.isEmpty_nil, if_true]
      refine ih rfl hstart₁ hstream intime₁ others' ?_
      intro w₂ routed reads₂ clock₂
      have clock : w₂.clock = w.clock + (elapsed + totalWait before) := by
        rw [clock₂, ← Nat.add_assoc]
      exact next w₂ (by simpa [framesOf] using waited.trans routed) reads₂ clock
    | cons first more =>
      have target : isTargetResponse expectedCmd (first :: more) = false :=
        others _ List.mem_cons_self
      have kept : isForwarded expectedCmd (first :: more) = true := by
        simp [isForwarded, target]
      have mild : isRejection (first :: more) = false := by
        have code : ¬ first = 0xEF := by
          intro code
          simp [isTargetResponse, code] at target
        simp [isRejection, code]
      simp only [List.isEmpty_cons, Bool.false_eq_true, if_false, wp_bind]
      have routes := wp_and (routeFrame_routed expectedCmd first isPing more w₁)
        (routeFrame_ends expectedCmd first isPing more w₁)
      refine wp_mono routes ?_ (fun _ never => never.1.elim)
      rintro isReply w₂ ⟨⟨rfl, routed⟩, -, between⟩
      rw [target, kept, mild] at *
      simp only [Bool.false_eq_true, if_false]
      have clock₂ : w₂.clock = w₁.clock := between.clock
      refine ih between.reads (clock₂ ▸ hstart₁) (routed.stream.trans hstream)
        (clock₂ ▸ intime₁) others' ?_
      intro w₃ routed' reads₃ clock₃
      have clock : w₃.clock = w.clock + (elapsed + totalWait before) := by
        rw [clock₃, clock₂, ← Nat.add_assoc]
      have all := waited.trans (routed.trans routed')
      exact next w₃ (by simpa [framesOf] using all) reads₃ clock

/-- The reply ends the exchange, and the answers behind it are left alone. -/
lemma receiveReply_reply {expectedCmd : UInt8} {readTimeout : Duration} {isPing : Bool}
    {start : Instant} {reply : Arrival} {rest : List (Answer ReadOutcome)} {w : World}
    (hstream : w.stream.isSome) (intime : w.clock - start < readTimeout)
    (target : isTargetResponse expectedCmd reply.frame = true) :
    Ends (receiveReply expectedCmd readTimeout isPing start (reply.answer :: rest))
      (fun r w' => r = .ok reply.frame ∧ w'.reads = rest ∧
        Routed (if isForwarded expectedCmd reply.frame then [reply.frame] else [])
          (isRejection reply.frame).toNat 0 true w w') w := by
  obtain ⟨elapsed, frame⟩ := reply
  cases frame with
  | nil => cases target
  | cons first more =>
    let w₁ : World := { w with reads := rest, clock := w.clock + elapsed }
    have waited : Routed [] 0 0 false w w₁ := Routed.wait w _ _
    simp only [Ends, Arrival.answer, receiveReply, wp_bind, wp_elapsedSince, if_pos intime]
    rw [wp_unwrapStream hstream, wp_modify]
    change wp _ _ _ w₁
    simp only [List.isEmpty_cons, Bool.false_eq_true, if_false, wp_bind]
    have routes := wp_and (routeFrame_routed expectedCmd first isPing more w₁)
      (routeFrame_ends expectedCmd first isPing more w₁)
    refine wp_mono routes ?_ (fun _ never => never.1.elim)
    rintro isReply w₂ ⟨⟨rfl, routed⟩, -, between⟩
    rw [if_pos target, wp_pure]
    exact ⟨rfl, between.reads, by simpa using waited.trans routed⟩

/-- The transport has nothing more to give before the deadline. -/
def Silent (rest : List (Answer ReadOutcome)) : Prop :=
  ∀ answer ∈ rest.head?, answer.outcome = .timedOut

lemma receiveReply_silent {expectedCmd : UInt8} {readTimeout : Duration} {isPing : Bool}
    {start : Instant} {rest : List (Answer ReadOutcome)} {w : World} (hstream : w.stream.isSome)
    (reads : w.reads = rest) (intime : w.clock - start < readTimeout) (silent : Silent rest) :
    Ends (receiveReply expectedCmd readTimeout isPing start rest)
      (fun r w' => r = .error .timeout ∧ w'.reads = rest.tail ∧ Routed [] 0 1 false w w') w := by
  -- the answer that ran out of time, if there is one, is taken
  have counted (clock : Instant) : Ends countTimeout
      (fun _ w' => w'.reads = rest.tail ∧ Routed [] 0 1 false w w')
      { w with reads := rest.tail, clock } := by
    have waited : Routed [] 0 0 false w { w with reads := rest.tail, clock } := Routed.wait w _ _
    have both := wp_and (countTimeout_routed { w with reads := rest.tail, clock })
      (count_between (fun _ _ => rfl) { w with reads := rest.tail, clock })
    refine wp_mono both ?_ (fun _ never => never.1.elim)
    rintro _ w' ⟨routed, between⟩
    exact ⟨between.reads, by simpa using waited.trans routed⟩
  cases rest with
  | nil =>
    simp only [Ends, receiveReply, wp_bind, wp_modify, wp_pure]
    rw [reads]
    refine wp_imp (counted (max w.clock (start + readTimeout))) ?_
    rintro _ w' ⟨left, routed⟩
    exact ⟨trivial, left, routed⟩
  | cons answer later =>
    have timedOut : answer.outcome = .timedOut := silent answer rfl
    simp only [Ends, receiveReply, wp_bind, wp_elapsedSince, if_pos intime]
    rw [wp_unwrapStream hstream, wp_modify]
    simp only [timedOut, wp_bind]
    refine wp_imp (counted (w.clock + answer.elapsed)) ?_
    rintro _ w' ⟨left, routed⟩
    exact ⟨rfl, left, routed⟩

lemma sendCommand_routed {data : Frame} {writeTimeout : Duration} {isPing : Bool} {w : World}
    (hstream : w.stream.isSome) {elapsed : Duration} {later : List (Answer SendOutcome)}
    (hsends : w.sends = ⟨elapsed, .sent⟩ :: later) :
    Ends (sendCommand data writeTimeout isPing)
      (fun r w' => r = .ok () ∧ w'.reads = w.reads ∧ Routed [] 0 0 false w w') w := by
  obtain ⟨stream, hs⟩ := Option.isSome_iff_exists.mp hstream
  -- the world in which the command is among those issued
  let w₁ : World :=
    { w with
      stream := some { stream with issued := stream.issued ++ [data] }
      sends := later
      clock := w.clock + elapsed }
  have issued : Routed [] 0 0 false w w₁ := by
    refine ⟨by simp [w₁], .same rfl rfl, .same rfl rfl, rfl, ?_⟩
    rw [hs]
    rfl
  simp only [Ends, sendCommand, wp_bind, wp_get, hs, wp_modify, awaitSend, hsends, wp_pure]
  change wp _ _ _ w₁
  have counted := wp_and
    (count_routed (m := 0) (n := 0) (f := fun w t =>
      { t with
        nonPingFrames := if isPing then t.nonPingFrames else t.nonPingFrames + 1
        lastSendAt := w.clock })
      (fun _ t => (UInt64.add_zero t.rejectedByPanel).symm)
      (fun _ t => (UInt64.add_zero t.timeouts).symm) w₁)
    (count_between (fun _ _ => rfl) w₁)
  refine wp_mono counted ?_ (fun _ never => never.1.elim)
  rintro _ w₂ ⟨routed, between⟩
  exact ⟨trivial, between.reads, by simpa using issued.trans routed⟩

/-- For every sequence of frames that arrives before the deadline: the first one with the
command's byte or `EF` is returned, and nothing behind it is taken; each frame before it that is
not empty is forwarded once, in order; the returned one is forwarded too if it is a rejection and
no name was asked for. A rejection is counted, a frame that is not empty makes the missed pings
forgotten, and if no frame is the reply the exchange times out, which is counted. -/
theorem exchange_routes (data : Frame) (expectedCmd : UInt8) (writeTimeout readTimeout : Duration)
    (isPing : Bool) (w : World) (arrivals : List Arrival) (rest : List (Answer ReadOutcome))
    (hstream : w.stream.isSome) (hsends : ∃ elapsed later, w.sends = ⟨elapsed, .sent⟩ :: later)
    (reads : w.reads = arrivals.map Arrival.answer ++ rest)
    (intime : totalWait arrivals < readTimeout) :
    (∀ before reply after, arrivals = before ++ reply :: after →
      (∀ arrival ∈ before, isTargetResponse expectedCmd arrival.frame = false) →
      isTargetResponse expectedCmd reply.frame = true →
      Ends (exchange data expectedCmd writeTimeout readTimeout isPing)
        (fun r w' => r = .ok reply.frame ∧ w'.reads = after.map Arrival.answer ++ rest ∧
          Routed (framesOf before ++
              if isRejection reply.frame ∧ expectedCmd ≠ 0xEE then [reply.frame] else [])
            (if isRejection reply.frame then 1 else 0) 0 true w w') w) ∧
    ((∀ arrival ∈ arrivals, isTargetResponse expectedCmd arrival.frame = false) → Silent rest →
      Ends (exchange data expectedCmd writeTimeout readTimeout isPing)
        (fun r w' => r = .error .timeout ∧ w'.reads = rest.tail ∧
          Routed (framesOf arrivals) 0 1 (!(framesOf arrivals).isEmpty) w w') w) := by
  obtain ⟨elapsed, later, hsends⟩ := hsends
  -- the loop starts where the command was sent
  have from_loop {Q : Except SatelError Frame → World → Prop}
      (loop : ∀ w₁, Routed [] 0 0 false w w₁ → w₁.reads = arrivals.map Arrival.answer ++ rest →
        Ends (receiveReply expectedCmd readTimeout isPing w₁.clock
          (arrivals.map Arrival.answer ++ rest)) Q w₁) :
      Ends (exchange data expectedCmd writeTimeout readTimeout isPing) Q w := by
    unfold exchange
    rw [Ends, wp_bind]
    refine wp_imp (sendCommand_routed hstream hsends) ?_
    rintro _ w₁ ⟨rfl, reads₁, routed⟩
    rw [wp_bind, wp_get, reads₁, reads]
    exact loop w₁ routed (reads₁.trans reads)
  constructor
  · rintro before reply after rfl others target
    apply from_loop
    intro w₁ routed reads₁
    have split : (before ++ reply :: after).map Arrival.answer ++ rest =
        before.map Arrival.answer ++ (reply.answer :: (after.map Arrival.answer ++ rest)) := by
      simp
    have before_reply := totalWait_le_append before (reply :: after)
    have soon : w₁.clock - w₁.clock + totalWait before < readTimeout := by
      rw [Nat.sub_self, Nat.zero_add]
      exact Nat.lt_of_le_of_lt before_reply intime
    rw [split] at reads₁ ⊢
    refine receiveReply_before reads₁ (Nat.le_refl _) (routed.stream.trans hstream) soon others ?_
    intro w₂ routed' reads₂ clock₂
    have soon₂ : w₂.clock - w₁.clock < readTimeout := by
      rw [clock₂, Nat.add_sub_cancel_left]
      exact Nat.lt_of_le_of_lt before_reply intime
    have hstream₂ := (routed'.stream.trans routed.stream).trans hstream
    refine wp_imp (receiveReply_reply hstream₂ soon₂ target) ?_
    rintro r w' ⟨rfl, left, answered⟩
    have all := routed.trans (routed'.trans answered)
    rw [isForwarded_reply target] at all
    refine ⟨rfl, left, ?_⟩
    cases hcode : isRejection reply.frame with
    | true => simpa [hcode] using all
    | false => simpa [hcode] using all
  · intro others silent
    apply from_loop
    intro w₁ routed reads₁
    have soon : w₁.clock - w₁.clock + totalWait arrivals < readTimeout := by
      rwa [Nat.sub_self, Nat.zero_add]
    refine receiveReply_before reads₁ (Nat.le_refl _) (routed.stream.trans hstream) soon others ?_
    intro w₂ routed' reads₂ clock₂
    have soon₂ : w₂.clock - w₁.clock < readTimeout := by
      rwa [clock₂, Nat.add_sub_cancel_left]
    have hstream₂ := (routed'.stream.trans routed.stream).trans hstream
    refine wp_imp (receiveReply_silent hstream₂ reads₂ soon₂ silent) ?_
    rintro r w' ⟨rfl, left, silence⟩
    exact ⟨rfl, left, by simpa using routed.trans (routed'.trans silence)⟩

/-- Zone states are pushed, then the panel refuses to name a zone. -/
def refusedName : List Arrival := [⟨5, [0x00, 0x01]⟩, ⟨5, [0xEF, 0x08]⟩]

def namingWorld : World :=
  { World.new {} 0 ⟨0, Nat.zero_le _⟩ with
    stream := some { encrypted := false, issued := [] }
    sends := [⟨1, .sent⟩]
    reads := refusedName.map Arrival.answer }

theorem exchange_routes_refused_name :
    Ends (exchange [0xEE, 0x01, 0x01] 0xEE 100 100 false)
      (fun r w' => r = .ok [0xEF, 0x08] ∧ w'.reads = [] ∧
        Routed [[0x00, 0x01]] 1 0 true namingWorld w') namingWorld := by
  have routes := exchange_routes [0xEE, 0x01, 0x01] 0xEE 100 100 false namingWorld refusedName []
    rfl ⟨1, [], rfl⟩ rfl (by decide)
  exact routes.1 [⟨5, [0x00, 0x01]⟩] ⟨5, [0xEF, 0x08]⟩ [] rfl (by decide) rfl

end SatelIntegra
