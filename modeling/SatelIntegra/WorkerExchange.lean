import SatelIntegra.WorkerSteps

/-!
# What an exchange returns

The reply to a command is the first frame that carries the command's byte or
`0xEF`, if it comes before the deadline and before the transport fails. Every
other way out is an error, and only a failed transport gives up the connection.
-/

namespace SatelIntegra

open CheckedAccess ProgramLogic SatelConnectionWorker

/-- The reply among these answers, and the answers behind it. -/
def acceptedReply (expectedCmd : UInt8) (readTimeout : Duration) :
    Duration → List (Answer ReadOutcome) → Option (Frame × List (Answer ReadOutcome))
  | _, [] => none
  | elapsed, answer :: later =>
    if elapsed < readTimeout then
      match answer.outcome with
      | .frame [] => acceptedReply expectedCmd readTimeout (elapsed + answer.elapsed) later
      | .frame (first :: rest) =>
        if first = expectedCmd ∨ first = 0xEF then some (first :: rest, later)
        else acceptedReply expectedCmd readTimeout (elapsed + answer.elapsed) later
      | _ => none
    else none

/-- The reply to a command, the answers to sends and those to reads behind it. -/
def exchangeReply (expectedCmd : UInt8) (readTimeout : Duration) (sends : List (Answer SendOutcome))
    (reads : List (Answer ReadOutcome)) :
    Option (Frame × List (Answer SendOutcome) × List (Answer ReadOutcome)) :=
  match sends with
  | ⟨_, .sent⟩ :: later =>
    (acceptedReply expectedCmd readTimeout 0 reads).map fun (frame, left) => (frame, later, left)
  | _ => none

lemma acceptedReply_ne_nil {expectedCmd : UInt8} {readTimeout elapsed : Duration}
    {answers left : List (Answer ReadOutcome)} {frame : Frame}
    (h : acceptedReply expectedCmd readTimeout elapsed answers = some (frame, left)) :
    frame ≠ [] := by
  induction answers generalizing elapsed with
  | nil => cases h
  | cons answer later ih =>
    unfold acceptedReply at h
    split at h
    · split at h
      · exact ih h
      · split at h
        · rintro rfl
          cases h
        · exact ih h
      · cases h
    · cases h

/-- Routing a frame tells whether it is the reply. -/
lemma routeFrame_ends (expectedCmd first : UInt8) (isPing : Bool) (rest : Frame) (w : World) :
    Ends (routeFrame expectedCmd isPing (first :: rest))
      (fun isReply w' => isReply = (first == expectedCmd || first == 0xEF) ∧ Between w w') w := by
  unfold routeFrame
  simp only [resetMissedPings, index_cons_zero, Ends, wp_bind, wp_modify, wp_lift_ok]
  refine wp_imp (runIf_between (count_between fun _ _ => rfl) _ _) fun _ w₁ h₁ => ?_
  refine wp_imp (runIf_between (count_between fun _ _ => rfl) _ _) fun _ w₂ h₂ => ?_
  refine wp_imp (runIf_between (notifyStateWorker_between _) _ _) fun _ w₃ h₃ => ?_
  rw [wp_pure]
  refine ⟨rfl, Between.trans ?_ (h₁.trans (h₂.trans h₃))⟩
  exact ⟨.of_core rfl, rfl, rfl, rfl⟩

/-- What a receive loop ends with, when it took its reply from `reply`. -/
def Received (reply : Option (Frame × List (Answer ReadOutcome))) (w : World)
    (r : Except SatelError Frame) (w' : World) : Prop :=
  match reply with
  | some (frame, left) => r = .ok frame ∧ Onward w w' ∧ w'.sends = w.sends ∧ w'.reads = left
  | none => (∃ e, r = .error e) ∧ Failed w w'

lemma Received.of_onward {reply : Option (Frame × List (Answer ReadOutcome))} {w w' w'' : World}
    {r : Except SatelError Frame} (h : Onward w w') (hsends : w'.sends = w.sends)
    (h' : Received reply w' r w'') : Received reply w r w'' := by
  cases reply with
  | none => exact ⟨h'.1, h'.2.of_onward h⟩
  | some found =>
    obtain ⟨hr, ho, hs, hl⟩ := h'
    exact ⟨hr, h.trans ho, hs.trans hsends, hl⟩

lemma receiveReply_ends (expectedCmd : UInt8) (readTimeout : Duration) (isPing : Bool)
    (start : Instant) (answers : List (Answer ReadOutcome)) (w : World) (hreads : w.reads = answers)
    (hstart : start ≤ w.clock) (hstream : w.stream.isSome) :
    Ends (receiveReply expectedCmd readTimeout isPing start answers)
      (Received (acceptedReply expectedCmd readTimeout (w.clock - start) answers) w) w := by
  induction answers generalizing w with
  | nil =>
    simp only [receiveReply, countTimeout, Ends, wp_bind, wp_modify, wp_updateTelemetry, wp_pure]
    refine ⟨⟨_, rfl⟩, .inl (.count_of ?_ ?_)⟩
    · rfl
    · exact fun _ => rfl
  | cons answer later ih =>
    -- the world in which the frame of this answer is looked at
    let w₁ : World := { w with reads := later, clock := w.clock + answer.elapsed }
    have elapsed : w₁.clock - start = w.clock - start + answer.elapsed := Nat.sub_add_comm hstart
    have hstart₁ : start ≤ w₁.clock := Nat.le_trans hstart (Nat.le_add_right _ _)
    have taken : Onward w w₁ := .of_core rfl
    simp only [receiveReply, Ends, wp_bind, wp_elapsedSince, wp_ite, acceptedReply]
    refine ⟨fun intime => ?_, fun late => ?_⟩
    · rw [wp_unwrapStream hstream]
      simp only [if_pos intime, wp_modify]
      change wp _ _ _ w₁
      cases houtcome : answer.outcome with
      | frame frame =>
        cases frame with
        | nil =>
          simp only [List.isEmpty_nil, if_true]
          rw [← elapsed]
          exact wp_imp (ih w₁ rfl hstart₁ hstream) fun _ _ h => h.of_onward taken rfl
        | cons first rest =>
          simp only [List.isEmpty_cons, Bool.false_eq_true, if_false, wp_bind]
          refine wp_imp (routeFrame_ends expectedCmd first isPing rest w₁) ?_
          rintro isReply w₂ ⟨rfl, h⟩
          by_cases hreply : first = expectedCmd ∨ first = 0xEF
          · have isReply : (first == expectedCmd || first == 0xEF) = true := by simpa using hreply
            simp only [isReply, if_true, if_pos hreply, wp_pure]
            exact ⟨rfl, taken.trans h.onward, h.sends, h.reads⟩
          · have isReply : (first == expectedCmd || first == 0xEF) = false := by
              simpa using hreply
            simp only [isReply, Bool.false_eq_true, if_false, if_neg hreply]
            have clock : w₂.clock - start = w.clock - start + answer.elapsed := by
              rw [h.clock, elapsed]
            rw [← clock]
            have hstart₂ : start ≤ w₂.clock := by rw [h.clock]; exact hstart₁
            refine wp_imp (ih w₂ h.reads hstart₂ (h.onward.attached hstream)) fun _ _ hr => ?_
            exact hr.of_onward (taken.trans h.onward) h.sends
      | failed =>
        simp only [countIoError, wp_bind, wp_updateTelemetry, wp_connectionLost, wp_pure]
        exact ⟨⟨_, rfl⟩, .inr ⟨_, taken.trans (.count w₁ fun _ => rfl), rfl⟩⟩
      | closed =>
        simp only [wp_bind, wp_connectionLost, wp_pure]
        exact ⟨⟨_, rfl⟩, .inr ⟨_, taken, rfl⟩⟩
      | timedOut =>
        simp only [countTimeout, wp_bind, wp_updateTelemetry, wp_pure]
        exact ⟨⟨_, rfl⟩, .inl (taken.trans (.count w₁ fun _ => rfl))⟩
    · simp only [if_neg late, countTimeout, wp_updateTelemetry, wp_pure]
      exact ⟨⟨_, rfl⟩, .inl (.count w fun _ => rfl)⟩

/-- What an exchange ends with, by the answers it gets. -/
def Exchanged (reply : Option (Frame × List (Answer SendOutcome) × List (Answer ReadOutcome)))
    (w : World) (r : Except SatelError Frame) (w' : World) : Prop :=
  match reply with
  | some (frame, sends, reads) =>
    r = .ok frame ∧ frame ≠ [] ∧ Onward w w' ∧ w'.stream.isSome ∧ w'.sends = sends ∧
      w'.reads = reads
  | none => (∃ e, r = .error e) ∧ Failed w w'

/-- The command went out: there is a stream, and the next wait for a send succeeds. -/
def Sends (w : World) (later : List (Answer SendOutcome)) : Prop :=
  w.stream.isSome ∧ ∃ elapsed, w.sends = ⟨elapsed, .sent⟩ :: later

lemma not_sends {w : World} {a : Answer SendOutcome} {rest : List (Answer SendOutcome)}
    (hsends : w.sends = a :: rest) (ha : a.outcome ≠ .sent) (later : List (Answer SendOutcome)) :
    ¬ Sends w later := by
  rintro ⟨-, elapsed, h⟩
  rw [hsends, List.cons.injEq] at h
  exact ha (by rw [h.1])

lemma sendCommand_ends (data : Frame) (writeTimeout : Duration) (isPing : Bool) (w : World) :
    Ends (sendCommand data writeTimeout isPing)
      (fun r w' =>
        (∃ later, Sends w later ∧ r = .ok () ∧ Onward w w' ∧ w'.sends = later ∧
          w'.reads = w.reads) ∨
        ((∀ later, ¬ Sends w later) ∧ (∃ e, r = .error e) ∧ Failed w w')) w := by
  unfold sendCommand
  cases hstream : w.stream with
  | none =>
    simp only [Ends, wp_bind, wp_get, hstream, wp_pure]
    exact .inr ⟨fun _ h => by simp [Sends, hstream] at h, ⟨_, rfl⟩, .inl (.refl w)⟩
  | some stream =>
    simp only [Ends, wp_bind, wp_get, hstream, wp_modify, awaitSend]
    -- handing a command to the stream, or waiting, does not show in the core
    have issued : ∀ w₁ : World, w₁.core = { w with stream := some stream }.core →
        w₁.core = w.core := fun w₁ h => by rw [h, ← hstream]
    cases hsends : w.sends with
    | nil =>
      simp only [wp_bind, wp_sleep, wp_pure, countTimeout, wp_updateTelemetry]
      refine .inr ⟨fun _ h => by simp [Sends, hsends] at h, ⟨_, rfl⟩, .inl (.count_of ?_ ?_)⟩
      · exact issued _ rfl
      · exact fun _ => rfl
    | cons a later =>
      simp only [wp_bind, wp_modify, wp_pure]
      cases ha : a.outcome with
      | sent =>
        simp only [wp_bind, wp_updateTelemetry, wp_pure]
        have sends : Sends w later :=
          ⟨Option.isSome_iff_exists.mpr ⟨stream, hstream⟩, a.elapsed, by rw [hsends, ← ha]⟩
        refine .inl ⟨later, sends, ⟨⟩, .count_of ?_ ?_, interleave_sends _, interleave_reads _⟩
        · exact issued _ rfl
        · exact fun _ => rfl
      | failed =>
        simp only [wp_bind, countIoError, wp_updateTelemetry, wp_connectionLost, wp_pure]
        refine .inr ⟨not_sends hsends (by simp [ha]), ⟨_, rfl⟩,
          .inr ⟨_, .count_of ?_ ?_, rfl⟩⟩
        · exact issued _ rfl
        · exact fun _ => rfl
      | timedOut =>
        simp only [wp_bind, countTimeout, wp_updateTelemetry, wp_pure]
        refine .inr ⟨not_sends hsends (by simp [ha]), ⟨_, rfl⟩, .inl (.count_of ?_ ?_)⟩
        · exact issued _ rfl
        · exact fun _ => rfl

/-- An exchange never panics: it skips empty frames, and the stream stays until it ends. -/
theorem exchange_ends (data : Frame) (expectedCmd : UInt8) (writeTimeout readTimeout : Duration)
    (isPing : Bool) (w : World) :
    Ends (exchange data expectedCmd writeTimeout readTimeout isPing)
      (Exchanged (if w.stream.isSome then exchangeReply expectedCmd readTimeout w.sends w.reads
        else none) w) w := by
  unfold exchange
  rw [Ends, wp_bind]
  refine wp_imp (sendCommand_ends data writeTimeout isPing w) ?_
  rintro r w₁ (⟨later, ⟨hstream, elapsed, hsends⟩, rfl, h, hs, hr⟩ | ⟨hnone, ⟨e, rfl⟩, h⟩)
  · simp only [wp_bind, wp_get, hstream, if_true, hsends, exchangeReply]
    rw [hr]
    have reply := receiveReply_ends expectedCmd readTimeout isPing w₁.clock w.reads w₁ hr
      (Nat.le_refl _) (h.attached hstream)
    rw [Nat.sub_self] at reply
    refine wp_imp reply fun r w₂ h₂ => ?_
    cases hreply : acceptedReply expectedCmd readTimeout 0 w.reads with
    | none =>
      rw [hreply] at h₂
      exact ⟨h₂.1, h₂.2.of_onward h⟩
    | some found =>
      rw [hreply] at h₂
      obtain ⟨hok, h₂, hs₂, hr₂⟩ := h₂
      have onward := h.trans h₂
      exact ⟨hok, acceptedReply_ne_nil hreply, onward, onward.attached hstream, hs₂.trans hs, hr₂⟩
  · have noReply : (if w.stream.isSome then exchangeReply expectedCmd readTimeout w.sends w.reads
        else none) = none := by
      split
      case isTrue hstream =>
        unfold exchangeReply
        split
        case h_1 elapsed later hsends => exact absurd ⟨hstream, elapsed, hsends⟩ (hnone later)
        case h_2 => rfl
      case isFalse => rfl
    rw [noReply]
    exact ⟨⟨e, rfl⟩, h⟩

end SatelIntegra
