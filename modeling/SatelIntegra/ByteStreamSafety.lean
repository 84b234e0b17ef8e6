import SatelIntegra.AutoRequester
import SatelIntegra.CodecChunks
import SatelIntegra.CodecRoundTrip
import SatelIntegra.WorkerExchange

/-!
# Which byte streams the worker survives

`decode` can yield a frame without any byte: six bytes on the wire carry nothing but
a checksum that matches. The exchange and the auto-requester skip such a frame, the
push branch takes its first byte.
-/

namespace SatelIntegra

open CheckedAccess PairSearch IncrementalSplit ProgramLogic SatelConnectionWorker

/-- Header, the checksum of no bytes, trailer. -/
def emptySegment : List UInt8 := [0xFE, 0xFE, 0x14, 0x7A, 0xFE, 0x0D]

lemma unstuff_eq_nil {l : List UInt8} (h : unstuff l = []) : l.length ≤ 2 := by
  match l with
  | [] => simp
  | [_] => simp
  | [_, _] => simp
  | x :: y :: z :: rest =>
    rw [unstuff] at h
    split at h <;> cases h

/-- A byte other than `FE` comes out of the unstuffing loop as it went in. -/
lemma unstuff_eq_cons {l out : List UInt8} {byte : UInt8} (hbyte : byte ≠ 0xFE)
    (h : unstuff l = byte :: out) : ∃ rest, l = byte :: rest ∧ unstuff rest = out := by
  match l with
  | [] => cases h
  | [_] => cases h
  | [_, _] => cases h
  | x :: y :: z :: rest =>
    rw [unstuff] at h
    split at h
    · exact absurd (List.cons.inj h).1.symm hbyte
    · obtain ⟨rfl, hrest⟩ := List.cons.inj h
      exact ⟨y :: z :: rest, rfl, hrest⟩

/-- A segment runs from a header to the first trailer. -/
lemma takeSegment_borders {src raw rest : List UInt8} (h : takeSegment src = some (raw, rest)) :
    ∃ pos, raw.length = pos + 2 ∧ raw.take 2 = [0xFE, 0xFE] ∧ raw.drop pos = [0xFE, 0x0D] := by
  obtain ⟨tail, hheader, hcut⟩ := Option.bind_eq_some_iff.mp h
  obtain ⟨body, rfl⟩ := toHeader_starts hheader
  simp only [cutTrailer, Option.map_eq_some_iff, Prod.mk.injEq] at hcut
  obtain ⟨pos, hpos, rfl, rfl⟩ := hcut
  have hlt := pairPosition_lt hpos
  obtain ⟨more, hmore⟩ := drop_pairPosition hpos
  refine ⟨pos, List.length_take_of_le (by omega), ?_, ?_⟩
  · rw [List.take_take, Nat.min_eq_left (by omega)]
    rfl
  · rw [List.drop_take, hmore]
    simp

/-- The checksum of no bytes is `14 7A`. -/
lemma checksum_nil {high low : UInt8} (h : fromBeBytes high low = calculateCrc []) :
    high = 0x14 ∧ low = 0x7A := by
  have value : high.toNat * 256 + low.toNat = 5242 := by
    rw [← fromBeBytes_toNat, h]
    rfl
  have hlow := low.toNat_lt
  constructor
  · apply UInt8.toNat_inj.mp
    change high.toNat = 20
    omega
  · apply UInt8.toNat_inj.mp
    change low.toNat = 122
    omega

lemma unstuff_of_readSegment {raw : List UInt8} (h : readSegment raw = .payload []) :
    unstuff (raw.drop 2) = [0x14, 0x7A] := by
  unfold readSegment at h
  split at h
  case h_1 low high dataRev hrev =>
    split at h
    case isTrue hcrc =>
      have hnil : dataRev = [] := by simpa using h
      subst hnil
      obtain ⟨rfl, rfl⟩ := checksum_nil hcrc
      rw [← List.reverse_reverse (unstuff (raw.drop 2)), hrev]
      rfl
    case isFalse => cases h
  case h_2 => cases h

/-- The only segment that is read as a frame without bytes. -/
lemma readSegment_eq_nil {src raw rest : List UInt8} (h : takeSegment src = some (raw, rest)) :
    readSegment raw = .payload [] ↔ raw = emptySegment := by
  constructor
  · intro hread
    obtain ⟨l, hraw, hl⟩ := unstuff_eq_cons (by decide) (unstuff_of_readSegment hread)
    obtain ⟨end_, rfl, hend⟩ := unstuff_eq_cons (by decide) hl
    have hshort := unstuff_eq_nil hend
    obtain ⟨pos, hlen, htake, hdrop⟩ := takeSegment_borders h
    have hbytes : raw = 0xFE :: 0xFE :: 0x14 :: 0x7A :: end_ := by
      rw [← List.take_append_drop 2 raw, htake, hraw]
      rfl
    subst hbytes
    match end_, hshort with
    | [], _ =>
      obtain rfl : pos = 2 := by simpa using hlen.symm
      cases hdrop
    | [x], _ =>
      obtain rfl : pos = 3 := by simpa using hlen.symm
      cases hdrop
    | [x, y], _ =>
      obtain rfl : pos = 4 := by simpa using hlen.symm
      cases hdrop
      rfl
  · rintro rfl
    decide

/-- The stream yields a frame without bytes exactly if it has the empty segment. -/
lemma nil_mem_payloads (src : List UInt8) :
    [] ∈ payloads (segments src) ↔ emptySegment ∈ segments src := by
  induction src using Splitter.splitInduction (S := segmentSplitter) with
  | stop src hnone => simp [segments_of_none hnone, payloads]
  | step src raw rest hsome ih =>
    have hempty := readSegment_eq_nil hsome
    rw [segments_of_some hsome, payloads, List.mem_cons, eq_comm, ← hempty, ← ih]
    cases hread : readSegment raw with
    | payload item => simp [eq_comm]
    | badCrc => simp
    | tooShort => simp

/-- Whoever takes this frame off the wire does not panic: not the branch for unsolicited frames,
not an exchange that gets it among its answers, not the auto-requester. -/
structure SafeFrame (frame : Frame) : Prop where
  push : ∀ (w : World) (elapsed : Duration) (later : List (Answer ReadOutcome)),
    w.reads = ⟨elapsed, .frame frame⟩ :: later → Ends receivePushInternal (fun _ _ => True) w
  exchange : ∀ (w : World) (elapsed : Duration), ⟨elapsed, .frame frame⟩ ∈ w.reads →
    ∀ (data : Frame) (expectedCmd : UInt8) (writeTimeout readTimeout : Duration) (isPing : Bool),
      Ends (exchange data expectedCmd writeTimeout readTimeout isPing) (fun _ _ => True) w
  auto : ∀ (config : Config) (state : SatelState) (clock : Clock),
    NoPanic (handleAutoFrame config state frame clock)

lemma takePush_cons (first : UInt8) (rest : Frame) {w : World} {elapsed : Duration}
    {later : List (Answer ReadOutcome)}
    (hreads : w.reads = ⟨elapsed, .frame (first :: rest)⟩ :: later) :
    Ends takePush (fun r _ => ∃ out, r = .ok out) w := by
  unfold takePush awaitRead
  cases hstream : w.stream with
  | none => simp [hstream]
  | some stream => simp [hstream, hreads, countNonPingFrame]

lemma receivePushInternal_cons (first : UInt8) (rest : Frame) {w : World} {elapsed : Duration}
    {later : List (Answer ReadOutcome)}
    (hreads : w.reads = ⟨elapsed, .frame (first :: rest)⟩ :: later) :
    Ends receivePushInternal (fun _ _ => True) w := by
  unfold receivePushInternal
  rw [Ends, wp_bind]
  refine wp_imp (takePush_cons first rest hreads) ?_
  rintro _ w' ⟨⟨received, _ | frame⟩, rfl⟩
  · exact trivial
  · exact trivial

/-- A connected worker whose next frame is this one. -/
def waitingWorker (frame : Frame) : World :=
  enterConnected
    { World.new {} 0 ⟨0, Nat.zero_le _⟩ with
      stream := some { encrypted := false, issued := [] }
      reads := [⟨0, .frame frame⟩] }

lemma receivePushInternal_nil :
    receivePushInternal.run (waitingWorker []) = .error .indexOutOfBounds := rfl

lemma safeFrame_iff (frame : Frame) : SafeFrame frame ↔ frame ≠ [] := by
  constructor
  · rintro safe rfl
    have ends := safe.push (waitingWorker []) 0 [] rfl
    exact (wp_of_error receivePushInternal_nil).mp ends
  · intro hne
    obtain ⟨first, rest, rfl⟩ := List.exists_cons_of_ne_nil hne
    refine ⟨fun w elapsed later hreads => receivePushInternal_cons first rest hreads, ?_, ?_⟩
    · intro w elapsed _ data expectedCmd writeTimeout readTimeout isPing
      exact wp_imp (exchange_ends data expectedCmd writeTimeout readTimeout isPing w)
        fun _ _ _ => trivial
    · exact fun config state clock => handleAutoFrame_noPanic config state _ clock

/-- All frames of a byte stream are safe, however it is cut into chunks, exactly if none of its
segments is the empty one. -/
theorem frames_safe_iff (codec : SatelCodec) (chunks : List (List UInt8)) :
    ∃ frames codec' buffer, feedChunks codec [] chunks = some (frames, codec', buffer) ∧
      ((∀ frame ∈ frames, SafeFrame frame) ↔ emptySegment ∉ segments chunks.flatten) := by
  obtain ⟨buffer, hfeed⟩ := feedChunks_eq codec [] chunks (segments_of_none rfl)
  rw [List.nil_append] at hfeed
  refine ⟨_, _, buffer, hfeed, ?_⟩
  rw [← nil_mem_payloads]
  simp only [safeFrame_iff]
  exact ⟨fun h hnil => h [] hnil rfl, fun h frame hmem hnil => h (hnil ▸ hmem)⟩

/-- Six bytes end the task of a connected worker. -/
theorem empty_segment_panics :
    decode ⟨0⟩ emptySegment = (some [], ⟨0⟩, []) ∧
      receivePushInternal.run (waitingWorker []) = .error .indexOutOfBounds :=
  ⟨by decide, receivePushInternal_nil⟩

end SatelIntegra
