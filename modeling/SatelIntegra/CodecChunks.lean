import SatelIntegra.CodecSegments

/-!
# Decoding does not depend on how bytes arrive

A reader appends each chunk to the buffer and calls `decode` until it returns
nothing. The frames and the error count it ends with are those of the segments of
the stream, so the cuts between the chunks do not show. The buffer itself may
differ by noise that no further byte can turn into a header.
-/

namespace SatelIntegra

open PairSearch IncrementalSplit

/-- Call `decode` until it returns nothing; `none` if that takes more than `fuel` calls. -/
def drainFuel : Nat → SatelCodec → List UInt8 → Option (List Frame × SatelCodec × List UInt8)
  | 0, _, _ => none
  | fuel + 1, codec, src =>
    match decode codec src with
    | (none, codec, src) => some ([], codec, src)
    | (some item, codec, src) =>
      (drainFuel fuel codec src).map fun r => (item :: r.1, r.2)

def drain (codec : SatelCodec) (src : List UInt8) :
    Option (List Frame × SatelCodec × List UInt8) :=
  drainFuel (src.length + 1) codec src

def feedChunks (codec : SatelCodec) (buffer : List UInt8) :
    List (List UInt8) → Option (List Frame × SatelCodec × List UInt8)
  | [] => some ([], codec, buffer)
  | chunk :: chunks => do
    let (items, codec, buffer) ← drain codec (buffer ++ chunk)
    let (later, codec, buffer) ← feedChunks codec buffer chunks
    return (items ++ later, codec, buffer)

/-- The payloads among a list of segments. -/
def payloads : List (List UInt8) → List Frame
  | [] => []
  | raw :: rest =>
    match readSegment raw with
    | .payload item => item :: payloads rest
    | _ => payloads rest

/-- Count the segments with a wrong checksum. -/
def countCrcErrors (codec : SatelCodec) : List (List UInt8) → SatelCodec
  | [] => codec
  | raw :: rest =>
    match readSegment raw with
    | .badCrc => countCrcErrors { codec with crcErrors := codec.crcErrors + 1 } rest
    | _ => countCrcErrors codec rest

lemma payloads_append (a b : List (List UInt8)) :
    payloads (a ++ b) = payloads a ++ payloads b := by
  induction a with
  | nil => rfl
  | cons raw a ih =>
    cases hread : readSegment raw <;> simp [payloads, hread, ih]

lemma countCrcErrors_append (codec : SatelCodec) (a b : List (List UInt8)) :
    countCrcErrors codec (a ++ b) = countCrcErrors (countCrcErrors codec a) b := by
  induction a generalizing codec with
  | nil => rfl
  | cons raw a ih =>
    cases hread : readSegment raw <;> simp [countCrcErrors, hread, ih]

/-- Draining ends, and reports what the segments of the buffer say. -/
lemma drainFuel_eq {n : Nat} (codec : SatelCodec) {src : List UInt8}
    (enough : src.length < n) :
    drainFuel n codec src =
      some (payloads (segments src), countCrcErrors codec (segments src),
        trimNoise (segmentSplitter.rest src)) := by
  induction src using Splitter.splitInduction (S := segmentSplitter) generalizing codec n with
  | stop src hnone =>
    obtain ⟨k, rfl⟩ : ∃ k, n = k + 1 := ⟨n - 1, by omega⟩
    rw [segments_of_none hnone, Splitter.rest_of_none hnone, drainFuel,
      decode_of_none codec hnone]
    rfl
  | step src raw rest hsome ih =>
    obtain ⟨k, rfl⟩ : ∃ k, n = k + 1 := ⟨n - 1, by omega⟩
    have hlt : rest.length < src.length := segmentSplitter.shorter hsome
    rw [segments_of_some hsome, Splitter.rest_of_some hsome]
    cases hread : readSegment raw with
    | payload item =>
      rw [drainFuel, decode_of_payload codec hsome hread]
      simp only [ih (n := k) codec (by omega), payloads, countCrcErrors, hread, Option.map_some]
    | badCrc =>
      have tail := ih (n := k + 1) { codec with crcErrors := codec.crcErrors + 1 } (by omega)
      rw [drainFuel] at tail ⊢
      rw [decode_of_badCrc codec hsome hread, tail]
      simp only [payloads, countCrcErrors, hread]
    | tooShort =>
      have tail := ih (n := k + 1) codec (by omega)
      rw [drainFuel] at tail ⊢
      rw [decode_of_tooShort codec hsome hread, tail]
      simp only [payloads, countCrcErrors, hread]

lemma drain_eq (codec : SatelCodec) (src : List UInt8) :
    drain codec src =
      some (payloads (segments src), countCrcErrors codec (segments src),
        trimNoise (segmentSplitter.rest src)) :=
  drainFuel_eq codec (Nat.lt_succ_self _)

/-- The noise an unsuccessful call throws away never mattered. -/
lemma toHeader_trimNoise (src m : List UInt8) :
    toHeader (trimNoise src ++ m) = toHeader (src ++ m) := by
  by_cases short : src.length < 2
  · simp [trimNoise, short]
  cases hheader : toHeader src with
  | some tail =>
    obtain ⟨body, rfl⟩ := toHeader_starts hheader
    have htrim : trimNoise src = 0xFE :: 0xFE :: body := by simp [trimNoise, short, hheader]
    rw [htrim, toHeader_append hheader m]
    exact toHeader_of_starts _
  | none =>
    have hnone : pairPosition 0xFE 0xFE src = none := by simpa [toHeader] using hheader
    by_cases hlast : src.getLast? = some 0xFE
    · have hkeep : src.drop (src.length - 1) = [0xFE] := by
        obtain ⟨front, rfl⟩ := List.getLast?_eq_some_iff.mp hlast
        simp
      have htrim : trimNoise src = [0xFE] := by
        simp [trimNoise, short, hheader, hlast, hkeep]
      rw [htrim]
      simp only [toHeader, pairPosition_append_of_none_getLast hnone hlast, Option.map_map]
      congr 1
      funext i
      have hle : src.length - 1 ≤ src.length := Nat.sub_le _ _
      simp only [Function.comp_apply, Nat.add_comm i, ← List.drop_drop,
        List.drop_append_of_le_length hle, hkeep, List.singleton_append]
    · have htrim : trimNoise src = [] := by simp [trimNoise, short, hheader, hlast]
      rw [htrim]
      simp only [toHeader, List.nil_append, pairPosition_append_of_none hnone hlast,
        Option.map_map]
      congr 1
      funext i
      simp only [Function.comp_apply, Nat.add_comm i, ← List.drop_drop, List.drop_left]

lemma trimNoise_interchangeable (src : List UInt8) :
    segmentSplitter.Interchangeable (trimNoise src) src := fun m =>
  Splitter.items_congr (by
    show takeSegment _ = takeSegment _
    rw [takeSegment, takeSegment, toHeader_trimNoise])

/-- Chunk after chunk, the reader reports the segments of what it was given. -/
lemma feedChunks_eq (codec : SatelCodec) (kept : List UInt8) (chunks : List (List UInt8))
    (hkept : segments kept = []) :
    ∃ buffer, feedChunks codec kept chunks =
      some (payloads (segments (kept ++ chunks.flatten)),
        countCrcErrors codec (segments (kept ++ chunks.flatten)), buffer) := by
  induction chunks generalizing codec kept with
  | nil => exact ⟨kept, by simp [feedChunks, hkept, payloads, countCrcErrors]⟩
  | cons chunk chunks ih =>
    have hsame := trimNoise_interchangeable (segmentSplitter.rest (kept ++ chunk))
    have hempty : segments (trimNoise (segmentSplitter.rest (kept ++ chunk))) = [] := by
      have hitems := hsame []
      simp only [List.append_nil] at hitems
      exact hitems.trans (Splitter.items_of_none (Splitter.split_rest _))
    obtain ⟨buffer, hbuffer⟩ :=
      ih (countCrcErrors codec (segments (kept ++ chunk))) _ hempty
    refine ⟨buffer, ?_⟩
    have hall : segments (kept ++ (chunk ++ chunks.flatten)) =
        segments (kept ++ chunk) ++
          segments (trimNoise (segmentSplitter.rest (kept ++ chunk)) ++ chunks.flatten) := by
      rw [← List.append_assoc]
      exact hsame.items_append chunks.flatten
    simp only [feedChunks, drain_eq, Option.bind_eq_bind, Option.bind_some, hbuffer,
      List.flatten_cons, hall, payloads_append, countCrcErrors_append]
    rfl

/-- A call that returns nothing leaves no header with a trailer behind it. -/
lemma decode_none_clean {codec codec' : SatelCodec} {src src' : List UInt8}
    (h : decode codec src = (none, codec', src')) :
    pairPosition 0xFE 0xFE src' = none ∨ pairPosition 0xFE 0x0D src' = none := by
  induction src using Splitter.splitInduction (S := segmentSplitter) generalizing codec with
  | stop src hnone =>
    rw [decode_of_none codec hnone] at h
    simp only [Prod.mk.injEq, true_and] at h
    obtain ⟨-, rfl⟩ := h
    have htail : toHeader (trimNoise src) = toHeader src := by
      simpa using toHeader_trimNoise src []
    cases hheader : toHeader src with
    | none => exact Or.inl (by simpa [toHeader] using htail.trans hheader)
    | some tail =>
      have hcut : cutTrailer tail = none := by
        have hseg : takeSegment src = none := hnone
        simpa [takeSegment, hheader] using hseg
      have htrim : trimNoise src = tail := by
        have hlong : ¬ src.length < 2 := by
          intro short
          have hle := toHeader_length hheader
          obtain ⟨body, rfl⟩ := toHeader_starts hheader
          simp only [List.length_cons] at hle
          omega
        simp [trimNoise, hlong, hheader]
      exact Or.inr (by simpa [cutTrailer, htrim] using hcut)
  | step src raw rest hsome ih =>
    cases hread : readSegment raw with
    | payload item => rw [decode_of_payload codec hsome hread] at h; cases h
    | badCrc => rw [decode_of_badCrc codec hsome hread] at h; exact ih h
    | tooShort => rw [decode_of_tooShort codec hsome hread] at h; exact ih h

/-- Cutting the stream into chunks changes neither the frames nor the error count.
Every drain ends, and what it leaves holds no header with a trailer behind it. -/
theorem feedChunks_eq_drain_flatten (codec : SatelCodec) (chunks : List (List UInt8)) :
    (∃ items codec' whole kept,
      drain codec chunks.flatten = some (items, codec', whole) ∧
      feedChunks codec [] chunks = some (items, codec', kept)) ∧
    (∀ c buffer, ∃ r, drain c buffer = some r) ∧
    (∀ c c' buffer left, decode c buffer = (none, c', left) →
      ¬ ([0xFE, 0xFE] <:+: left ∧ [0xFE, 0x0D] <:+: left)) := by
  refine ⟨?_, fun c buffer => ⟨_, drain_eq c buffer⟩, ?_⟩
  · obtain ⟨kept, hkept⟩ := feedChunks_eq codec [] chunks (Splitter.items_of_none rfl)
    exact ⟨_, _, _, kept, drain_eq codec chunks.flatten, hkept⟩
  · rintro c c' buffer left h ⟨hheader, htrailer⟩
    rcases decode_none_clean h with hnone | hnone
    · exact pairPosition_eq_none_iff.mp hnone hheader
    · exact pairPosition_eq_none_iff.mp hnone htrailer

/-- A cut inside the header costs nothing. -/
example : feedChunks ⟨0⟩ [] [[0xAA, 0xFE], [0xFE, 0x7E, 0xA7], [0x6D, 0xFE, 0x0D]] =
    drain ⟨0⟩ [0xAA, 0xFE, 0xFE, 0x7E, 0xA7, 0x6D, 0xFE, 0x0D] := by
  decide

end SatelIntegra
