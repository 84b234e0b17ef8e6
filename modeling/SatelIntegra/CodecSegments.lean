import SatelIntegra.Codec
import SatelIntegra.IncrementalSplit

/-!
# The byte stream as a sequence of segments

Between two calls the decoder sees the buffer as noise, then segments. A segment
runs from the first `FE FE` to the first `FE 0D` that begins at or behind it, and
is read on its own: a payload, a wrong checksum, or too short to carry one.
`decode` returns the first payload it meets, and this is the only fact about its
loop the later modules use.
-/

namespace SatelIntegra

open PairSearch IncrementalSplit

/-- Drop everything before the first header. -/
def toHeader (src : List UInt8) : Option (List UInt8) :=
  (pairPosition 0xFE 0xFE src).map (src.drop ·)

/-- Cut behind the first trailer. -/
def cutTrailer (src : List UInt8) : Option (List UInt8 × List UInt8) :=
  (pairPosition 0xFE 0x0D src).map fun pos => (src.take (pos + 2), src.drop (pos + 2))

def takeSegment (src : List UInt8) : Option (List UInt8 × List UInt8) :=
  (toHeader src).bind cutTrailer

inductive Reading where
  | payload (item : Frame)
  | badCrc
  | tooShort
  deriving DecidableEq, Repr

def readSegment (frameRaw : List UInt8) : Reading :=
  match (unstuff (frameRaw.drop 2)).reverse with
  | low :: high :: dataRev =>
    if fromBeBytes high low = calculateCrc dataRev.reverse then .payload dataRev.reverse
    else .badCrc
  | _ => .tooShort

/-- What an unsuccessful call leaves in the buffer. -/
def trimNoise (src : List UInt8) : List UInt8 :=
  if src.length < 2 then src
  else match toHeader src with
    | some src => src
    | none => src.drop (if src.getLast? = some 0xFE then src.length - 1 else src.length)

lemma toHeader_append {src tail : List UInt8} (h : toHeader src = some tail) (m : List UInt8) :
    toHeader (src ++ m) = some (tail ++ m) := by
  simp only [toHeader, Option.map_eq_some_iff] at h
  obtain ⟨i, hi, rfl⟩ := h
  have hlt := pairPosition_lt hi
  simp only [toHeader, pairPosition_append hi m, Option.map_some]
  rw [List.drop_append_of_le_length (by omega)]

lemma toHeader_length {src tail : List UInt8} (h : toHeader src = some tail) :
    tail.length ≤ src.length := by
  simp only [toHeader, Option.map_eq_some_iff] at h
  obtain ⟨i, _, rfl⟩ := h
  simp

lemma toHeader_starts {src tail : List UInt8} (h : toHeader src = some tail) :
    ∃ body, tail = 0xFE :: 0xFE :: body := by
  simp only [toHeader, Option.map_eq_some_iff] at h
  obtain ⟨i, hi, rfl⟩ := h
  exact drop_pairPosition hi

lemma toHeader_of_starts (body : List UInt8) :
    toHeader (0xFE :: 0xFE :: body) = some (0xFE :: 0xFE :: body) := by
  simp [toHeader]

lemma cutTrailer_append {src raw rest : List UInt8} (h : cutTrailer src = some (raw, rest))
    (m : List UInt8) : cutTrailer (src ++ m) = some (raw, rest ++ m) := by
  simp only [cutTrailer, Option.map_eq_some_iff, Prod.mk.injEq] at h
  obtain ⟨i, hi, rfl, rfl⟩ := h
  have hlt := pairPosition_lt hi
  simp only [cutTrailer, pairPosition_append hi m, Option.map_some]
  rw [List.take_append_of_le_length (by omega), List.drop_append_of_le_length (by omega)]

lemma cutTrailer_length {src raw rest : List UInt8} (h : cutTrailer src = some (raw, rest)) :
    rest.length < src.length := by
  simp only [cutTrailer, Option.map_eq_some_iff, Prod.mk.injEq] at h
  obtain ⟨i, hi, -, rfl⟩ := h
  have hlt := pairPosition_lt hi
  simp only [List.length_drop]
  omega

/-- The segments of the byte stream obey the laws of incremental splitting. -/
def segmentSplitter : Splitter UInt8 (List UInt8) where
  split := takeSegment
  shorter := by
    intro src raw rest h
    obtain ⟨tail, htail, hcut⟩ := Option.bind_eq_some_iff.mp h
    have hle := toHeader_length htail
    have hlt := cutTrailer_length hcut
    omega
  extend := by
    intro src raw rest h m
    obtain ⟨tail, htail, hcut⟩ := Option.bind_eq_some_iff.mp h
    exact Option.bind_eq_some_iff.mpr ⟨tail ++ m, toHeader_append htail m, cutTrailer_append hcut m⟩

def segments (src : List UInt8) : List (List UInt8) := segmentSplitter.items src

lemma segments_of_none {src : List UInt8} (h : takeSegment src = none) : segments src = [] :=
  Splitter.items_of_none h

lemma segments_of_some {src raw rest : List UInt8} (h : takeSegment src = some (raw, rest)) :
    segments src = raw :: segments rest :=
  Splitter.items_of_some h

lemma takeSegment_of_short {src : List UInt8} (h : src.length < 2) : takeSegment src = none := by
  match src, h with
  | [], _ => rfl
  | [_], _ => rfl
  | _ :: _ :: _, h => exact absurd h (by simp)

/-- One turn of the decoder, in terms of the segment at the front of the buffer. -/
lemma decodeFuel_succ (fuel : Nat) (codec : SatelCodec) (src : List UInt8) :
    decodeFuel (fuel + 1) codec src =
      match takeSegment src with
      | none => (none, codec, trimNoise src)
      | some (raw, rest) =>
        match readSegment raw with
        | .payload item => (some item, codec, rest)
        | .badCrc => decodeFuel fuel { codec with crcErrors := codec.crcErrors + 1 } rest
        | .tooShort => decodeFuel fuel codec rest := by
  by_cases short : src.length < 2
  · simp [decodeFuel, takeSegment_of_short short, trimNoise, short]
  · cases hheader : pairPosition 0xFE 0xFE src with
    | none => simp [decodeFuel, takeSegment, toHeader, trimNoise, short, hheader]
    | some i =>
      cases htrailer : pairPosition 0xFE 0x0D (src.drop i) with
      | none =>
        simp [decodeFuel, takeSegment, toHeader, cutTrailer, trimNoise, short, hheader, htrailer]
      | some j =>
        simp only [decodeFuel, takeSegment, toHeader, cutTrailer, short, hheader, htrailer,
          readSegment, if_false, Option.map_some, Option.bind_some]
        rcases (unstuff (((src.drop i).take (j + 2)).drop 2)).reverse with _ | ⟨low, _ | ⟨high, rev⟩⟩
        · rfl
        · rfl
        · by_cases hcrc : fromBeBytes high low = calculateCrc rev.reverse
          · simp only [if_pos hcrc]
          · simp only [if_neg hcrc]

/-- Fuel beyond the length of the buffer makes no difference. -/
lemma decodeFuel_enough {m n : Nat} (codec : SatelCodec) {src : List UInt8}
    (hm : src.length ≤ m) (hn : src.length ≤ n) :
    decodeFuel m codec src = decodeFuel n codec src := by
  induction m generalizing n codec src with
  | zero =>
    have hnil : src = [] := List.eq_nil_of_length_eq_zero (by omega)
    subst hnil
    cases n <;> rfl
  | succ m ih =>
    cases n with
    | zero =>
      have hnil : src = [] := List.eq_nil_of_length_eq_zero (by omega)
      subst hnil
      rfl
    | succ n =>
      rw [decodeFuel_succ, decodeFuel_succ]
      cases hseg : takeSegment src with
      | none => rfl
      | some p =>
        obtain ⟨raw, rest⟩ := p
        have hlt : rest.length < src.length := segmentSplitter.shorter hseg
        cases hread : readSegment raw with
        | payload item => simp only [hread]
        | badCrc => simp only [hread]; exact ih _ (by omega) (by omega)
        | tooShort => simp only [hread]; exact ih _ (by omega) (by omega)

lemma decode_succ (codec : SatelCodec) (src : List UInt8) :
    decode codec src = decodeFuel (src.length + 1) codec src :=
  decodeFuel_enough codec (Nat.le_refl _) (Nat.le_succ _)

lemma decode_of_none {src : List UInt8} (codec : SatelCodec) (h : takeSegment src = none) :
    decode codec src = (none, codec, trimNoise src) := by
  rw [decode_succ, decodeFuel_succ, h]

lemma decode_of_payload {src raw rest : List UInt8} {item : Frame} (codec : SatelCodec)
    (h : takeSegment src = some (raw, rest)) (hread : readSegment raw = .payload item) :
    decode codec src = (some item, codec, rest) := by
  rw [decode_succ, decodeFuel_succ]
  simp only [h, hread]

lemma decode_of_badCrc {src raw rest : List UInt8} (codec : SatelCodec)
    (h : takeSegment src = some (raw, rest)) (hread : readSegment raw = .badCrc) :
    decode codec src = decode { codec with crcErrors := codec.crcErrors + 1 } rest := by
  have hlt : rest.length < src.length := segmentSplitter.shorter h
  rw [decode_succ, decodeFuel_succ]
  simp only [h, hread]
  exact decodeFuel_enough _ (by omega) (Nat.le_refl _)

lemma decode_of_tooShort {src raw rest : List UInt8} (codec : SatelCodec)
    (h : takeSegment src = some (raw, rest)) (hread : readSegment raw = .tooShort) :
    decode codec src = decode codec rest := by
  have hlt : rest.length < src.length := segmentSplitter.shorter h
  rw [decode_succ, decodeFuel_succ]
  simp only [h, hread]
  exact decodeFuel_enough _ (by omega) (Nat.le_refl _)

end SatelIntegra
