import SatelIntegra.CodecChunks
import SatelIntegra.CodecRoundTrip

/-!
# A frame behind a truncated one

The decoder cuts a segment at the first trailer behind the first header. If a frame
breaks off, this is the trailer of the next frame: one segment swallows both, and
the second header in it is taken for data. The next frame is only found where the
truncated one already counts as too short, because its payload starts with the
second byte of the trailer.
-/

namespace SatelIntegra

open PairSearch IncrementalSplit

section Pairs

/-- An encoded frame behind bytes without a trailer ends at its own one. -/
lemma pairPosition_trailer_behind {l : List UInt8} (none : pairPosition 0xFE 0x0D l = none)
    (item : Frame) (rest : List UInt8) :
    pairPosition 0xFE 0x0D (l ++ (encode item ++ rest)) =
      (pairPosition 0xFE 0x0D (encode item ++ rest)).map (· + l.length) := by
  by_cases last : l.getLast? = some 0xFE
  · have long : 0 < l.length := by
      cases l with
      | nil => cases last
      | cons x l => simp
    rw [pairPosition_append_of_none_getLast none last, encode_eq, List.cons_append,
      pairPosition_cons_cons_of_ne _ _ (by decide), Option.map_map]
    congr 1
    funext i
    simp only [Function.comp_apply]
    omega
  · exact pairPosition_append_of_none none last _

/-- What is cut off from behind the header of a frame has neither a header nor a trailer. -/
lemma pairPosition_truncated {b : UInt8} (hb : b ≠ 0xF0) {data t : List UInt8}
    (h : t <+: stuff data ++ [0xFE]) : pairPosition 0xFE b t = none := by
  obtain ⟨missing, whole⟩ := h
  have clean : pairPosition 0xFE b (stuff data ++ [0xFE]) = none := by
    rw [pairPosition_stuff hb]
    rfl
  rw [← whole] at clean
  exact pairPosition_none_of_append clean

end Pairs

section Swallowed
variable {item : Frame}

/-- Bytes in front that end in no trailer belong to the segment of the frame behind them. -/
lemma segments_swallowed (hfirst : item.head? ≠ some 0x0D) {l : List UInt8}
    (none : pairPosition 0xFE 0x0D l = none)
    (header : ∃ body, l ++ encode item = 0xFE :: 0xFE :: body) :
    segments (l ++ encode item) = [l ++ encode item] := by
  have trailer := pairPosition_trailer_behind none item []
  have own := pairPosition_encode hfirst []
  rw [List.append_nil] at trailer own
  obtain ⟨body, hbody⟩ := header
  have front : toHeader (l ++ encode item) = some (l ++ encode item) := by
    rw [hbody]
    exact toHeader_of_starts body
  have size : (stuff (item ++ toBeBytes (calculateCrc item))).length + 2 + l.length + 2 =
      (l ++ encode item).length := by
    rw [List.length_append, encode_length]
    omega
  have whole : takeSegment (l ++ encode item) = some (l ++ encode item, []) := by
    simp only [takeSegment, front, Option.bind_some, cutTrailer, trailer, own, Option.map_some, size,
      List.take_length, List.drop_length]
  rw [segments_of_some whole, segments_of_none rfl]

lemma unstuff_cons_length (x : UInt8) (w : List UInt8) :
    (unstuff w).length ≤ (unstuff (x :: w)).length := by
  match w with
  | [] => exact Nat.zero_le _
  | [_] => exact Nat.zero_le _
  | y :: z :: rest =>
    by_cases escape : x = 0xFE ∧ y = 0xF0
    · obtain ⟨rfl, rfl⟩ := escape
      cases rest with
      | nil => exact Nat.zero_le _
      | cons a rest => simp [unstuff]
    · rw [unstuff, if_neg escape, List.length_cons]
      exact Nat.le_succ _

/-- Bytes in front do not shorten what the unstuffing loop finds. -/
lemma unstuff_append_length (u w : List UInt8) :
    (unstuff w).length ≤ (unstuff (u ++ w)).length := by
  induction u with
  | nil => exact Nat.le_refl _
  | cons x u ih => exact Nat.le_trans ih (unstuff_cons_length x (u ++ w))

lemma unstuff_cons_of_ne {y : UInt8} (hy : y ≠ 0xF0) (x z : UInt8) (rest : List UInt8) :
    unstuff (x :: y :: z :: rest) = x :: unstuff (y :: z :: rest) := by
  rw [unstuff, if_neg fun escape => hy escape.2]

/-- A segment that reads as the payload unstuffs to it and two bytes of checksum. -/
lemma unstuff_of_payload {raw : List UInt8} (h : readSegment raw = .payload item) :
    ∃ high low, unstuff (raw.drop 2) = item ++ [high, low] := by
  unfold readSegment at h
  split at h
  · next low high dataRev reversed =>
    split at h
    · cases h
      refine ⟨high, low, ?_⟩
      rw [← List.reverse_reverse (unstuff (raw.drop 2)), reversed]
      simp
    · cases h
  · cases h

/-- Of what follows the header, the first byte is an `F0` only if the payload starts with it. -/
lemma stuff_starts (item : Frame) (x y : UInt8) :
    ∃ z z' more, stuff (item ++ toBeBytes (calculateCrc item)) ++ [x, y] = z :: z' :: more ∧
      (z = 0xF0 → item.head? = some 0xF0) := by
  cases item with
  | nil => exact ⟨0x14, 0x7A, [x, y], rfl, fun h => absurd h (by decide)⟩
  | cons byte data =>
    have more : ∃ z' more,
        stuff (data ++ toBeBytes (calculateCrc (byte :: data))) ++ [x, y] = z' :: more := by
      cases stuff (data ++ toBeBytes (calculateCrc (byte :: data))) with
      | nil => exact ⟨_, _, rfl⟩
      | cons z' more => exact ⟨z', _, rfl⟩
    obtain ⟨z', more, hmore⟩ := more
    by_cases hbyte : byte = 0xFE
    · refine ⟨0xFE, 0xF0, z' :: more, ?_, fun h => absurd h (by decide)⟩
      rw [List.cons_append, stuff_cons, if_pos hbyte, List.append_assoc, hmore]
      rfl
    · refine ⟨byte, z', more, ?_, fun h => congrArg some h⟩
      rw [List.cons_append, stuff_cons_of_ne hbyte, List.cons_append, hmore]

/-- With one more `FE` in front, the header's last byte is taken for data. -/
lemma readSegment_extra (item : Frame) : readSegment (0xFE :: encode item) ≠ .payload item := by
  intro h
  obtain ⟨high, low, found⟩ := unstuff_of_payload h
  have body := unstuff_stuff (item ++ toBeBytes (calculateCrc item)) 0xFE 0x0D
  have front : (0xFE :: encode item).drop 2 =
      0xFE :: (stuff (item ++ toBeBytes (calculateCrc item)) ++ [0xFE, 0x0D]) := by
    rw [encode_eq]
    rfl
  obtain ⟨z, z', more, hmore, hz⟩ := stuff_starts item 0xFE 0x0D
  rw [front, hmore] at found
  by_cases escape : z = 0xF0
  · have first := hz escape
    rw [escape, unstuff, if_pos ⟨rfl, rfl⟩] at found
    have head := congrArg List.head? found
    rw [List.head?_append, first] at head
    exact absurd head (by simp)
  · rw [unstuff_cons_of_ne escape, ← hmore, body] at found
    have total := congrArg List.length found
    simp [toBeBytes] at total

/-- A header and anything behind it in front of a frame adds to what is unstuffed. -/
lemma readSegment_truncated (item : Frame) (t : List UInt8) :
    readSegment (0xFE :: 0xFE :: t ++ encode item) ≠ .payload item := by
  intro h
  obtain ⟨high, low, found⟩ := unstuff_of_payload h
  have body := unstuff_stuff (item ++ toBeBytes (calculateCrc item)) 0xFE 0x0D
  have shorter := unstuff_append_length t (encode item)
  have longer : (item ++ toBeBytes (calculateCrc item)).length + 1 ≤
      (unstuff (encode item)).length := by
    have tail := unstuff_cons_length 0xFE
      (stuff (item ++ toBeBytes (calculateCrc item)) ++ [0xFE, 0x0D])
    rw [body] at tail
    obtain ⟨z, z', more, hmore, -⟩ := stuff_starts item 0xFE 0x0D
    rw [encode_eq, hmore, unstuff_cons_of_ne (by decide), List.length_cons, ← hmore]
    exact Nat.succ_le_succ tail
  have total := congrArg List.length found
  simp [toBeBytes] at total longer shorter
  omega

end Swallowed

/-- Draining the buffer reports the payload. -/
def Delivers (src : List UInt8) (item : Frame) : Prop :=
  ∀ codec, ∃ items codec' left, drain codec src = some (items, codec', left) ∧ item ∈ items

lemma delivers_iff (src : List UInt8) (item : Frame) :
    Delivers src item ↔ item ∈ payloads (segments src) := by
  constructor
  · intro h
    obtain ⟨items, codec', left, drained, delivered⟩ := h ⟨0⟩
    rw [drain_eq] at drained
    cases drained
    exact delivered
  · intro h codec
    exact ⟨_, _, _, drain_eq codec src, h⟩

lemma payloads_singleton {raw : List UInt8} {item : Frame} :
    item ∈ payloads [raw] ↔ readSegment raw = .payload item := by
  cases h : readSegment raw with
  | payload found => simp [payloads, h, eq_comm]
  | badCrc => simp [payloads, h]
  | tooShort => simp [payloads, h]

/-- The truncated frame left nothing, or a segment that is too short and ends in no `FE`. -/
def LeavesNextFrame (frame : Frame) (cut : List UInt8) : Prop :=
  cut = [] ∨ frame.head? = some 0x0D ∧ 3 ≤ cut.length ∧ cut.getLast? ≠ some 0xFE

section Truncated
variable {item : Frame} (hfirst : item.head? ≠ some 0x0D)
include hfirst

lemma delivers_self : Delivers (encode item) item := by
  have whole := takeSegment_encode hfirst []
  rw [List.append_nil] at whole
  rw [delivers_iff, segments_of_some whole, segments_of_none rfl, payloads_singleton]
  exact readSegment_encode item

/-- A single `FE` in front hides the frame. -/
lemma not_delivers_extra : ¬ Delivers (0xFE :: encode item) item := by
  have swallowed := segments_swallowed hfirst (l := [0xFE]) rfl ⟨_, by rw [encode_eq]; rfl⟩
  rw [List.singleton_append] at swallowed
  rw [delivers_iff, swallowed, payloads_singleton]
  exact readSegment_extra item

/-- So does a header, unless a trailer begins in it. -/
lemma not_delivers_header {data t : List UInt8} (part : t <+: stuff data ++ [0xFE])
    (start : t.head? ≠ some 0x0D) : ¬ Delivers (0xFE :: 0xFE :: t ++ encode item) item := by
  have clean : pairPosition 0xFE 0x0D (0xFE :: 0xFE :: t) = none := by
    rw [pairPosition_cons_cons_of_ne _ _ (by decide)]
    cases t with
    | nil => rfl
    | cons x t =>
      have hx : x ≠ 0x0D := by simpa using start
      rw [pairPosition_cons_cons_of_ne _ _ hx, pairPosition_truncated (by decide) part]
      rfl
  rw [delivers_iff, segments_swallowed hfirst clean ⟨_, rfl⟩, payloads_singleton]
  exact readSegment_truncated item t

omit hfirst in
/-- Of bytes without a header, a last `FE` is kept for the header behind them. -/
lemma segments_behind {t : List UInt8} (clean : pairPosition 0xFE 0xFE t = none) :
    segments (t ++ encode item) =
      segments (if t.getLast? = some 0xFE then 0xFE :: encode item else encode item) := by
  apply Splitter.items_congr
  change takeSegment _ = takeSegment _
  have header : toHeader (t ++ encode item) =
      toHeader (if t.getLast? = some 0xFE then 0xFE :: encode item else encode item) := by
    by_cases last : t.getLast? = some 0xFE
    · have found := pairPosition_append_of_none_getLast clean last (encode item)
      have kept : t.drop (t.length - 1) = [0xFE] := by
        obtain ⟨front, rfl⟩ := List.getLast?_eq_some_iff.mp last
        simp
      have hit : pairPosition 0xFE 0xFE (0xFE :: encode item) = some 0 := by
        rw [encode_eq]
        exact pairPosition_hit _ _ _
      rw [hit] at found
      simp only [if_pos last, toHeader, found, hit, Option.map_some, Nat.zero_add, List.drop_zero,
        List.drop_append_of_le_length (Nat.sub_le t.length 1), kept, List.singleton_append]
    · have found := pairPosition_append_of_none clean last (encode item)
      have hit : pairPosition 0xFE 0xFE (encode item) = some 0 := by
        rw [encode_eq]
        exact pairPosition_hit _ _ _
      rw [hit] at found
      simp only [if_neg last, toHeader, found, hit, Option.map_some, Nat.zero_add, List.drop_zero,
        List.drop_left]
  rw [takeSegment, takeSegment, header]

/-- Behind the segment that is too short, a frame is found unless an `FE` stands before it. -/
lemma delivers_tooShort_iff {data t : List UInt8} (part : t <+: stuff data ++ [0xFE]) :
    Delivers (0xFE :: 0xFE :: 0x0D :: t ++ encode item) item ↔ t.getLast? ≠ some 0xFE := by
  have short : takeSegment (0xFE :: 0xFE :: 0x0D :: t ++ encode item) =
      some ([0xFE, 0xFE, 0x0D], t ++ encode item) := by
    simp [takeSegment, toHeader, cutTrailer, pairPosition]
  have rest : Delivers (0xFE :: 0xFE :: 0x0D :: t ++ encode item) item ↔
      Delivers (if t.getLast? = some 0xFE then 0xFE :: encode item else encode item) item := by
    rw [delivers_iff, delivers_iff, segments_of_some short,
      segments_behind (pairPosition_truncated (by decide) part)]
    rfl
  rw [rest]
  by_cases last : t.getLast? = some 0xFE
  · rw [if_pos last]
    exact iff_of_false (not_delivers_extra hfirst) fun kept => kept last
  · rw [if_neg last]
    exact iff_of_true (delivers_self hfirst) last

end Truncated

/-- A proper prefix of an encoded frame ends inside its header, or before the last byte of its
trailer. -/
lemma truncated_cases {frame : Frame} {cut : List UInt8} (part : cut <+: encode frame)
    (proper : cut ≠ encode frame) :
    cut = [] ∨ cut = [0xFE] ∨ ∃ t, cut = 0xFE :: 0xFE :: t ∧
      t <+: stuff (frame ++ toBeBytes (calculateCrc frame)) ++ [0xFE] := by
  have behind : encode frame = 0xFE :: 0xFE ::
      (stuff (frame ++ toBeBytes (calculateCrc frame)) ++ [0xFE] ++ [0x0D]) := by
    simp [encode_eq]
  rw [behind] at part proper
  match cut with
  | [] => exact .inl rfl
  | [x] =>
    obtain ⟨rfl, -⟩ := List.cons_prefix_cons.mp part
    exact .inr (.inl rfl)
  | x :: y :: t =>
    obtain ⟨hx, part'⟩ := List.cons_prefix_cons.mp part
    obtain ⟨hy, part''⟩ := List.cons_prefix_cons.mp part'
    refine .inr (.inr ⟨t, by rw [hx, hy], ?_⟩)
    rcases List.prefix_concat_iff.mp part'' with whole | inside
    · exact absurd (by rw [hx, hy, whole]) proper
    · exact inside

/-- Of a truncated frame with a whole one behind it, the second is delivered exactly if the first
left nothing or counts as too short, with no `FE` at the cut. -/
theorem delivers_behind_truncated_iff (frame item : Frame) (cut : List UInt8)
    (part : cut <+: encode frame) (proper : cut ≠ encode frame)
    (hfirst : item.head? ≠ some 0x0D) :
    Delivers (cut ++ encode item) item ↔ LeavesNextFrame frame cut := by
  rcases truncated_cases part proper with rfl | rfl | ⟨t, rfl, inside⟩
  · exact iff_of_true (delivers_self hfirst) (.inl rfl)
  · refine iff_of_false (not_delivers_extra hfirst) ?_
    rintro (empty | ⟨-, long, -⟩)
    · cases empty
    · exact absurd long (by decide)
  · by_cases start : t.head? = some 0x0D
    · obtain ⟨t, rfl⟩ : ∃ t', t = 0x0D :: t' := by
        cases t with
        | nil => cases start
        | cons x t => exact ⟨t, by simpa using start⟩
      -- only the payload itself puts the trailer's second byte behind the header
      have first : frame.head? = some 0x0D := by
        by_contra other
        obtain ⟨x, more, hmore, hx⟩ := encodedTail_starts other []
        have head := (inside.trans ⟨[0x0D], by simp [encodedTail]⟩ :
          0x0D :: t <+: encodedTail frame ++ [])
        rw [hmore] at head
        exact hx (List.cons_prefix_cons.mp head).1.symm
      obtain ⟨data, rfl⟩ : ∃ data, frame = 0x0D :: data := by
        cases frame with
        | nil => cases first
        | cons x data => exact ⟨data, by simpa using first⟩
      have part : t <+: stuff (data ++ toBeBytes (calculateCrc (0x0D :: data))) ++ [0xFE] := by
        rw [List.cons_append, stuff_cons_of_ne (by decide), List.cons_append] at inside
        exact (List.cons_prefix_cons.mp inside).2
      refine (delivers_tooShort_iff hfirst part).trans ?_
      cases hlast : t.getLast? with
      | none => simp [LeavesNextFrame, List.getLast?_eq_none_iff.mp hlast]
      | some last => simp [LeavesNextFrame, List.getLast?_cons, hlast]
    · refine iff_of_false (not_delivers_header hfirst inside start) ?_
      rintro (empty | ⟨first, long, -⟩)
      · cases empty
      · obtain ⟨data, rfl⟩ : ∃ data, frame = 0x0D :: data := by
          cases frame with
          | nil => cases first
          | cons x data => exact ⟨data, by simpa using first⟩
        cases t with
        | nil => exact absurd long (by decide)
        | cons x t =>
          rw [List.cons_append, stuff_cons_of_ne (by decide), List.cons_append] at inside
          have hx := (List.cons_prefix_cons.mp inside).1
          exact start (congrArg some hx)

/-- A frame that breaks off behind its first byte takes the next one with it. -/
theorem truncated_frame_takes_next :
    [0xFE, 0xFE, 0x7E] <+: encode [0x7E, 0x01] ∧
      (drain ⟨0⟩ ([0xFE, 0xFE, 0x7E] ++ encode [0x7C])).map (·.1) = some [] ∧
      ¬ Delivers ([0xFE, 0xFE, 0x7E] ++ encode [0x7C]) [0x7C] := by
  have nothing : (drain ⟨0⟩ ([0xFE, 0xFE, 0x7E] ++ encode [0x7C])).map (·.1) = some [] := by
    decide
  refine ⟨by decide, nothing, ?_⟩
  intro delivers
  obtain ⟨items, codec', left, drained, delivered⟩ := delivers ⟨0⟩
  rw [drained] at nothing
  cases nothing
  cases delivered

/-- A list of partitions with a first code entered that breaks off costs only itself. -/
theorem delivers_behind_truncated_first_code :
    Delivers ([0xFE, 0xFE, 0x0D, 0x01] ++ encode [0x7C]) [0x7C] :=
  (delivers_behind_truncated_iff [0x0D, 0x01, 0x02] [0x7C] [0xFE, 0xFE, 0x0D, 0x01] (by decide)
    (by decide) (by decide)).mpr (.inr (by decide))

end SatelIntegra
