import SatelIntegra.CodecSegments

/-!
# Framing round trip

Inside a stuffed body `FE` is always followed by `F0`, so neither the header nor
the trailer can be found in it. The one border where this does not help is the
header itself: the trailer search starts at the first byte of the buffer, and the
second `FE` of the header makes a trailer with a payload that starts with `0D`.
-/

namespace SatelIntegra

open PairSearch IncrementalSplit

lemma stuff_nil : stuff [] = [] := rfl

lemma stuff_cons (byte : UInt8) (data : List UInt8) :
    stuff (byte :: data) = (if byte = 0xFE then [0xFE, 0xF0] else [byte]) ++ stuff data := rfl

lemma stuff_cons_of_ne {byte : UInt8} (h : byte ≠ 0xFE) (data : List UInt8) :
    stuff (byte :: data) = byte :: stuff data := by
  simp [stuff_cons, h]

lemma stuff_append (a b : List UInt8) : stuff (a ++ b) = stuff a ++ stuff b :=
  List.flatMap_append

lemma encode_eq (item : Frame) :
    encode item =
      0xFE :: 0xFE :: (stuff (item ++ toBeBytes (calculateCrc item)) ++ [0xFE, 0x0D]) := by
  simp [encode, stuff_append]

/-- A pair that starts with `FE` and is no escape lies behind a stuffed body, not in it. -/
lemma pairPosition_stuff {b : UInt8} (hb : b ≠ 0xF0) (data r : List UInt8) :
    pairPosition 0xFE b (stuff data ++ r) =
      (pairPosition 0xFE b r).map (· + (stuff data).length) := by
  induction data with
  | nil => simp [stuff_nil]
  | cons byte data ih =>
    by_cases hbyte : byte = 0xFE
    · have hfirst : stuff (byte :: data) ++ r = 0xFE :: 0xF0 :: (stuff data ++ r) := by
        simp [stuff_cons, hbyte]
      rw [hfirst, pairPosition_cons_cons_of_ne _ _ (Ne.symm hb),
        pairPosition_cons_of_ne _ (by decide), ih]
      simp [stuff_cons, hbyte, Function.comp_def, Nat.add_assoc]
    · rw [stuff_cons_of_ne hbyte, List.cons_append, pairPosition_cons_of_ne _ hbyte, ih]
      simp [Function.comp_def, Nat.add_assoc]

/-- The unstuffing loop, stopped two bytes before the end, undoes the stuffing. -/
lemma unstuff_stuff (data : List UInt8) (x y : UInt8) :
    unstuff (stuff data ++ [x, y]) = data := by
  induction data with
  | nil => rfl
  | cons byte data ih =>
    obtain ⟨z, more, hmore⟩ : ∃ z more, stuff data ++ [x, y] = z :: more := by
      cases hs : stuff data with
      | nil => exact ⟨x, [y], rfl⟩
      | cons z more => exact ⟨z, more ++ [x, y], rfl⟩
    by_cases hbyte : byte = 0xFE
    · have hfirst : stuff (byte :: data) ++ [x, y] = 0xFE :: 0xF0 :: z :: more := by
        simp [stuff_cons, hbyte, ← hmore]
      rw [hfirst, unstuff, if_pos ⟨rfl, rfl⟩, ← hmore, ih, hbyte]
    · have hpair : ∃ w rest, more = w :: rest := by
        cases hs : more with
        | nil =>
          have hlen := congrArg List.length hmore
          simp [hs] at hlen
        | cons w rest => exact ⟨w, rest, rfl⟩
      obtain ⟨w, rest, rfl⟩ := hpair
      rw [stuff_cons_of_ne hbyte, List.cons_append, hmore, unstuff,
        if_neg (fun h => hbyte h.1), ← hmore, ih]

lemma fromBeBytes_toNat (high low : UInt8) :
    (fromBeBytes high low).toNat = high.toNat * 256 + low.toNat := by
  have hlow : low.toNat < 2 ^ 8 := low.toNat_lt
  have hhigh : high.toNat < 2 ^ 8 := high.toNat_lt
  have hshift : high.toNat <<< 8 % 2 ^ 16 = high.toNat <<< 8 :=
    Nat.mod_eq_of_lt (by rw [Nat.shiftLeft_eq]; omega)
  have hcount : UInt16.toNat 8 % 16 = 8 := rfl
  simp only [fromBeBytes, UInt16.toNat_or, UInt16.toNat_shiftLeft, UInt8.toNat_toUInt16]
  rw [hcount, hshift, ← Nat.shiftLeft_add_eq_or_of_lt hlow, Nat.shiftLeft_eq]

lemma fromBeBytes_toBeBytes (crc : UInt16) :
    fromBeBytes (crc >>> 8).toUInt8 crc.toUInt8 = crc := by
  apply UInt16.toNat_inj.mp
  have hcrc := crc.toNat_lt
  rw [fromBeBytes_toNat]
  simp [Nat.shiftRight_eq_div_pow]
  omega

/-- A frame is read back from its own encoding. -/
lemma readSegment_encode (item : Frame) : readSegment (encode item) = .payload item := by
  have hbody : unstuff ((encode item).drop 2) = item ++ toBeBytes (calculateCrc item) := by
    rw [encode_eq]
    exact unstuff_stuff _ _ _
  have hrev : (unstuff ((encode item).drop 2)).reverse =
      (calculateCrc item).toUInt8 :: (calculateCrc item >>> 8).toUInt8 :: item.reverse := by
    rw [hbody]
    simp [toBeBytes]
  simp only [readSegment, hrev, List.reverse_reverse, fromBeBytes_toBeBytes, if_true]

lemma toHeader_encode (item : Frame) (rest : List UInt8) :
    toHeader (encode item ++ rest) = some (encode item ++ rest) := by
  rw [encode_eq]
  exact toHeader_of_starts _

/-- The bytes of an encoded frame behind its header. -/
def encodedTail (item : Frame) : List UInt8 :=
  stuff (item ++ toBeBytes (calculateCrc item)) ++ [0xFE, 0x0D]

lemma pairPosition_encodedTail {b : UInt8} (hb : b ≠ 0xF0) (item : Frame) (r : List UInt8) :
    pairPosition 0xFE b (encodedTail item ++ r) =
      (pairPosition 0xFE b (0xFE :: 0x0D :: r)).map
        (· + (stuff (item ++ toBeBytes (calculateCrc item))).length) := by
  simpa [encodedTail] using pairPosition_stuff hb _ (0xFE :: 0x0D :: r)

/-- No trailer begins in the header, unless the payload lets it. -/
lemma encodedTail_starts {item : Frame} (hfirst : item.head? ≠ some 0x0D) (rest : List UInt8) :
    ∃ x more, encodedTail item ++ rest = x :: more ∧ x ≠ 0x0D := by
  cases item with
  | nil => exact ⟨0x14, _, rfl, by decide⟩
  | cons byte data =>
    by_cases hbyte : byte = 0xFE
    · exact ⟨0xFE, _, by simp [encodedTail, stuff_cons, hbyte]; rfl, by decide⟩
    · refine ⟨byte, _, by simp [encodedTail, stuff_cons_of_ne hbyte]; rfl, ?_⟩
      simpa using hfirst

lemma pairPosition_encode {item : Frame} (hfirst : item.head? ≠ some 0x0D) (rest : List UInt8) :
    pairPosition 0xFE 0x0D (encode item ++ rest) =
      some ((stuff (item ++ toBeBytes (calculateCrc item))).length + 2) := by
  obtain ⟨x, more, hmore, hx⟩ := encodedTail_starts hfirst rest
  have htail := pairPosition_encodedTail (b := 0x0D) (by decide) item rest
  have hheader : encode item ++ rest = 0xFE :: 0xFE :: (encodedTail item ++ rest) := by
    simp [encode_eq, encodedTail]
  rw [pairPosition_hit] at htail
  rw [hheader, pairPosition_cons_cons_of_ne _ _ (by decide), hmore,
    pairPosition_cons_cons_of_ne _ _ hx, ← hmore, htail]
  simp

lemma encode_length (item : Frame) : (encode item).length =
    (stuff (item ++ toBeBytes (calculateCrc item))).length + 2 + 2 := by
  simp [encode_eq]

lemma takeSegment_encode {item : Frame} (hfirst : item.head? ≠ some 0x0D) (rest : List UInt8) :
    takeSegment (encode item ++ rest) = some (encode item, rest) := by
  simp only [takeSegment, toHeader_encode, Option.bind_some, cutTrailer,
    pairPosition_encode hfirst, Option.map_some]
  rw [← encode_length, List.take_left, List.drop_left]

/-- A trailer is found across the border of the header and a payload that starts with `0D`. -/
lemma takeSegment_encode_cr (data rest : List UInt8) :
    ∃ raw, takeSegment (encode (0x0D :: data) ++ rest) =
        some (raw, (encodedTail (0x0D :: data)).tail ++ rest) ∧
      readSegment raw = .tooShort := by
  refine ⟨[0xFE, 0xFE, 0x0D], ?_, rfl⟩
  rw [takeSegment, toHeader_encode]
  simp [cutTrailer, encode_eq, encodedTail, stuff_cons, pairPosition]

/-- What the decoder returns lies strictly behind the header it found. -/
lemma decode_length {codec codec' : SatelCodec} {src src' : List UInt8} {item : Frame}
    (h : decode codec src = (some item, codec', src')) :
    ∃ tail, toHeader src = some tail ∧ src'.length < tail.length := by
  induction src using Splitter.splitInduction (S := segmentSplitter) generalizing codec with
  | stop src hnone =>
    rw [decode_of_none codec hnone] at h
    cases h
  | step src raw rest hsome ih =>
    obtain ⟨tail, htail, hcut⟩ := Option.bind_eq_some_iff.mp hsome
    have hlt := cutTrailer_length hcut
    refine ⟨tail, htail, ?_⟩
    cases hread : readSegment raw with
    | payload item' =>
      rw [decode_of_payload codec hsome hread] at h
      cases h
      exact hlt
    | badCrc =>
      rw [decode_of_badCrc codec hsome hread] at h
      obtain ⟨tail', htail', hlt'⟩ := ih h
      have hle := toHeader_length htail'
      omega
    | tooShort =>
      rw [decode_of_tooShort codec hsome hread] at h
      obtain ⟨tail', htail', hlt'⟩ := ih h
      have hle := toHeader_length htail'
      omega

/-- No header lies between the start of a payload and the end of its trailer. -/
lemma toHeader_encodedTail (data rest : List UInt8) :
    toHeader ((encodedTail (0x0D :: data)).tail ++ rest) = toHeader rest := by
  have hbody : (encodedTail (0x0D :: data)).tail =
      stuff (data ++ toBeBytes (calculateCrc (0x0D :: data))) ++ [0xFE, 0x0D] := by
    simp [encodedTail, stuff_cons]
  have hnone : pairPosition 0xFE 0xFE (encodedTail (0x0D :: data)).tail = none := by
    rw [hbody, pairPosition_stuff (by decide)]
    rfl
  have hlast : (encodedTail (0x0D :: data)).tail.getLast? ≠ some 0xFE := by
    simp [hbody]
  simp only [toHeader, pairPosition_append_of_none hnone hlast, Option.map_map]
  congr 1
  funext i
  have hdrop : (encodedTail (0x0D :: data)).tail.drop
      (i + (encodedTail (0x0D :: data)).tail.length) = [] :=
    List.drop_eq_nil_of_le (by omega)
  simp only [Function.comp_apply, List.drop_append, hdrop, List.nil_append, Nat.add_sub_cancel]

/-- Encoding, then decoding in front of any further bytes, returns the payload,
consumes exactly its encoding and counts no error, unless the payload starts with
the second byte of the trailer. -/
theorem decode_encode_iff (codec : SatelCodec) (item : Frame) (rest : List UInt8) :
    decode codec (encode item ++ rest) = (some item, codec, rest) ↔
      item.head? ≠ some 0x0D := by
  constructor
  · intro h hfirst
    obtain ⟨data, rfl⟩ : ∃ data, item = 0x0D :: data := by
      cases item with
      | nil => cases hfirst
      | cons byte data => exact ⟨data, by simpa using hfirst⟩
    obtain ⟨raw, hseg, hread⟩ := takeSegment_encode_cr data rest
    rw [decode_of_tooShort codec hseg hread] at h
    obtain ⟨tail, htail, hlt⟩ := decode_length h
    rw [toHeader_encodedTail] at htail
    have hle := toHeader_length htail
    omega
  · intro hfirst
    exact decode_of_payload codec (takeSegment_encode hfirst rest) (readSegment_encode item)

/-- The list of partitions with a first code entered has command byte `0D`: its
frame is lost, not returned. -/
theorem decode_encode_first_code :
    decode ⟨0⟩ (encode [0x0D, 0x01] ++ []) = (none, ⟨0⟩, []) ∧
      decode ⟨0⟩ (encode [0x0D, 0x01] ++ []) ≠ (some [0x0D, 0x01], ⟨0⟩, []) := by
  decide

end SatelIntegra
