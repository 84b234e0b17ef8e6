import SatelIntegra.PairSearch

/-!
# The framing codec

`encode` and `decode` follow `SatelCodec` line by line. A frame on the wire is
`FE FE`, the stuffed payload, the stuffed checksum and `FE 0D`; stuffing writes
`FE F0` for every `FE`. The decoder searches the raw buffer, so it has to find
the frame borders before it can take the stuffing away again.
-/

namespace SatelIntegra

open PairSearch

abbrev Frame := List UInt8

/-- One byte of the checksum: rotate left, complement, add the high byte, add the byte. -/
def calculateCrcStep (crc : UInt16) (byte : UInt8) : UInt16 :=
  let crc := (crc <<< 1) ||| (crc >>> 15)
  let crc := crc ^^^ 0xFFFF
  let crc := crc + (crc >>> 8)
  crc + byte.toUInt16

def calculateCrc (data : List UInt8) : UInt16 :=
  data.foldl calculateCrcStep 0x147A

def toBeBytes (n : UInt16) : List UInt8 :=
  [(n >>> 8).toUInt8, n.toUInt8]

def fromBeBytes (high low : UInt8) : UInt16 :=
  (high.toUInt16 <<< 8) ||| low.toUInt16

/-- The codec's only state is the shared counter of rejected checksums. -/
structure SatelCodec where
  crcErrors : UInt64
  deriving DecidableEq, Repr

def stuff (data : List UInt8) : List UInt8 :=
  data.flatMap fun byte => if byte = 0xFE then [0xFE, 0xF0] else [byte]

def encode (item : Frame) : List UInt8 :=
  [0xFE, 0xFE] ++ stuff item ++ stuff (toBeBytes (calculateCrc item)) ++ [0xFE, 0x0D]

/-- The unstuffing loop on `frame_raw[i..]`: it stops when two bytes are left. -/
def unstuff : List UInt8 → List UInt8
  | x :: y :: z :: rest =>
    if x = 0xFE ∧ y = 0xF0 then 0xFE :: unstuff (z :: rest)
    else x :: unstuff (y :: z :: rest)
  | _ => []

/-- `SatelCodec::decode` with a bound on how often it may call itself. The result
is the returned item, the codec afterwards and what is left of the buffer; no
branch returns an error. -/
def decodeFuel : Nat → SatelCodec → List UInt8 → Option Frame × SatelCodec × List UInt8
  | 0, codec, src => (none, codec, src)
  | fuel + 1, codec, src =>
    if src.length < 2 then (none, codec, src)
    else
      match pairPosition 0xFE 0xFE src with
      | none =>
        let toAdvance := if src.getLast? = some 0xFE then src.length - 1 else src.length
        (none, codec, src.drop toAdvance)
      | some pos =>
        let src := src.drop pos
        match pairPosition 0xFE 0x0D src with
        | none => (none, codec, src)
        | some pos =>
          let frameRaw := src.take (pos + 2)
          let src := src.drop (pos + 2)
          match (unstuff (frameRaw.drop 2)).reverse with
          | low :: high :: dataRev =>
            let receivedCrc := fromBeBytes high low
            if receivedCrc = calculateCrc dataRev.reverse then
              (some dataRev.reverse, codec, src)
            else decodeFuel fuel { codec with crcErrors := codec.crcErrors + 1 } src
          | _ => decodeFuel fuel codec src

/-- Every call of `decode` on itself has a shorter buffer, so the length bounds them. -/
def decode (codec : SatelCodec) (src : List UInt8) : Option Frame × SatelCodec × List UInt8 :=
  decodeFuel src.length codec src

end SatelIntegra
