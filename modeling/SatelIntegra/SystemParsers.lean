import SatelIntegra.MaskParsers

/-!
# Parsers of the version and status replies

Version texts are bytes read as UTF-8, each maximal invalid part replaced by one
U+FFFD, and trimmed of white space. Calendar arithmetic belongs to the time zone
database and is a field of `Clock`.
-/

namespace SatelIntegra

open CheckedAccess

/-- `Local::now()`, and `Local.with_ymd_and_hms(..).single()`. -/
structure Clock where
  now : LocalTime
  single : (year : Int) → (month day hour min sec : UInt32) → Option LocalTime

section Text

def isContinuation (b : UInt8) : Bool := b &&& 0xC0 == 0x80

def replacementChar : Char := '\uFFFD'

/-- The bytes that may follow the lead byte of a sequence of three or four. -/
def secondByteOk (lead second : UInt8) : Bool :=
  if lead == 0xE0 then 0xA0 ≤ second && second ≤ 0xBF
  else if lead == 0xED then 0x80 ≤ second && second ≤ 0x9F
  else if lead == 0xF0 then 0x90 ≤ second && second ≤ 0xBF
  else if lead == 0xF4 then 0x80 ≤ second && second ≤ 0x8F
  else isContinuation second

def payloadBits (b : UInt8) (mask : UInt8) : Nat := (b &&& mask).toNat

/-- The first character of `lead :: rest` and the bytes after it. -/
def lossyChar (lead : UInt8) (rest : List UInt8) : Char × List UInt8 :=
  if lead < 0x80 then (Char.ofNat lead.toNat, rest)
  else if 0xC2 ≤ lead ∧ lead ≤ 0xDF then
    match rest with
    | c₁ :: rest₁ =>
      if isContinuation c₁ then
        (Char.ofNat (payloadBits lead 0x1F * 64 + payloadBits c₁ 0x3F), rest₁)
      else (replacementChar, rest)
    | [] => (replacementChar, rest)
  else if 0xE0 ≤ lead ∧ lead ≤ 0xEF then
    match rest with
    | c₁ :: rest₁ =>
      if secondByteOk lead c₁ then
        match rest₁ with
        | c₂ :: rest₂ =>
          if isContinuation c₂ then
            (Char.ofNat (payloadBits lead 0x0F * 4096 + payloadBits c₁ 0x3F * 64
              + payloadBits c₂ 0x3F), rest₂)
          else (replacementChar, rest₁)
        | [] => (replacementChar, rest₁)
      else (replacementChar, rest)
    | [] => (replacementChar, rest)
  else if 0xF0 ≤ lead ∧ lead ≤ 0xF4 then
    match rest with
    | c₁ :: rest₁ =>
      if secondByteOk lead c₁ then
        match rest₁ with
        | c₂ :: rest₂ =>
          if isContinuation c₂ then
            match rest₂ with
            | c₃ :: rest₃ =>
              if isContinuation c₃ then
                (Char.ofNat (payloadBits lead 0x07 * 262144 + payloadBits c₁ 0x3F * 4096
                  + payloadBits c₂ 0x3F * 64 + payloadBits c₃ 0x3F), rest₃)
              else (replacementChar, rest₂)
            | [] => (replacementChar, rest₂)
          else (replacementChar, rest₁)
        | [] => (replacementChar, rest₁)
      else (replacementChar, rest)
    | [] => (replacementChar, rest)
  else (replacementChar, rest)

/-- Each character takes at least one byte, so as much fuel as bytes is enough. -/
def lossyChars : Nat → List UInt8 → List Char
  | 0, _ => []
  | _ + 1, [] => []
  | fuel + 1, lead :: rest =>
    let (c, rest') := lossyChar lead rest
    c :: lossyChars fuel rest'

/-- `String::from_utf8_lossy` -/
def fromUtf8Lossy (bytes : List UInt8) : List Char := lossyChars bytes.length bytes

/-- The characters with the property `White_Space`. -/
def isWhiteSpace (c : Char) : Bool :=
  let n := c.toNat
  (0x09 ≤ n && n ≤ 0x0D) || n == 0x20 || n == 0x85 || n == 0xA0 || n == 0x1680
    || (0x2000 ≤ n && n ≤ 0x200A) || n == 0x2028 || n == 0x2029 || n == 0x202F
    || n == 0x205F || n == 0x3000

def trim (cs : List Char) : List Char := ((cs.dropWhile isWhiteSpace).reverse.dropWhile
  isWhiteSpace).reverse

def versionText (bytes : List UInt8) : String := String.ofList (trim (fromUtf8Lossy bytes))

end Text

def processEthmVersion (frame : Frame) (now : LocalTime) : Parsed EthmVersion := do
  if frame.isEmpty then throw .invalidFrame
  if (← checked (index frame 0)) != 0x7C then throw .invalidFrame
  let data ← checked (sliceFrom frame 1)
  if data.length < 12 then throw .invalidFrame
  let versionRaw := versionText (← checked (slice data 0 11))
  let capsByte ← checked (index data 11)
  return {
    versionRaw
    capabilities := {
      support32ByteFrames := capsByte &&& 0x01 != 0
      support8TroublesGroups := capsByte &&& 0x02 != 0
      supportExtendedArmingCommands := capsByte &&& 0x04 != 0
      reservedBit3 := capsByte &&& 0x08 != 0
      reservedBit4 := capsByte &&& 0x10 != 0
      reservedBit5 := capsByte &&& 0x20 != 0
      reservedBit6 := capsByte &&& 0x40 != 0
      reservedBit7 := capsByte &&& 0x80 != 0 }
    readAt := now }

/-- Model name, number of zones and outputs, number of partitions. -/
def integraModel (typeCode : UInt8) : String × UInt16 × UInt16 :=
  match typeCode with
  | 0 => ("INTEGRA 24", 24, 4)
  | 1 => ("INTEGRA 32", 32, 16)
  | 2 => ("INTEGRA 64", 64, 32)
  | 3 => ("INTEGRA 128", 128, 32)
  | 4 => ("INTEGRA 128-WRL SIM300", 128, 32)
  | 132 => ("INTEGRA 128-WRL LEON", 128, 32)
  | 66 => ("INTEGRA 64 Plus", 64, 32)
  | 67 => ("INTEGRA 128 Plus", 128, 32)
  | 72 => ("INTEGRA 256 Plus", 256, 32)
  | 8 => ("INTEGRA 256 Plus", 256, 32)
  | _ => ("Unknown INTEGRA", 0, 0)

def languageName (langCode : UInt8) : String :=
  match langCode with
  | 0 => "PL"
  | 1 => "EN"
  | _ => "Other"

def processIntegraVersion (frame : Frame) (now : LocalTime) : Parsed IntegraVersion := do
  if frame.isEmpty then throw .invalidFrame
  if (← checked (index frame 0)) != 0x7E then throw .invalidFrame
  let data ← checked (sliceFrom frame 1)
  if data.length < 14 then throw .invalidFrame
  let (model, ioCount, partitionCount) := integraModel (← checked (index data 0))
  let firmwareVersion := versionText (← checked (slice data 1 12))
  let language := languageName (← checked (index data 12))
  let storedInFlash := (← checked (index data 13)) == 255
  return { model, firmwareVersion, language, storedInFlash, ioCount, partitionCount,
           readAt := now }

def bcdToU8 (bcd : UInt8) : Except Panic UInt8 := do
  addU8 (← mulU8 (bcd >>> 4) 10) (bcd &&& 0x0F)

/-- The date fields and the status byte; eight data bytes carry a four-digit year. -/
def rtcFields (data : Frame) :
    Except Panic (Int × UInt32 × UInt32 × UInt32 × UInt32 × UInt32 × UInt8) := do
  let digits (i : Nat) : Except Panic UInt8 := do bcdToU8 (← index data i)
  if data.length ≥ 8 then
    let century ← digits 0
    let year ← digits 1
    let m ← digits 2
    let d ← digits 3
    let h ← digits 4
    let min ← digits 5
    let s ← digits 6
    let status ← index data 7
    let y ← fit i32Bound ((← fit i32Bound (century.toNat * 100)) + year.toNat)
    return (y, m.toUInt32, d.toUInt32, h.toUInt32, min.toUInt32,
      s.toUInt32, status)
  else
    let year ← digits 0
    let m ← digits 1
    let d ← digits 2
    let h ← digits 3
    let min ← digits 4
    let s ← digits 5
    let status ← index data 6
    let y ← fit i32Bound (2000 + year.toNat)
    return (y, m.toUInt32, d.toUInt32, h.toUInt32, min.toUInt32, s.toUInt32,
      status)

def processRtcAndStatus (frame : Frame) (clock : Clock) : Parsed SystemStatus := do
  if frame.isEmpty then throw .invalidFrame
  if (← checked (index frame 0)) != 0x1A then throw .invalidFrame
  let data ← checked (sliceFrom frame 1)
  if data.length < 7 then throw .invalidFrame
  let (year, month, day, hour, min, sec, statusByte) ← checked (rtcFields data)
  return {
    serviceMode := bitSet statusByte 7
    troublesPresent := bitSet statusByte 6
    troublesMemory := bitSet statusByte 5
    rtc := (clock.single year month day hour min sec).getD clock.now }

/-- The reply carries the version of the module. -/
def isEthmVersion : Frame → Bool
  | [] => false
  | first :: data => first == 0x7C && 12 ≤ data.length

/-- The reply carries the version of the panel. -/
def isIntegraVersion : Frame → Bool
  | [] => false
  | first :: data => first == 0x7E && 14 ≤ data.length

theorem processEthmVersion_eq (frame : Frame) (now : LocalTime) :
    (∃ version, processEthmVersion frame now = (.ok (.ok version) : Except Panic _) ∧
        isEthmVersion frame) ∨
      (processEthmVersion frame now = (.ok (.error .invalidFrame) : Except Panic _) ∧
        ¬ isEthmVersion frame) := by
  cases frame with
  | nil => exact .inr ⟨rfl, by simp [isEthmVersion]⟩
  | cons first data =>
    by_cases hf : first = 0x7C
    · by_cases hl : data.length < 12
      · refine .inr ⟨?_, by simp [isEthmVersion]; omega⟩
        simp [processEthmVersion, hf, hl]
        rfl
      · refine .inl ?_
        have text := slice_of_le data 0 11 (by omega) (by omega)
        have caps := index_of_lt data 11 (by omega)
        have parsed : ∃ version, processEthmVersion (first :: data) now =
            (.ok (.ok version) : Except Panic _) := by
          simp [processEthmVersion, hf, hl, text, caps]
          exact ⟨_, rfl⟩
        obtain ⟨version, hversion⟩ := parsed
        exact ⟨version, hversion, by simp [isEthmVersion, hf]; omega⟩
    · refine .inr ⟨?_, by simp [isEthmVersion, hf]⟩
      simp [processEthmVersion, hf]
      rfl

theorem processIntegraVersion_eq (frame : Frame) (now : LocalTime) :
    (∃ version, processIntegraVersion frame now = (.ok (.ok version) : Except Panic _) ∧
        isIntegraVersion frame) ∨
      (processIntegraVersion frame now = (.ok (.error .invalidFrame) : Except Panic _) ∧
        ¬ isIntegraVersion frame) := by
  cases frame with
  | nil => exact .inr ⟨rfl, by simp [isIntegraVersion]⟩
  | cons first data =>
    by_cases hf : first = 0x7E
    · by_cases hl : data.length < 14
      · refine .inr ⟨?_, by simp [isIntegraVersion]; omega⟩
        simp [processIntegraVersion, hf, hl]
        rfl
      · refine .inl ?_
        have typeCode := index_of_lt data 0 (by omega)
        have text := slice_of_le data 1 12 (by omega) (by omega)
        have lang := index_of_lt data 12 (by omega)
        have stored := index_of_lt data 13 (by omega)
        have parsed : ∃ version, processIntegraVersion (first :: data) now =
            (.ok (.ok version) : Except Panic _) := by
          simp [processIntegraVersion, hf, hl, typeCode, text, lang, stored]
          exact ⟨_, rfl⟩
        obtain ⟨version, hversion⟩ := parsed
        exact ⟨version, hversion, by simp [isIntegraVersion, hf]; omega⟩
    · refine .inr ⟨?_, by simp [isIntegraVersion, hf]⟩
      simp [processIntegraVersion, hf]
      rfl

end SatelIntegra
