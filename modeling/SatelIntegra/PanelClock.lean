import SatelIntegra.SystemParsers

/-!
# The clock of the panel

A reply to `0x1A` carries date and time in packed digits, with two or four digits of
the year. The time zone database turns the numbers into an instant; where it knows
none, or more than one, the time of this machine takes its place.
-/

namespace SatelIntegra

open CheckedAccess

/-- The numbers of a date and a time of day. -/
structure ClockFields where
  year : Int
  month : UInt32
  day : UInt32
  hour : UInt32
  min : UInt32
  sec : UInt32
  deriving DecidableEq, Repr

/-- The time zone: when an instant starts a local second, and which instant is the only one to
start a given one. -/
structure Calendar where
  single : (year : Int) → (month day hour min sec : UInt32) → Option LocalTime
  Starts : LocalTime → ClockFields → Prop
  single_eq : ∀ fields t,
    single fields.year fields.month fields.day fields.hour fields.min fields.sec = some t ↔
      Starts t fields ∧ ∀ t', Starts t' fields → t' = t

/-- The clock that reads `now` in this time zone. -/
def Calendar.readingAt (calendar : Calendar) (now : LocalTime) : Clock := ⟨now, calendar.single⟩

def bcdHigh (bcd : UInt8) : Nat := (bcd >>> 4).toNat

def bcdLow (bcd : UInt8) : Nat := (bcd &&& 0x0F).toNat

/-- The number that two decimal digits spell. -/
def decimal (bcd : UInt8) : Option Nat :=
  if bcdHigh bcd ≤ 9 ∧ bcdLow bcd ≤ 9 then some (bcdHigh bcd * 10 + bcdLow bcd) else none

/-- The date and time that a frame spells, where all its digits are decimal. -/
def spelledClock (data : Frame) : Option ClockFields :=
  let digits (i : Nat) : Option Nat := decimal (data.getD i 0)
  if data.length ≥ 8 then do
    return { year := (← digits 0) * 100 + (← digits 1), month := .ofNat (← digits 2),
             day := .ofNat (← digits 3), hour := .ofNat (← digits 4), min := .ofNat (← digits 5),
             sec := .ofNat (← digits 6) }
  else do
    return { year := 2000 + (← digits 0), month := .ofNat (← digits 1), day := .ofNat (← digits 2),
             hour := .ofNat (← digits 3), min := .ofNat (← digits 4), sec := .ofNat (← digits 5) }

/-- `bcd_to_u8` of any byte. -/
def twoDigits (bcd : UInt8) : UInt8 := bcd >>> 4 * 10 + (bcd &&& 0x0F)

/-- What the parser asks the time zone for. -/
def askedClock (data : Frame) : ClockFields :=
  let digits (i : Nat) : UInt8 := twoDigits (data.getD i 0)
  if data.length ≥ 8 then
    { year := (digits 0).toNat * 100 + (digits 1).toNat, month := (digits 2).toUInt32,
      day := (digits 3).toUInt32, hour := (digits 4).toUInt32, min := (digits 5).toUInt32,
      sec := (digits 6).toUInt32 }
  else
    { year := 2000 + (digits 0).toNat, month := (digits 1).toUInt32, day := (digits 2).toUInt32,
      hour := (digits 3).toUInt32, min := (digits 4).toUInt32, sec := (digits 5).toUInt32 }

def statusByte (data : Frame) : UInt8 := data.getD (if data.length ≥ 8 then 7 else 6) 0

/-- The status that a frame of full length has, by its clock. -/
def statusWith (data : Frame) (rtc : LocalTime) : SystemStatus where
  serviceMode := bitSet (statusByte data) 7
  troublesPresent := bitSet (statusByte data) 6
  troublesMemory := bitSet (statusByte data) 5
  rtc := rtc

section Reading

lemma bcdHigh_le (bcd : UInt8) : bcdHigh bcd ≤ 15 := by
  have := bcd.toNat_lt
  have sixteen : 2 ^ (4 % 8) = 16 := rfl
  simp only [bcdHigh, UInt8.toNat_shiftRight, Nat.shiftRight_eq_div_pow, UInt8.reduceToNat, sixteen]
  omega

lemma bcdLow_le (bcd : UInt8) : bcdLow bcd ≤ 15 := by
  rw [bcdLow, UInt8.toNat_and]
  exact Nat.and_le_right

lemma twoDigits_toNat (bcd : UInt8) : (twoDigits bcd).toNat = bcdHigh bcd * 10 + bcdLow bcd := by
  have high := bcdHigh_le bcd
  have low := bcdLow_le bcd
  unfold bcdHigh bcdLow at *
  rw [twoDigits, UInt8.toNat_add, UInt8.toNat_mul]
  simp only [UInt8.reduceToNat] at *
  omega

lemma twoDigits_of_decimal {bcd : UInt8} {n : Nat} (digits : decimal bcd = some n) :
    (twoDigits bcd).toNat = n := by
  unfold decimal at digits
  split at digits
  · rw [twoDigits_toNat]
    exact Option.some.inj digits
  · cases digits

/-- Decimal digits are read as what they spell. -/
lemma askedClock_of_spelled {data : Frame} {fields : ClockFields}
    (spelled : spelledClock data = some fields) : askedClock data = fields := by
  have wide {bcd : UInt8} {n : Nat} (digits : decimal bcd = some n) :
      (twoDigits bcd).toUInt32 = .ofNat n := by
    rw [← twoDigits_of_decimal digits, UInt32.ofNat_uInt8ToNat]
  unfold spelledClock at spelled
  unfold askedClock
  split at spelled
  · rename_i long
    obtain ⟨century, h₀, spelled⟩ := Option.bind_eq_some_iff.mp spelled
    obtain ⟨year, h₁, spelled⟩ := Option.bind_eq_some_iff.mp spelled
    obtain ⟨month, h₂, spelled⟩ := Option.bind_eq_some_iff.mp spelled
    obtain ⟨day, h₃, spelled⟩ := Option.bind_eq_some_iff.mp spelled
    obtain ⟨hour, h₄, spelled⟩ := Option.bind_eq_some_iff.mp spelled
    obtain ⟨min, h₅, spelled⟩ := Option.bind_eq_some_iff.mp spelled
    obtain ⟨sec, h₆, spelled⟩ := Option.bind_eq_some_iff.mp spelled
    cases spelled
    simp only [if_pos long, twoDigits_of_decimal h₀, twoDigits_of_decimal h₁, wide h₂, wide h₃,
      wide h₄, wide h₅, wide h₆]
  · rename_i short
    obtain ⟨year, h₀, spelled⟩ := Option.bind_eq_some_iff.mp spelled
    obtain ⟨month, h₁, spelled⟩ := Option.bind_eq_some_iff.mp spelled
    obtain ⟨day, h₂, spelled⟩ := Option.bind_eq_some_iff.mp spelled
    obtain ⟨hour, h₃, spelled⟩ := Option.bind_eq_some_iff.mp spelled
    obtain ⟨min, h₄, spelled⟩ := Option.bind_eq_some_iff.mp spelled
    obtain ⟨sec, h₅, spelled⟩ := Option.bind_eq_some_iff.mp spelled
    cases spelled
    simp only [if_neg short, twoDigits_of_decimal h₀, wide h₁, wide h₂, wide h₃, wide h₄, wide h₅]

lemma bcdToU8_eq (bcd : UInt8) : bcdToU8 bcd = .ok (twoDigits bcd) := by
  have high := bcdHigh_le bcd
  have low := bcdLow_le bcd
  have sum := twoDigits_toNat bcd
  unfold bcdHigh bcdLow at *
  have product : (bcd >>> 4 * 10 : UInt8).toNat = (bcd >>> 4).toNat * 10 := by
    rw [UInt8.toNat_mul]
    exact Nat.mod_eq_of_lt (by simp only [UInt8.reduceToNat]; omega)
  have mul_fits : (bcd >>> 4).toNat * (10 : UInt8).toNat < UInt8.size := by
    simp only [UInt8.reduceToNat, UInt8.size]
    omega
  have add_fits : (bcd >>> 4 * 10 : UInt8).toNat + (bcd &&& 0x0F).toNat < UInt8.size := by
    simp only [UInt8.size]
    omega
  simp only [bcdToU8, mulU8, if_pos mul_fits, addU8, ok_bind, if_pos add_fits]
  rfl

lemma rtcFields_eq {data : Frame} (long : 7 ≤ data.length) :
    let fields := askedClock data
    rtcFields data = .ok (fields.year, fields.month, fields.day, fields.hour, fields.min,
      fields.sec, statusByte data) := by
  have digit (i : Nat) (hi : i < 7) :
      (do bcdToU8 (← index data i)) = .ok (twoDigits (data.getD i 0)) := by
    have byte : index data i = .ok (data.getD i 0) := index_getD data i (by omega)
    rw [byte, ok_bind, bcdToU8_eq]
  have first := (twoDigits (data.getD 0 0)).toNat_lt
  have second := (twoDigits (data.getD 1 0)).toNat_lt
  unfold rtcFields
  by_cases hl : data.length ≥ 8
  · have status : index data 7 = .ok (data.getD 7 0) := index_getD data 7 (by omega)
    have hundreds : fit i32Bound ((twoDigits (data.getD 0 0)).toNat * 100) =
        .ok ((twoDigits (data.getD 0 0)).toNat * 100) := fit_of_lt (by rw [i32Bound]; omega)
    have year : fit i32Bound ((twoDigits (data.getD 0 0)).toNat * 100 +
        (twoDigits (data.getD 1 0)).toNat) = .ok ((twoDigits (data.getD 0 0)).toNat * 100 +
          (twoDigits (data.getD 1 0)).toNat) := fit_of_lt (by rw [i32Bound]; omega)
    rw [if_pos hl]
    simp only [digit 0 (by decide), digit 1 (by decide), digit 2 (by decide), digit 3 (by decide),
      digit 4 (by decide), digit 5 (by decide), digit 6 (by decide), status, ok_bind, hundreds,
      year, askedClock, statusByte, if_pos hl]
    rfl
  · have status : index data 6 = .ok (data.getD 6 0) := index_getD data 6 (by omega)
    have year : fit i32Bound (2000 + (twoDigits (data.getD 0 0)).toNat) =
        .ok (2000 + (twoDigits (data.getD 0 0)).toNat) := fit_of_lt (by rw [i32Bound]; omega)
    rw [if_neg hl]
    simp only [digit 0 (by decide), digit 1 (by decide), digit 2 (by decide), digit 3 (by decide),
      digit 4 (by decide), digit 5 (by decide), status, ok_bind, year, askedClock, statusByte,
      if_neg hl]
    rfl

/-- What a reply to `0x1A` says, by the clock of this machine. -/
def systemStatus (clock : Clock) : Frame → Except SatelError SystemStatus
  | 0x1A :: data =>
    let fields := askedClock data
    if 7 ≤ data.length then
      .ok (statusWith data ((clock.single fields.year fields.month fields.day fields.hour
        fields.min fields.sec).getD clock.now))
    else .error .invalidFrame
  | _ => .error .invalidFrame

theorem processRtcAndStatus_eq (frame : Frame) (clock : Clock) :
    processRtcAndStatus frame clock = (.ok (systemStatus clock frame) : Except Panic _) := by
  rcases frame with _ | ⟨first, data⟩
  · rfl
  by_cases hf : first = 0x1A
  · subst hf
    by_cases hl : data.length < 7
    · simp [processRtcAndStatus, systemStatus, hl, Nat.not_le.mpr hl]
      rfl
    · simp [processRtcAndStatus, systemStatus, hl, Nat.not_lt.mp hl,
        rtcFields_eq (Nat.not_lt.mp hl)]
      rfl
  · simp [processRtcAndStatus, systemStatus, hf]
    rfl

theorem processRtcAndStatus_noPanic (frame : Frame) (clock : Clock) :
    NoPanic (processRtcAndStatus frame clock) :=
  ⟨_, processRtcAndStatus_eq frame clock⟩

end Reading

section Replies
variable (calendar : Calendar) (data : Frame)

/-- This instant, and no other, starts the given local second. -/
def Calendar.Only (t : LocalTime) (fields : ClockFields) : Prop :=
  calendar.Starts t fields ∧ ∀ t', calendar.Starts t' fields → t' = t

variable {calendar data}

lemma processRtcAndStatus_spelled {fields : ClockFields} (long : 7 ≤ data.length)
    (spelled : spelledClock data = some fields) (now : LocalTime) :
    processRtcAndStatus (0x1A :: data) (calendar.readingAt now) = (.ok (.ok (statusWith data
      ((calendar.single fields.year fields.month fields.day fields.hour fields.min
        fields.sec).getD now))) : Except Panic _) := by
  rw [processRtcAndStatus_eq, systemStatus, askedClock_of_spelled spelled]
  simp only [if_pos long]
  rfl

variable (calendar data)

/-- Short frames are refused. Where the digits are decimal, the status bits are the frame's; the
time is the one they spell, whatever the local clock reads, if it exists once, and else the local
clock's. -/
theorem reply_clock :
    (data.length < 7 → ∀ now, processRtcAndStatus (0x1A :: data) (calendar.readingAt now) =
      (.ok (.error .invalidFrame) : Except Panic _)) ∧
    (7 ≤ data.length → ∀ fields, spelledClock data = some fields →
      (∀ t, calendar.Only t fields → ∀ now,
        processRtcAndStatus (0x1A :: data) (calendar.readingAt now) =
          (.ok (.ok (statusWith data t)) : Except Panic _)) ∧
      ((∀ t, ¬ calendar.Only t fields) → ∀ now,
        processRtcAndStatus (0x1A :: data) (calendar.readingAt now) =
          (.ok (.ok (statusWith data now)) : Except Panic _))) := by
  constructor
  · intro short now
    rw [processRtcAndStatus_eq, systemStatus, if_neg (Nat.not_le.mpr short)]
  · intro long fields spelled
    constructor
    · intro t only now
      have known := (calendar.single_eq fields t).mpr only
      rw [processRtcAndStatus_spelled long spelled, known]
      rfl
    · intro none now
      have unknown : calendar.single fields.year fields.month fields.day fields.hour fields.min
          fields.sec = .none := by
        refine Option.eq_none_iff_forall_ne_some.mpr ?_
        intro t known
        exact none t ((calendar.single_eq fields t).mp known)
      rw [processRtcAndStatus_spelled long spelled, unknown]
      rfl

/-- The time is the panel's: no clock of this machine changes the reply, the time is the one that
the digits spell, and where they are no digits or spell none the reply is refused. -/
structure Calendar.ReportsPanelClock : Prop where
  steady : ∀ now now', processRtcAndStatus (0x1A :: data) (calendar.readingAt now) =
    processRtcAndStatus (0x1A :: data) (calendar.readingAt now')
  spelled : ∀ now status, processRtcAndStatus (0x1A :: data) (calendar.readingAt now) =
      (.ok (.ok status) : Except Panic _) →
    ∃ fields, spelledClock data = some fields ∧ calendar.Starts status.rtc fields
  refused : (∀ fields, spelledClock data = some fields → ∀ t, ¬ calendar.Only t fields) →
    ∀ now, ∃ e, processRtcAndStatus (0x1A :: data) (calendar.readingAt now) =
      (.ok (.error e) : Except Panic _)

/-- A frame of full length is never refused. -/
lemma processRtcAndStatus_long (long : 7 ≤ data.length) (now : LocalTime) :
    ∃ status, processRtcAndStatus (0x1A :: data) (calendar.readingAt now) =
      (.ok (.ok status) : Except Panic _) := by
  rw [processRtcAndStatus_eq, systemStatus, if_pos long]
  exact ⟨_, rfl⟩

/-- The reply tells the panel's clock if it is refused as too short, or if its digits are decimal
and spell one local time; and otherwise it does not. -/
theorem reports_panel_clock_iff :
    calendar.ReportsPanelClock data ↔
      data.length < 7 ∨ ∃ fields t, spelledClock data = some fields ∧ calendar.Only t fields := by
  obtain ⟨refused, told⟩ := reply_clock calendar data
  constructor
  · intro reports
    by_contra neither
    obtain ⟨long, unspelled⟩ := not_or.mp neither
    have none : ∀ fields, spelledClock data = some fields → ∀ t, ¬ calendar.Only t fields :=
      fun fields spelled t only => unspelled ⟨fields, t, spelled, only⟩
    have now : LocalTime := ⟨0, Nat.zero_le _⟩
    obtain ⟨e, error⟩ := reports.refused none now
    obtain ⟨status, ok⟩ := processRtcAndStatus_long calendar data (Nat.not_lt.mp long) now
    cases Except.ok.inj (error.symm.trans ok)
  · intro tells
    by_cases short : data.length < 7
    · refine ⟨fun now now' => (refused short now).trans (refused short now').symm, ?_, ?_⟩
      · intro now status ok
        cases Except.ok.inj ((refused short now).symm.trans ok)
      · exact fun _ now => ⟨_, refused short now⟩
    · obtain ⟨fields, t, spelled, only⟩ := tells.resolve_left short
      have steady := (told (Nat.not_lt.mp short) fields spelled).1 t only
      refine ⟨fun now now' => (steady now).trans (steady now').symm, ?_, ?_⟩
      · intro now status ok
        cases Except.ok.inj ((steady now).symm.trans ok)
        exact ⟨fields, spelled, only.1⟩
      · exact fun none => absurd only (none fields spelled t)

end Replies

/-- A time zone without any date, for a frame that spells none. -/
def noDates : Calendar where
  single _ _ _ _ _ _ := none
  Starts _ _ := False
  single_eq := by simp

/-- A time zone with one second only. -/
def oneSecond (fields : ClockFields) (t : LocalTime) : Calendar where
  single year month day hour min sec :=
    if ⟨year, month, day, hour, min, sec⟩ = fields then some t else none
  Starts t' fields' := t' = t ∧ fields' = fields
  single_eq fields' t' := by
    by_cases same : fields' = fields
    · simp [same, eq_comm]
    · simp [same]

def october : ClockFields := { year := 2024, month := 10, day := 1, hour := 0, min := 0, sec := 0 }

def octoberStarts : LocalTime := ⟨8336329056000000000000, by decide⟩

/-- Month zero of the year 2000 is whatever time it is here, and month `0A` is October. -/
theorem zero_date_reads_local_clock :
    (∀ now, processRtcAndStatus (0x1A :: List.replicate 7 0) (noDates.readingAt now) =
      (.ok (.ok (statusWith (List.replicate 7 0) now)) : Except Panic _)) ∧
    ¬ noDates.ReportsPanelClock (List.replicate 7 0) ∧
    (∀ now, processRtcAndStatus [0x1A, 0x20, 0x24, 0x0A, 0x01, 0, 0, 0, 0]
        ((oneSecond october octoberStarts).readingAt now) =
      (.ok (.ok (statusWith [0x20, 0x24, 0x0A, 0x01, 0, 0, 0, 0] octoberStarts)) :
        Except Panic _)) ∧
    ¬ (oneSecond october octoberStarts).ReportsPanelClock [0x20, 0x24, 0x0A, 0x01, 0, 0, 0, 0] := by
  have local_clock : ∀ now, processRtcAndStatus (0x1A :: List.replicate 7 0)
      (noDates.readingAt now) =
        (.ok (.ok (statusWith (List.replicate 7 0) now)) : Except Panic _) := by
    intro now
    rw [processRtcAndStatus_eq]
    rfl
  have tenth : ∀ now, processRtcAndStatus [0x1A, 0x20, 0x24, 0x0A, 0x01, 0, 0, 0, 0]
      ((oneSecond october octoberStarts).readingAt now) =
        (.ok (.ok (statusWith [0x20, 0x24, 0x0A, 0x01, 0, 0, 0, 0] octoberStarts)) :
          Except Panic _) := by
    intro now
    rw [processRtcAndStatus_eq]
    rfl
  refine ⟨local_clock, ?_, tenth, ?_⟩
  · intro reports
    have read := reports.steady ⟨0, Nat.zero_le _⟩ ⟨1, by decide⟩
    rw [local_clock, local_clock] at read
    have status := Except.ok.inj (Except.ok.inj read)
    have clock : 0 = 1 := congrArg (fun s => s.rtc.nanos) status
    cases clock
  · intro reports
    obtain ⟨fields, spelled, -⟩ := reports.spelled octoberStarts _ (tenth octoberStarts)
    cases spelled

end SatelIntegra
