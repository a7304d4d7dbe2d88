import QuAIA.Library.Binary64
import QuAIA.Services.TimeText
import Mathlib.Tactic.NormNum

/-!
Contract: the time of a test result, as it is reported to Zephyr and to Allure.

Owns: `_parse_timestamp` of the Zephyr client and the reading of its text; `_timestamp_to_millis`
of the Allure client with its arithmetic on doubles; and when both denote one instant.

Does not own: the parser of dates, an arbitrary function that gives date-times which exist, and
how the machine reads a naive date-time.
-/

set_option autoImplicit false

namespace QuAIA.Services

open QuAIA.Library

namespace DateTime

/-- `_EPOCH`. -/
def epoch : DateTime := ⟨1970, 1, 1, 0, 0, 0, 0, some 0⟩

/-- `strftime("%Y-%m-%dT%H:%M:%SZ")`. -/
def strftimeZ (moment : DateTime) : String :=
  pad 4 moment.year ++ "-" ++ pad 2 moment.month ++ "-" ++ pad 2 moment.day ++ "T" ++
    pad 2 moment.hour ++ ":" ++ pad 2 moment.minute ++ ":" ++ pad 2 moment.second ++ "Z"

/-- The second since the epoch that such a text denotes, which is in UTC. -/
def readUtc (text : String) : Option Int := do
  let (year, text) ← Digits.readField 4 '-' text.toList
  let (month, text) ← Digits.readField 2 '-' text
  let (day, text) ← Digits.readField 2 'T' text
  let (hour, text) ← Digits.readField 2 ':' text
  let (minute, text) ← Digits.readField 2 ':' text
  let (second, text) ← Digits.readField 2 'Z' text
  let moment : DateTime := ⟨year, month, day, hour, minute, second, 0, some 0⟩
  if text.isEmpty then some ((moment.instant - epoch.instant) / 1000000) else none

example : readUtc "1970-01-02T00:00:01Z" = some 86401 := by decide +kernel

theorem toList_strftimeZ (moment : DateTime) :
    moment.strftimeZ.toList =
      Digits.padded 4 moment.year ++ '-' :: (Digits.padded 2 moment.month ++ '-' ::
        (Digits.padded 2 moment.day ++ 'T' :: (Digits.padded 2 moment.hour ++ ':' ::
          (Digits.padded 2 moment.minute ++ ':' :: (Digits.padded 2 moment.second ++
            'Z' :: []))))) := by
  have dash : "-".toList = ['-'] := rfl
  have colon : ":".toList = [':'] := rfl
  have time : "T".toList = ['T'] := rfl
  have zone : "Z".toList = ['Z'] := rfl
  simp only [strftimeZ, String.toList_append, toList_pad, dash, colon, time, zone,
    List.append_assoc, List.cons_append, List.nil_append]

/-- The second on the wall, as if it were in UTC. -/
def cut (moment : DateTime) : DateTime := { moment with microsecond := 0, utcOffset := some 0 }

theorem instant_cut (moment : DateTime) :
    moment.cut.instant = moment.wallTime - moment.microsecond := by
  have sameDay : moment.cut.toOrdinal = moment.toOrdinal := rfl
  rw [instant, wallTime, wallTime, sameDay]
  simp [cut]

theorem second_cut {moment : DateTime} (below : moment.microsecond < 1000000) :
    (moment.cut.instant - epoch.instant) / 1000000 =
      (moment.wallTime - epoch.instant) / 1000000 := by
  have isEpoch : epoch.instant = 62135683200 * 1000000 := rfl
  rw [instant_cut, isEpoch, wallTime]
  omega

/-- The text says the second on the wall. -/
theorem readUtc_strftimeZ {moment : DateTime} (valid : moment.Valid) :
    readUtc moment.strftimeZ = some ((moment.wallTime - epoch.instant) / 1000000) := by
  have days := daysInMonth_le moment.year moment.month
  have year : moment.year < 10 ^ 4 := by have := valid.year; omega
  have month : moment.month < 10 ^ 2 := by have := valid.month; omega
  have day : moment.day < 10 ^ 2 := by have := valid.day; omega
  have hour : moment.hour < 10 ^ 2 := by have := valid.hour; omega
  have minute : moment.minute < 10 ^ 2 := by have := valid.minute; omega
  have second : moment.second < 10 ^ 2 := by have := valid.second; omega
  rw [← second_cut valid.microsecond, readUtc, toList_strftimeZ]
  simp only [Digits.readField_padded, Nat.zero_lt_succ, year, month, day, hour, minute, second,
    Option.bind_eq_bind, Option.bind_some, List.isEmpty_nil, if_true, cut]

/-- Microseconds since the epoch. -/
def sinceEpoch (moment : DateTime) : Int := moment.instant - epoch.instant

/-- `timestamp()`, a double: of an aware one `total_seconds()` since the epoch, of a naive one as
the machine has it. -/
def timestamp (localTimestamp : DateTime → ℚ) (moment : DateTime) : ℚ :=
  if moment.aware then Binary64.nearest ((moment.sinceEpoch : ℚ) / 1000000)
  else localTimestamp moment

end DateTime

/-! ## The two reporters -/

section Reporters

variable (parse : String → Option DateTime)

/-- `_parse_timestamp`. -/
def ZephyrClient.parseTimestamp (timestampStr : String) : Option String :=
  (Services.parseTimestamp parse timestampStr).map DateTime.strftimeZ

/-- `int(seconds * 1000)`. -/
def secondsToMillis (seconds : ℚ) : ℤ := Binary64.truncate (Binary64.nearest (seconds * 1000))

/-- `_timestamp_to_millis`, where `now` is the current `timestamp()`. -/
def AllureClient.timestampToMillis (localTimestamp : DateTime → ℚ) (now : ℚ)
    (timestampStr : String) (fallbackToNow : Bool) : Option ℤ :=
  match Services.parseTimestamp parse timestampStr with
  | none => if fallbackToNow then some (secondsToMillis now) else none
  | some timestamp => some (secondsToMillis (timestamp.timestamp localTimestamp))

end Reporters

/-- The value that Allure gets for an instant. -/
def toMillis (instant : ℤ) : ℤ := secondsToMillis (Binary64.nearest ((instant : ℚ) / 1000000))

/-- From 1970 to 2106 the milliseconds are in the second of the instant. -/
theorem toMillis_div {instant : ℤ} (notBefore : 0 ≤ instant)
    (before : instant < 2 ^ 32 * 1000000) : toMillis instant / 1000 = instant / 1000000 := by
  obtain ⟨second, isSecond⟩ := Int.eq_ofNat_of_zero_le (Int.ediv_nonneg notBefore
    (by decide : (0 : ℤ) ≤ 1000000))
  have reached : (second : ℤ) * 1000000 ≤ instant := by omega
  have inSecond : instant + 1 ≤ (second + 1) * 1000000 := by omega
  have reachedRat : (second : ℚ) * 1000000 ≤ instant := by exact_mod_cast reached
  have inSecondRat : (instant : ℚ) + 1 ≤ (second + 1) * 1000000 := by exact_mod_cast inSecond
  have beforeRat : (instant : ℚ) < 2 ^ 32 * 1000000 := by exact_mod_cast before
  have nonnegRat : (0 : ℚ) ≤ (instant : ℚ) / 1000000 :=
    div_nonneg (by exact_mod_cast notBefore) (by norm_num)
  -- The seconds as a double, which are not below the whole second.
  have seconds := Binary64.abs_nearest_sub_le ((instant : ℚ) / 1000000)
  have secondsFrom : (second : ℚ) ≤ Binary64.nearest ((instant : ℚ) / 1000000) :=
    Binary64.le_nearest (by linarith) (by linarith)
  rw [abs_of_nonneg nonnegRat, abs_le] at seconds
  -- The milliseconds as a double, which do not reach the next second.
  have millis := Binary64.abs_nearest_sub_le (Binary64.nearest ((instant : ℚ) / 1000000) * 1000)
  have millisFrom : ((second * 1000 : ℕ) : ℚ) ≤
      Binary64.nearest (Binary64.nearest ((instant : ℚ) / 1000000) * 1000) :=
    Binary64.le_nearest (by push_cast; linarith) (by linarith [seconds.2])
  have secondNonneg : (0 : ℚ) ≤ second := Nat.cast_nonneg second
  have doubleNonneg : 0 ≤ Binary64.nearest ((instant : ℚ) / 1000000) * 1000 := by linarith
  rw [abs_of_nonneg doubleNonneg, abs_le] at millis
  have millisBelow : Binary64.nearest (Binary64.nearest ((instant : ℚ) / 1000000) * 1000) <
      (second + 1) * 1000 := by
    linarith [seconds.2, millis.2]
  have floorFrom : ((second * 1000 : ℕ) : ℤ) ≤
      ⌊Binary64.nearest (Binary64.nearest ((instant : ℚ) / 1000000) * 1000)⌋ :=
    Int.le_floor.mpr (by exact_mod_cast millisFrom)
  have floorBelow : ⌊Binary64.nearest (Binary64.nearest ((instant : ℚ) / 1000000) * 1000)⌋ <
      (second + 1) * 1000 := Int.floor_lt.mpr (by exact_mod_cast millisBelow)
  push_cast at millisFrom floorFrom
  rw [toMillis, secondsToMillis, Binary64.truncate_of_nonneg (by linarith)]
  omega

/-! ## One instant -/

section SameInstant

variable (parse : String → Option DateTime) (localTimestamp : DateTime → ℚ) (now : ℚ)

/-- The text for Zephyr denotes the whole second of an instant, and the value of Allure is that of
the same instant. Where doubles are fine enough, from 1970 to 2106, the text denotes the second
that Allure's value itself is in. -/
structure SameInstant (timestampStr : String) (fallbackToNow : Bool) (instant : ℤ) : Prop where
  zephyr : (ZephyrClient.parseTimestamp parse timestampStr).bind DateTime.readUtc =
    some (instant / 1000000)
  allure : AllureClient.timestampToMillis parse localTimestamp now timestampStr fallbackToNow =
    some (toMillis instant)
  second : 0 ≤ instant → instant < 2 ^ 32 * 1000000 →
    (ZephyrClient.parseTimestamp parse timestampStr).bind DateTime.readUtc =
      (AllureClient.timestampToMillis parse localTimestamp now timestampStr fallbackToNow).map
        (· / 1000)

/-- The clock on the wall shows the second of the clock in UTC. -/
def SameSecond (moment : DateTime) (offset : ℤ) : Prop :=
  offset ≤ moment.microsecond ∧ moment.microsecond < offset + 1000000

variable {parse} {timestampStr : String} {moment : DateTime} {offset : ℤ}

theorem valid_of_parsed
    (valid : ∀ text moment, parse text = some moment → DateTime.Valid moment)
    (parsed : parseTimestamp parse timestampStr = some moment) : moment.Valid := by
  rw [parseTimestamp] at parsed
  split at parsed
  · cases parsed
  · exact valid _ moment parsed

theorem readUtc_parseTimestamp
    (valid : ∀ text moment, parse text = some moment → DateTime.Valid moment)
    (parsed : parseTimestamp parse timestampStr = some moment) :
    (ZephyrClient.parseTimestamp parse timestampStr).bind DateTime.readUtc =
      some ((moment.wallTime - DateTime.epoch.instant) / 1000000) := by
  rw [ZephyrClient.parseTimestamp, parsed, Option.map_some, Option.bind_some]
  exact DateTime.readUtc_strftimeZ (valid_of_parsed valid parsed)

theorem timestampToMillis_eq (parsed : parseTimestamp parse timestampStr = some moment)
    (aware : moment.utcOffset = some offset) (fallbackToNow : Bool) :
    AllureClient.timestampToMillis parse localTimestamp now timestampStr fallbackToNow =
      some (toMillis moment.sinceEpoch) := by
  have isAware : moment.aware = true := by rw [DateTime.aware, aware]; rfl
  rw [AllureClient.timestampToMillis, parsed]
  show some (secondsToMillis (moment.timestamp localTimestamp)) = _
  rw [DateTime.timestamp, if_pos isAware, toMillis]

theorem wallSecond_eq_iff (below : moment.microsecond < 1000000)
    (aware : moment.utcOffset = some offset) :
    (moment.wallTime - DateTime.epoch.instant) / 1000000 = moment.sinceEpoch / 1000000 ↔
      SameSecond moment offset := by
  have isEpoch : DateTime.epoch.instant = 62135683200 * 1000000 := rfl
  have isInstant : moment.instant = moment.wallTime - offset := by
    rw [DateTime.instant, aware, Option.getD_some]
  rw [DateTime.sinceEpoch, isInstant, isEpoch, DateTime.wallTime, SameSecond]
  omega

/-- **Reported times.** Zephyr and Allure are told the same instant exactly when the offset does
not change the second that the clock shows. -/
theorem sameInstant_iff
    (valid : ∀ text moment, parse text = some moment → DateTime.Valid moment)
    (parsed : parseTimestamp parse timestampStr = some moment)
    (aware : moment.utcOffset = some offset) (fallbackToNow : Bool) :
    SameInstant parse localTimestamp now timestampStr fallbackToNow moment.sinceEpoch ↔
      SameSecond moment offset := by
  rw [← wallSecond_eq_iff (valid_of_parsed valid parsed).microsecond aware]
  constructor
  · intro same
    have read := same.zephyr
    rw [readUtc_parseTimestamp valid parsed] at read
    exact Option.some.inj read
  · intro sameSecond
    have isMillis := timestampToMillis_eq localTimestamp now parsed aware fallbackToNow
    constructor
    · rw [readUtc_parseTimestamp valid parsed, sameSecond]
    · exact isMillis
    · intro notBefore before
      rw [readUtc_parseTimestamp valid parsed, sameSecond, isMillis, Option.map_some,
        toMillis_div notBefore before]

end SameInstant

/-- Ten o'clock in a zone that is two hours ahead of UTC. -/
def aheadOfUtc : DateTime := ⟨2024, 1, 1, 10, 0, 0, 0, some 7200000000⟩

def parseAhead (text : String) : Option DateTime :=
  if text = "2024-01-01T10:00:00+02:00" then some aheadOfUtc
  else if text = "2024-01-01T10:00:00+00:00" then some { aheadOfUtc with utcOffset := some 0 }
  else none

theorem valid_parseAhead (text : String) (moment : DateTime)
    (parsed : parseAhead text = some moment) : moment.Valid := by
  rw [parseAhead] at parsed
  split_ifs at parsed <;> cases parsed <;> constructor <;> decide

/-- Zephyr is told ten o'clock in UTC, and Allure eight. -/
theorem aheadOfUtc_differs :
    ¬∀ (parse : String → Option DateTime) (localTimestamp : DateTime → ℚ) (now : ℚ)
      (timestampStr : String) (moment : DateTime) (offset : ℤ) (fallbackToNow : Bool),
      (∀ text moment, parse text = some moment → DateTime.Valid moment) →
      parseTimestamp parse timestampStr = some moment → moment.utcOffset = some offset →
      SameInstant parse localTimestamp now timestampStr fallbackToNow moment.sinceEpoch := by
  intro same
  have parsed : parseTimestamp parseAhead "2024-01-01T10:00:00+02:00" = some aheadOfUtc := by
    decide +kernel
  have agreed := (same parseAhead (fun _ => 0) 0 "2024-01-01T10:00:00+02:00" aheadOfUtc 7200000000
    false valid_parseAhead parsed rfl).zephyr
  rw [readUtc_parseTimestamp valid_parseAhead parsed] at agreed
  exact absurd (Option.some.inj agreed) (by decide)

/-- At ten o'clock in UTC both agree. -/
theorem sameInstant_iff_utc :
    SameInstant parseAhead (fun _ => 0) 0 "2024-01-01T10:00:00+00:00" false
        (DateTime.sinceEpoch { aheadOfUtc with utcOffset := some 0 }) ↔
      SameSecond { aheadOfUtc with utcOffset := some 0 } 0 :=
  sameInstant_iff (fun _ => 0) 0 valid_parseAhead (by decide +kernel) rfl false

end QuAIA.Services
