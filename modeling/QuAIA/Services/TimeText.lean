import QuAIA.Library.Digits
import QuAIA.Library.Pattern
import QuAIA.Library.Text
import QuAIA.Services.XrayClient
import Mathlib.Tactic.IntervalCases

/-!
Contract: date-times as texts of fixed fields.

Owns: the date-times that exist, the digits of their fields, the patterns of the directives of
`strptime` that the log formats use, and the reading of a text in such a format.

Does not own: other directives, locales and zones. The digits of other scripts are arbitrary.
-/

set_option autoImplicit false

namespace QuAIA.Services

open QuAIA.Library

namespace DateTime

/-- The fields of a `datetime` are within their bounds. -/
structure Valid (moment : DateTime) : Prop where
  year : 1 ≤ moment.year ∧ moment.year ≤ 9999
  month : 1 ≤ moment.month ∧ moment.month ≤ 12
  day : 1 ≤ moment.day ∧ moment.day ≤ daysInMonth moment.year moment.month
  hour : moment.hour < 24
  minute : moment.minute < 60
  second : moment.second < 60
  microsecond : moment.microsecond < 1000000

theorem valid_iff (moment : DateTime) :
    moment.Valid ↔ (1 ≤ moment.year ∧ moment.year ≤ 9999) ∧
      (1 ≤ moment.month ∧ moment.month ≤ 12) ∧
      (1 ≤ moment.day ∧ moment.day ≤ daysInMonth moment.year moment.month) ∧
      moment.hour < 24 ∧ moment.minute < 60 ∧ moment.second < 60 ∧
      moment.microsecond < 1000000 := by
  constructor
  · rintro ⟨year, month, day, hour, minute, second, microsecond⟩
    exact ⟨year, month, day, hour, minute, second, microsecond⟩
  · rintro ⟨year, month, day, hour, minute, second, microsecond⟩
    exact ⟨year, month, day, hour, minute, second, microsecond⟩

instance (moment : DateTime) : Decidable moment.Valid :=
  decidable_of_iff _ moment.valid_iff.symm

theorem toList_pad (width value : Nat) : (pad width value).toList = Digits.padded width value := by
  have zeros : ∀ count : Nat, ("".pushn '0' count).toList = List.replicate count '0' := by
    intro count
    rw [String.pushn_eq_repeat_push]
    induction count with
    | zero => rfl
    | succ count inductionHypothesis =>
        rw [Nat.repeat, String.toList_push, inductionHypothesis, List.replicate_succ']
  rw [pad, String.toList_append, zeros, Nat.toString_eq_repr, Nat.toList_repr,
    ← String.length_toList, Nat.toList_repr, Digits.padded]

theorem daysInMonth_le (year month : Nat) : daysInMonth year month ≤ 31 := by
  rw [daysInMonth]
  split_ifs <;> omega

/-! ## Directives -/

section Directives

variable (otherDigit : Char → Option Nat)

/-- The value of a decimal digit, of any script. -/
def digit (character : Char) : Option Nat :=
  if character.toNat < 128 then
    if character.isDigit then some (character.toNat - 48) else none
  else otherDigit character

def isDecimal (character : Char) : Bool := (digit otherDigit character).isSome

def between (low high character : Char) : Bool := low ≤ character && character ≤ high

/-- `int(..)` of digits that may have blanks around them. -/
def int (text : List Char) : Nat :=
  (text.filterMap (digit otherDigit)).foldl (fun value next => value * 10 + next) 0

/-- `%Y`. -/
def yearDirective : Pattern.Piece := Pattern.oneOf [List.replicate 4 (isDecimal otherDigit)]

/-- `%m`. -/
def monthDirective : Pattern.Piece :=
  Pattern.oneOf [[between '1' '1', between '0' '2'], [between '0' '0', between '1' '9'],
    [between '1' '9']]

/-- `%d`. -/
def dayDirective : Pattern.Piece :=
  Pattern.oneOf [[between '3' '3', between '0' '1'], [between '1' '2', isDecimal otherDigit],
    [between '0' '0', between '1' '9'], [between '1' '9'], [between ' ' ' ', between '1' '9']]

/-- `%H`. -/
def hourDirective : Pattern.Piece :=
  Pattern.oneOf [[between '2' '2', between '0' '3'], [between '0' '1', isDecimal otherDigit],
    [isDecimal otherDigit]]

/-- `%M`. -/
def minuteDirective : Pattern.Piece :=
  Pattern.oneOf [[between '0' '5', isDecimal otherDigit], [isDecimal otherDigit]]

/-- `%S`. -/
def secondDirective : Pattern.Piece :=
  Pattern.oneOf [[between '6' '6', between '0' '1'], [between '0' '5', isDecimal otherDigit],
    [isDecimal otherDigit]]

/-- `%f`. -/
def fractionDirective : Pattern.Piece := Pattern.greedy (between '0' '9') 6

/-- A blank of the format stands for any number of blanks. -/
def blanks : Pattern.Piece := fun text => Pattern.greedy Text.isSpace text.length text

/-- `%Y-%m-%d %H:%M:%S`. -/
def secondsFormat : List Pattern.Piece :=
  [yearDirective otherDigit, Pattern.literal '-', monthDirective, Pattern.literal '-',
    dayDirective otherDigit, blanks, hourDirective otherDigit, Pattern.literal ':',
    minuteDirective otherDigit, Pattern.literal ':', secondDirective otherDigit]

/-- `%Y-%m-%d %H:%M:%S,%f`. -/
def fractionFormat : List Pattern.Piece :=
  secondsFormat otherDigit ++ [Pattern.literal ',', fractionDirective]

/-- The date-time of what the pieces of a format took. The digits of a fraction are filled up with
zeros on the right. -/
def ofFields : List (List Char) → Option DateTime
  | year :: _ :: month :: _ :: day :: _ :: hour :: _ :: minute :: _ :: second :: fraction =>
      let digits := (fraction.drop 1).flatten
      let moment : DateTime :=
        { year := int otherDigit year
          month := int otherDigit month
          day := int otherDigit day
          hour := int otherDigit hour
          minute := int otherDigit minute
          second := int otherDigit second
          microsecond := int otherDigit (digits ++ List.replicate (6 - digits.length) '0')
          utcOffset := none }
      if moment.Valid then some moment else none
  | _ => none

/-- `datetime.strptime`. -/
def strptime (format : List Pattern.Piece) (text : String) : Option DateTime :=
  (Pattern.fullMatch format text.toList).bind (ofFields otherDigit)

/-- A time stamp of either format, in ISO format. -/
def isoTimestamp (stamp : String) : Option String :=
  (strptime otherDigit (fractionFormat otherDigit) stamp <|>
    strptime otherDigit (secondsFormat otherDigit) stamp).map isoformat

end Directives

/-! ## Reading back -/

section ReadBack

variable (otherDigit : Char → Option Nat)

theorem digit_of_isDigit {character : Char} (isDigit : character.isDigit = true) :
    digit otherDigit character = some (character.toNat - 48) := by
  have low : character.toNat < 128 := by
    simp only [Char.isDigit, Bool.and_eq_true, decide_eq_true_eq] at isDigit
    exact Nat.lt_of_le_of_lt (UInt32.le_iff_toNat_le.mp isDigit.2) (by decide)
  rw [digit, if_pos low, if_pos isDigit]

theorem isDecimal_of_isDigit {character : Char} (isDigit : character.isDigit = true) :
    isDecimal otherDigit character = true := by
  rw [isDecimal, digit_of_isDigit otherDigit isDigit]
  rfl

theorem int_of_digits {digits : List Char}
    (onlyDigits : ∀ character ∈ digits, character.isDigit = true) :
    int otherDigit digits = Nat.ofDigitChars 10 digits 0 := by
  have values : ∀ value : Nat,
      (digits.filterMap (digit otherDigit)).foldl (fun value next => value * 10 + next) value =
        Nat.ofDigitChars 10 digits value := by
    induction digits with
    | nil => intro value; rfl
    | cons character rest inductionHypothesis =>
        obtain ⟨first, others⟩ := List.forall_mem_cons.mp onlyDigits
        intro value
        rw [List.filterMap_cons_some (digit_of_isDigit otherDigit first), List.foldl_cons,
          inductionHypothesis others, Nat.ofDigitChars_cons, Nat.mul_comm]
        rfl
  exact values 0

@[simp] theorem int_padded (width value : Nat) :
    int otherDigit (Digits.padded width value) = value := by
  have spelled : Digits.read (Digits.padded width value) = some value := Digits.read_padded ..
  rw [Digits.read] at spelled
  split at spelled
  · cases spelled
  · rw [int_of_digits otherDigit fun _ => Digits.isDigit_of_mem_padded]
    exact Option.some.inj spelled

variable (rest : List Char)

theorem head?_yearDirective {year : Nat} (fits : year < 10 ^ 4) :
    (yearDirective otherDigit (Digits.padded 4 year ++ rest)).head? =
      some (Digits.padded 4 year, rest) := by
  have isLength := Digits.length_padded (by decide) fits
  have decimals : ∀ character ∈ Digits.padded 4 year, isDecimal otherDigit character = true :=
    fun _ member => isDecimal_of_isDigit otherDigit (Digits.isDigit_of_mem_padded member)
  have matched := Pattern.matchClasses_replicate decimals rest
  rw [isLength] at matched
  exact Pattern.head?_oneOf [] matched

theorem head?_monthDirective {month : Nat} (inYear : 1 ≤ month ∧ month ≤ 12) :
    (monthDirective (Digits.padded 2 month ++ rest)).head? =
      some (Digits.padded 2 month, rest) := by
  obtain ⟨first, last⟩ := inYear
  interval_cases month <;> rfl

theorem head?_dayDirective {day : Nat} (inMonth : 1 ≤ day ∧ day ≤ 31) :
    (dayDirective otherDigit (Digits.padded 2 day ++ rest)).head? =
      some (Digits.padded 2 day, rest) := by
  obtain ⟨first, last⟩ := inMonth
  interval_cases day <;> rfl

theorem head?_hourDirective {hour : Nat} (inDay : hour < 24) :
    (hourDirective otherDigit (Digits.padded 2 hour ++ rest)).head? =
      some (Digits.padded 2 hour, rest) := by
  interval_cases hour <;> rfl

theorem head?_minuteDirective {minute : Nat} (inHour : minute < 60) :
    (minuteDirective otherDigit (Digits.padded 2 minute ++ rest)).head? =
      some (Digits.padded 2 minute, rest) := by
  interval_cases minute <;> rfl

theorem head?_secondDirective {second : Nat} (inMinute : second < 60) :
    (secondDirective otherDigit (Digits.padded 2 second ++ rest)).head? =
      some (Digits.padded 2 second, rest) := by
  interval_cases second <;> rfl

end ReadBack

/-! ## The time of a log record -/

section Asctime

variable (otherDigit : Char → Option Nat) {moment : DateTime}

/-- `Formatter.formatTime`: the second, and the millisecond in three digits. -/
def asctime (moment : DateTime) : String :=
  pad 4 moment.year ++ "-" ++ pad 2 moment.month ++ "-" ++ pad 2 moment.day ++ " " ++
    pad 2 moment.hour ++ ":" ++ pad 2 moment.minute ++ ":" ++ pad 2 moment.second ++ "," ++
      pad 3 (moment.microsecond / 1000)

theorem toList_asctime (moment : DateTime) :
    moment.asctime.toList =
      Digits.padded 4 moment.year ++ '-' :: (Digits.padded 2 moment.month ++ '-' ::
        (Digits.padded 2 moment.day ++ ([' '] ++ (Digits.padded 2 moment.hour ++ ':' ::
          (Digits.padded 2 moment.minute ++ ':' :: (Digits.padded 2 moment.second ++
            ',' :: (Digits.padded 3 (moment.microsecond / 1000) ++ []))))))) := by
  have dash : "-".toList = ['-'] := rfl
  have colon : ":".toList = [':'] := rfl
  have blank : " ".toList = [' '] := rfl
  have comma : ",".toList = [','] := rfl
  simp only [asctime, String.toList_append, toList_pad, dash, colon, blank, comma,
    List.append_assoc, List.cons_append, List.nil_append, List.append_nil]

/-- The text begins and ends with a digit. -/
theorem head?_asctime (moment : DateTime) :
    ∀ character ∈ moment.asctime.toList.head?, character.isDigit = true := by
  intro character first
  rw [toList_asctime, List.head?_append_of_ne_nil _ (Digits.padded_ne_nil 4 _)] at first
  exact Digits.isDigit_of_mem_padded (List.mem_of_mem_head? first)

theorem getLast?_asctime (moment : DateTime) :
    ∀ character ∈ moment.asctime.toList.getLast?, character.isDigit = true := by
  intro character last
  rw [asctime, String.toList_append, toList_pad,
    List.getLast?_append_of_ne_nil _ (Digits.padded_ne_nil 3 _)] at last
  exact Digits.isDigit_of_mem_padded (List.mem_of_mem_getLast? last)

theorem mem_asctime {character : Char} (member : character ∈ moment.asctime.toList) :
    character.isDigit = true ∨ character ∈ ['-', ':', ' ', ','] := by
  have isDigit : ∀ width value : Nat, character ∈ Digits.padded width value →
      character.isDigit = true := fun _ _ => Digits.isDigit_of_mem_padded
  simp only [toList_asctime, List.mem_append, List.mem_cons, List.not_mem_nil] at member
  grind

theorem isSpace_eq_false_of_isDigit {character : Char} (isDigit : character.isDigit = true) :
    Text.isSpace character = false := by
  simp only [Char.isDigit, Bool.and_eq_true, decide_eq_true_eq, UInt32.le_iff_toNat_le] at isDigit
  have isCode : character.toNat = character.val.toNat := rfl
  have from48 : 48 ≤ character.toNat := isDigit.1
  have to57 : character.toNat ≤ 57 := isDigit.2
  simp only [Text.isSpace, decide_eq_false_iff_not]
  omega

/-- One blank in front of a digit. -/
theorem head?_blanks (width value : Nat) (rest : List Char) :
    (blanks ([' '] ++ (Digits.padded width value ++ rest))).head? =
      some ([' '], Digits.padded width value ++ rest) := by
  obtain ⟨character, others, digits, isDigit⟩ := Digits.exists_padded_eq_cons width value
  apply Pattern.head?_greedy
  · exact List.cons_ne_nil ' ' []
  · exact List.forall_mem_singleton.mpr rfl
  · simp
  · intro next isNext
    rw [digits, List.cons_append, List.head?_cons, Option.mem_some_iff] at isNext
    exact isNext ▸ isSpace_eq_false_of_isDigit isDigit

theorem head?_fractionDirective {milliseconds : Nat} (fits : milliseconds < 10 ^ 3) :
    (fractionDirective (Digits.padded 3 milliseconds ++ [])).head? =
      some (Digits.padded 3 milliseconds, []) := by
  have isLength := Digits.length_padded (by decide) fits
  apply Pattern.head?_greedy
  · exact Digits.padded_ne_nil 3 milliseconds
  · intro character member
    exact Digits.isDigit_of_mem_padded member
  · rw [isLength]
    decide
  · intro character member
    cases member

/-- Three digits of milliseconds are filled up to microseconds. -/
theorem int_fraction {milliseconds : Nat} (fits : milliseconds < 10 ^ 3) :
    int otherDigit (Digits.padded 3 milliseconds ++
        List.replicate (6 - (Digits.padded 3 milliseconds).length) '0') =
      milliseconds * 1000 := by
  have isLength := Digits.length_padded (by decide) fits
  have value := int_padded otherDigit 3 milliseconds
  have digits : ∀ character ∈ Digits.padded 3 milliseconds, character.isDigit = true :=
    fun _ => Digits.isDigit_of_mem_padded
  have zeros : ∀ character ∈ List.replicate 3 '0', character.isDigit = true := by
    intro character member
    rw [List.eq_of_mem_replicate member]
    rfl
  rw [int_of_digits otherDigit digits] at value
  rw [isLength, int_of_digits otherDigit (List.forall_mem_append.mpr ⟨digits, zeros⟩),
    Nat.ofDigitChars_append, value]
  simp [Nat.ofDigitChars_cons, Nat.mul_comm]
  omega

/-- A time in milliseconds without a zone. -/
structure Stamp (moment : DateTime) : Prop extends Valid moment where
  milliseconds : moment.microsecond % 1000 = 0
  naive : moment.utcOffset = none

/-- **Time stamps.** The time of a log record is read back from its text. -/
theorem strptime_asctime (stamp : moment.Stamp) :
    strptime otherDigit (fractionFormat otherDigit) moment.asctime = some moment := by
  have days := daysInMonth_le moment.year moment.month
  have toYear : moment.year < 10 ^ 4 := Nat.lt_of_le_of_lt stamp.year.2 (by decide)
  have toDay : moment.day ≤ 31 := stamp.day.2.trans days
  have toMillisecond : moment.microsecond / 1000 < 10 ^ 3 :=
    Nat.div_lt_of_lt_mul stamp.microsecond
  have microsecond : moment.microsecond / 1000 * 1000 = moment.microsecond :=
    Nat.div_mul_cancel (Nat.dvd_of_mod_eq_zero stamp.milliseconds)
  have matched : Pattern.firstMatch (fractionFormat otherDigit) moment.asctime.toList = some
      ([Digits.padded 4 moment.year, ['-'], Digits.padded 2 moment.month, ['-'],
        Digits.padded 2 moment.day, [' '], Digits.padded 2 moment.hour, [':'],
        Digits.padded 2 moment.minute, [':'], Digits.padded 2 moment.second, [','],
        Digits.padded 3 (moment.microsecond / 1000)], []) := by
    rw [toList_asctime]
    exact Pattern.firstMatch_cons (head?_yearDirective otherDigit _ toYear) <|
      Pattern.firstMatch_cons (Pattern.head?_literal '-' _) <|
      Pattern.firstMatch_cons (head?_monthDirective _ stamp.month) <|
      Pattern.firstMatch_cons (Pattern.head?_literal '-' _) <|
      Pattern.firstMatch_cons (head?_dayDirective otherDigit _ ⟨stamp.day.1, toDay⟩) <|
      Pattern.firstMatch_cons (head?_blanks 2 _ _) <|
      Pattern.firstMatch_cons (head?_hourDirective otherDigit _ stamp.hour) <|
      Pattern.firstMatch_cons (Pattern.head?_literal ':' _) <|
      Pattern.firstMatch_cons (head?_minuteDirective otherDigit _ stamp.minute) <|
      Pattern.firstMatch_cons (Pattern.head?_literal ':' _) <|
      Pattern.firstMatch_cons (head?_secondDirective otherDigit _ stamp.second) <|
      Pattern.firstMatch_cons (Pattern.head?_literal ',' _) <|
      Pattern.firstMatch_cons (head?_fractionDirective toMillisecond) rfl
  have whole : DateTime.mk moment.year moment.month moment.day moment.hour moment.minute
      moment.second moment.microsecond none = moment := by
    rw [← stamp.naive]
  rw [strptime, Pattern.fullMatch, matched]
  simp only [Option.bind_some, ofFields, List.drop_succ_cons, List.drop_zero,
    List.flatten_singleton, int_padded, int_fraction otherDigit toMillisecond, microsecond, whole]
  exact if_pos stamp.toValid

theorem isoTimestamp_asctime (stamp : moment.Stamp) :
    isoTimestamp otherDigit moment.asctime = some moment.isoformat := by
  rw [isoTimestamp, strptime_asctime otherDigit stamp]
  rfl

end Asctime

end DateTime

end QuAIA.Services
