import QuAIA.Library.Substring
import QuAIA.Orchestrator.AgentLogs
import QuAIA.Services.TimeText

/-!
Contract: the line of a log record, and its reading by the dashboard and by its page.

Owns: the formatter of `AgentLogCaptureHandler`, `parseLiveLine` of the page, the parts of the
standard library under both readings, and the records whose fields both of them recover.

Does not own: letters beyond ASCII, digits of other scripts and the display of a time, which are
arbitrary; and exceptions and stacks, which the formatter puts on lines of their own.
-/

set_option autoImplicit false

namespace QuAIA.Orchestrator

open QuAIA.Common
open QuAIA.Library
open QuAIA.Services (DateTime)

/-! ## The code -/

/-- `LogRecord` of the standard library. Its time is the current one, so that `%Y` writes four
digits on every platform. -/
structure LogRecord where
  created : DateTime
  name : String
  levelname : String
  message : String
  stamp : created.Stamp
  fourDigits : 1000 ≤ created.year

/-- The names of the standard levels. -/
def standardLevels : List String := ["NOTSET", "DEBUG", "INFO", "WARNING", "ERROR", "CRITICAL"]

/-- `%(asctime)s - %(name)s - %(levelname)s - %(message)s`. -/
def LogRecord.format (record : LogRecord) : String :=
  record.created.asctime ++ " - " ++ record.name ++ " - " ++ record.levelname ++ " - " ++
    record.message

/-- `str.upper` and `toUpperCase`. -/
def upper (beyondAscii : Char → List Char) (text : String) : String :=
  String.ofList <| text.toList.flatMap fun character =>
    if character.toNat < 128 then [character.toUpper] else beyondAscii character

/-- The reading of a line with the texts of the standard library. -/
def logReading (isWord : Char → Bool) (beyondAscii : Char → List Char)
    (otherDigit : Char → Option Nat) : LineReading where
  isWord := isWord
  upper := upper beyondAscii
  isoTimestamp := DateTime.isoTimestamp otherDigit

namespace LogModal

/-- The characters of white space and of line ends in JavaScript. -/
def isSpace (character : Char) : Bool :=
  let code := character.toNat
  decide ((0x09 ≤ code ∧ code ≤ 0x0D) ∨ code = 0x20 ∨ code = 0xA0 ∨ code = 0x1680 ∨
    (0x2000 ≤ code ∧ code ≤ 0x200A) ∨ code = 0x2028 ∨ code = 0x2029 ∨ code = 0x202F ∨
    code = 0x205F ∨ code = 0x3000 ∨ code = 0xFEFF)

/-- `trim()`. -/
def trim (characters : List Char) : List Char :=
  ((characters.dropWhile isSpace).reverse.dropWhile isSpace).reverse

/-- `replace(old, new)`, of the first place. -/
def replaceFirst (old new : Char) : List Char → List Char
  | [] => []
  | character :: rest =>
      if character = old then new :: rest else character :: replaceFirst old new rest

structure LiveLine where
  timestamp : String
  level : String
  logger : String
  message : String
deriving DecidableEq, Repr

/-- `parseLiveLine`, where `displayTime` is `parseTs(..).toLocaleTimeString()` of a text that has a
time. -/
def parseLiveLine (displayTime : List Char → Option String) (beyondAscii : Char → List Char)
    (line : String) : Option LiveLine :=
  match Substring.splitOn [' ', '-', ' '] line.toList with
  | rawTimestamp :: loggerName :: level :: messageStart :: messageRest =>
      some
        { timestamp := (displayTime (replaceFirst ',' '.' (trim rawTimestamp))).getD
            (String.ofList (trim rawTimestamp))
          level := upper beyondAscii (String.ofList (trim level))
          logger := String.ofList (trim loggerName)
          message := String.ofList
            ([' ', '-', ' '].intercalate (messageStart :: messageRest)) }
  | _ => none

example : parseLiveLine (fun _ => none) (fun _ => []) "now - a - info - x - y" =
    some ⟨"now", "INFO", "a", "x - y"⟩ := by decide +kernel

end LogModal

/-! ## The separator -/

/-- The separator of the fields. -/
def dashes : List Char := [' ', '-', ' ']

/-- A field in front of a separator is cut off there. -/
def Separable (field : List Char) : Prop := ¬ dashes <:+: field ++ dashes.dropLast

theorem splitDashes_zero (current text : List Char) :
    splitDashes 0 current text = [current ++ text] := by
  induction text generalizing current with
  | nil => rw [splitDashes, List.append_nil]
  | cons character rest inductionHypothesis =>
      rw [splitDashes, inductionHypothesis, List.append_assoc]
      · rfl
      · intros
        omega

theorem splitDashes_of_cut {text before after : List Char}
    (cuts : Substring.cut dashes text = some (before, after)) (more : Nat)
    (current : List Char) :
    splitDashes (more + 1) current text = (current ++ before) :: splitDashes more [] after := by
  induction text generalizing before current with
  | nil => cases cuts
  | cons character rest inductionHypothesis =>
      rw [Substring.cut] at cuts
      split at cuts
      · rename_i starts
        obtain ⟨behind, parted⟩ := starts
        rw [← parted] at cuts ⊢
        cases cuts
        rw [List.append_nil]
        rfl
      · rename_i elsewhere
        obtain ⟨⟨start, behind⟩, later, same⟩ := Option.map_eq_some_iff.mp cuts
        cases same
        rw [splitDashes, inductionHypothesis later, List.append_assoc]
        · rfl
        · rintro less tail - rfl rfl
          exact elsewhere ⟨tail, rfl⟩

theorem splitDashes_field {field : List Char} (separable : Separable field) (more : Nat)
    (rest : List Char) :
    splitDashes (more + 1) [] (field ++ (dashes ++ rest)) = field :: splitDashes more [] rest :=
  splitDashes_of_cut ((Substring.cut_append_iff (by decide) field rest).mpr separable) more []

theorem splitOn_field {field : List Char} (separable : Separable field) (rest : List Char) :
    Substring.splitOn dashes (field ++ (dashes ++ rest)) =
      field :: Substring.splitOn dashes rest :=
  Substring.splitOn_of_cut_some (by decide)
    ((Substring.cut_append_iff (by decide) field rest).mpr separable)

/-- No separator in a field, and none that its end would begin. -/
theorem separable_iff (field : List Char) :
    Separable field ↔ ¬ dashes <:+: field ∧ ¬ [' ', '-'] <:+ field := by
  constructor
  · intro separable
    refine ⟨fun inside => separable (List.infix_append_of_infix_left inside), ?_⟩
    rintro ⟨start, rfl⟩
    refine separable ⟨start, ['-'], ?_⟩
    simp [dashes]
  · rintro ⟨clear, noDash⟩ inside
    rcases List.infix_append_iff_ne_nil.mp inside with before | behind |
      ⟨first, last, firstNonempty, lastNonempty, parted, ends, starts⟩
    · exact clear before
    · exact absurd behind.length_le (by decide)
    · match first, firstNonempty with
      | [character], _ =>
          cases parted
          exact absurd starts (by decide)
      | [character, second], _ =>
          cases parted
          exact noDash ends
      | character :: second :: third :: others, _ =>
          have lengths := congrArg List.length parted
          have positive := List.length_pos_iff.mpr lastNonempty
          simp only [dashes, List.length_append, List.length_cons, List.length_nil] at lengths
          omega

theorem not_infix_cons {character : Char} (noBlank : character ≠ ' ') {rest : List Char}
    (clear : ¬ dashes <:+: rest) : ¬ dashes <:+: character :: rest := by
  rw [List.infix_cons_iff, not_or]
  refine ⟨fun starts => noBlank ?_, clear⟩
  exact (List.cons_prefix_cons.mp starts).1.symm

theorem not_infix_padded (width value : Nat) {rest : List Char} (clear : ¬ dashes <:+: rest) :
    ¬ dashes <:+: Digits.padded width value ++ rest := by
  have noBlank : ∀ character ∈ Digits.padded width value, character ≠ ' ' := by
    rintro character member rfl
    exact absurd (Digits.isDigit_of_mem_padded member) (by decide)
  generalize Digits.padded width value = text at noBlank
  induction text with
  | nil => exact clear
  | cons character digits inductionHypothesis =>
      obtain ⟨first, others⟩ := List.forall_mem_cons.mp noBlank
      exact not_infix_cons first (inductionHypothesis others)

/-- A blank that has a digit behind it begins no separator. -/
theorem not_infix_blank_padded (width value : Nat) {rest : List Char}
    (clear : ¬ dashes <:+: Digits.padded width value ++ rest) :
    ¬ dashes <:+: [' '] ++ (Digits.padded width value ++ rest) := by
  obtain ⟨character, others, digits, isDigit⟩ := Digits.exists_padded_eq_cons width value
  rw [List.singleton_append, List.infix_cons_iff, not_or]
  refine ⟨fun starts => ?_, clear⟩
  rw [digits] at starts
  have isDash := (List.cons_prefix_cons.mp (List.cons_prefix_cons.mp starts).2).1
  rw [← isDash] at isDigit
  exact absurd isDigit (by decide)

theorem separable_asctime (moment : DateTime) : Separable moment.asctime.toList := by
  rw [Separable, DateTime.toList_asctime]
  simp only [List.append_assoc, List.cons_append, List.nil_append]
  refine not_infix_padded 4 moment.year (not_infix_cons (by decide) ?_)
  refine not_infix_padded 2 moment.month (not_infix_cons (by decide) ?_)
  refine not_infix_padded 2 moment.day (not_infix_blank_padded 2 moment.hour ?_)
  refine not_infix_padded 2 moment.hour (not_infix_cons (by decide) ?_)
  refine not_infix_padded 2 moment.minute (not_infix_cons (by decide) ?_)
  refine not_infix_padded 2 moment.second (not_infix_cons (by decide) ?_)
  exact not_infix_padded 3 (moment.microsecond / 1000) (by decide)

/-! ## The fields -/

section Fields

variable {record : LogRecord}

theorem toList_format (record : LogRecord) :
    record.format.toList =
      record.created.asctime.toList ++ (dashes ++ (record.name.toList ++ (dashes ++
        (record.levelname.toList ++ (dashes ++ record.message.toList))))) := by
  have separator : " - ".toList = dashes := rfl
  simp only [LogRecord.format, String.toList_append, separator, List.append_assoc]

/-- A field that is read as it is, by both readings. -/
structure Kept (field : List Char) : Prop where
  separable : Separable field
  stripped : Text.strip field = field
  trimmed : LogModal.trim field = field

theorem kept_level : ∀ level ∈ standardLevels, Kept level.toList := by
  have all : ∀ level ∈ standardLevels, ¬ dashes <:+: level.toList ++ dashes.dropLast ∧
      Text.strip level.toList = level.toList ∧
      LogModal.trim level.toList = level.toList := by
    decide +kernel
  intro level standard
  obtain ⟨separable, stripped, trimmed⟩ := all level standard
  exact ⟨separable, stripped, trimmed⟩

theorem upper_level (beyondAscii : Char → List Char) :
    ∀ level ∈ standardLevels, upper beyondAscii level = level := by
  intro level standard
  have ascii : ∀ level ∈ standardLevels, (level.toList.all fun character =>
      decide (character.toNat < 128) && decide (character.toUpper = character)) = true := by
    decide +kernel
  have same : ∀ character ∈ level.toList,
      (if character.toNat < 128 then [character.toUpper] else beyondAscii character) =
        [character] := by
    intro character member
    have both := List.all_eq_true.mp (ascii level standard) character member
    rw [Bool.and_eq_true, decide_eq_true_eq, decide_eq_true_eq] at both
    rw [if_pos both.1, both.2]
  rw [upper, List.flatMap_congr same, List.flatMap_singleton', String.ofList_toList]

theorem unbroken_level : ∀ level ∈ standardLevels, Text.Unbroken level.toList := by
  decide +kernel

theorem unbroken_asctime (moment : DateTime) : Text.Unbroken moment.asctime.toList := by
  have marks : Text.Unbroken ['-', ':', ' ', ','] := by decide
  intro character member
  rcases DateTime.mem_asctime member with isDigit | isMark
  · have noSpace := DateTime.isSpace_eq_false_of_isDigit isDigit
    refine Bool.eq_false_iff.mpr fun isBreak => ?_
    rw [Text.isSpace_of_isLineBreak isBreak] at noSpace
    cases noSpace
  · exact marks character isMark

theorem strip_asctime (moment : DateTime) :
    Text.strip moment.asctime.toList = moment.asctime.toList := by
  apply Text.strip_eq_self
  · intro character first
    exact DateTime.isSpace_eq_false_of_isDigit (DateTime.head?_asctime moment character first)
  · intro character last
    exact DateTime.isSpace_eq_false_of_isDigit (DateTime.getLast?_asctime moment character last)

theorem unbroken_format (standard : record.levelname ∈ standardLevels)
    (name : Text.Unbroken record.name.toList) (message : Text.Unbroken record.message.toList) :
    Text.Unbroken record.format.toList := by
  have separator : Text.Unbroken dashes := by decide
  have level := unbroken_level record.levelname standard
  have time := unbroken_asctime record.created
  unfold Text.Unbroken at *
  rw [toList_format]
  simp only [List.forall_mem_append]
  exact ⟨time, separator, name, separator, level, separator, message⟩

theorem not_blank_format (record : LogRecord) :
    (Text.strip record.format.toList).isEmpty = false := by
  rw [← Bool.not_eq_true, List.isEmpty_iff, Text.strip_eq_nil_iff, toList_format,
    Text.blank_append_iff, ← Text.strip_eq_nil_iff, strip_asctime, DateTime.toList_asctime]
  rintro ⟨nothing, -⟩
  exact Digits.padded_ne_nil _ _ (List.append_eq_nil_iff.mp nothing).1

end Fields

/-! ## Both readings -/

/-- A standard level, a name that has no separator and no blanks around it, and a message of one
line. -/
structure LogRecord.Plain (record : LogRecord) : Prop where
  level : record.levelname ∈ standardLevels
  clear : ¬ dashes <:+: record.name.toList
  stripped : Text.strip record.name.toList = record.name.toList
  trimmed : LogModal.trim record.name.toList = record.name.toList
  message : Text.Unbroken record.message.toList

section Readings

variable (isWord : Char → Bool) (beyondAscii : Char → List Char) (otherDigit : Char → Option Nat)
  (displayTime : List Char → Option String)

/-- The page recovers the logger, the level and the message. -/
def LogRecord.ReadLive (record : LogRecord) : Prop :=
  (LogModal.parseLiveLine displayTime beyondAscii record.format).map
      (fun line => (line.logger, line.level, line.message)) =
    some (record.name, record.levelname, record.message)

/-- The dashboard recovers the time, the logger, the level and the message. -/
structure LogRecord.ReadBack (record : LogRecord) (taskId agentId : String) : Prop where
  time : DateTime.strptime otherDigit (DateTime.fractionFormat otherDigit)
    record.created.asctime = some record.created
  entries : (logReading isWord beyondAscii otherDigit).parseAgentLogs [record.format] taskId
      agentId =
    [{ timestamp := record.created.isoformat
       level := record.levelname
       loggerName := record.name
       message := record.message
       taskId := taskId
       agentId := agentId }]

variable {record : LogRecord}

theorem readLive_of_kept (name : Kept record.name.toList)
    (standard : record.levelname ∈ standardLevels) :
    record.ReadLive beyondAscii displayTime := by
  have level := kept_level record.levelname standard
  have isDashes : [' ', '-', ' '] = dashes := rfl
  have nonempty : dashes ≠ [] := by decide
  obtain ⟨messageStart, messageRest, parts⟩ :=
    List.exists_cons_of_ne_nil (Substring.splitOn_ne_nil nonempty record.message.toList)
  have joined := Substring.intercalate_splitOn nonempty record.message.toList
  rw [parts] at joined
  rw [LogRecord.ReadLive, LogModal.parseLiveLine, isDashes, toList_format,
    splitOn_field (separable_asctime _), splitOn_field name.separable,
    splitOn_field level.separable, parts]
  simp only [Option.map_some, joined, name.trimmed, level.trimmed, String.ofList_toList,
    upper_level beyondAscii _ standard]

theorem readBack_of_kept (name : Kept record.name.toList)
    (standard : record.levelname ∈ standardLevels) (oneLine : Text.Unbroken record.format.toList)
    (taskId agentId : String) :
    record.ReadBack isWord beyondAscii otherDigit taskId agentId := by
  have level := kept_level record.levelname standard
  have notBlank := not_blank_format record
  refine ⟨DateTime.strptime_asctime otherDigit record.stamp, ?_⟩
  rw [LineReading.parseAgentLogs, List.flatMap_singleton,
    Text.flatMap_splitLines_line _ (LineReading.parseLine_empty ..) oneLine,
    LineReading.parseLine, notBlank, toList_format, splitDashes_field (separable_asctime _),
    splitDashes_field name.separable, splitDashes_field level.separable, splitDashes_zero]
  simp only [Bool.false_eq_true, if_false, logReading, strip_asctime, name.stripped,
    level.stripped, String.ofList_toList, List.nil_append, upper_level beyondAscii _ standard,
    DateTime.isoTimestamp_asctime otherDigit record.stamp, Option.getD_some]

/-- **Log lines.** The page and the dashboard recover a plain record whose name does not end like
the beginning of a separator; the dashboard, if the name is on one line. -/
theorem format_recovered (plain : record.Plain) (noDash : ¬ [' ', '-'] <:+ record.name.toList) :
    record.ReadLive beyondAscii displayTime ∧
      (Text.Unbroken record.name.toList → ∀ taskId agentId : String,
        record.ReadBack isWord beyondAscii otherDigit taskId agentId) := by
  have name : Kept record.name.toList :=
    ⟨(separable_iff _).mpr ⟨plain.clear, noDash⟩, plain.stripped, plain.trimmed⟩
  constructor
  · exact readLive_of_kept beyondAscii displayTime name plain.level
  · intro oneLine taskId agentId
    exact readBack_of_kept isWord beyondAscii otherDigit name plain.level
      (unbroken_format plain.level oneLine plain.message) taskId agentId

end Readings

/-! ## Names that are lost -/

def afternoon : DateTime := ⟨2026, 1, 6, 16, 20, 30, 123000, none⟩

theorem stamp_afternoon : afternoon.Stamp where
  toValid := by decide
  milliseconds := rfl
  naive := rfl

theorem fourDigits_afternoon : 1000 ≤ afternoon.year := by decide

def afternoonRecord (name : String) : LogRecord :=
  { created := afternoon
    name := name
    levelname := "INFO"
    message := "first - second"
    stamp := stamp_afternoon
    fourDigits := fourDigits_afternoon }

/-- A message with separators is recovered. -/
theorem format_recovered_agent :
    (afternoonRecord "agent").ReadLive (fun _ => []) (fun _ => none) ∧
      (Text.Unbroken "agent".toList → ∀ taskId agentId : String,
        (afternoonRecord "agent").ReadBack (fun _ => false) (fun _ => []) (fun _ => none)
          taskId agentId) := by
  have message : Text.Unbroken "first - second".toList := by decide +kernel
  exact format_recovered (fun _ => false) (fun _ => []) (fun _ => none) (fun _ => none)
    ⟨by decide, by decide +kernel, by decide +kernel, by decide +kernel, message⟩
    (by decide +kernel)

/-- A name that ends in a dash is taken for a separator by both readings, and a name on two lines
is not recovered by the dashboard. -/
theorem names_lost :
    ((afternoonRecord "agent -").Plain ∧
        ¬(afternoonRecord "agent -").ReadLive (fun _ => []) (fun _ => none) ∧
        ¬(afternoonRecord "agent -").ReadBack (fun _ => false) (fun _ => []) (fun _ => none)
          "task" "agent") ∧
      (afternoonRecord "two\nlines").Plain ∧
        ¬ [' ', '-'] <:+ (afternoonRecord "two\nlines").name.toList ∧
        ¬(afternoonRecord "two\nlines").ReadBack (fun _ => false) (fun _ => []) (fun _ => none)
          "task" "agent" := by
  have message : Text.Unbroken "first - second".toList := by decide +kernel
  refine ⟨⟨?_, ?_, ?_⟩, ?_, ?_, ?_⟩
  · exact ⟨by decide, by decide +kernel, by decide +kernel, by decide +kernel, message⟩
  · unfold LogRecord.ReadLive
    decide +kernel
  · intro readBack
    exact absurd readBack.entries (by decide +kernel)
  · exact ⟨by decide, by decide +kernel, by decide +kernel, by decide +kernel, message⟩
  · decide +kernel
  · intro readBack
    exact absurd readBack.entries (by decide +kernel)

end QuAIA.Orchestrator
