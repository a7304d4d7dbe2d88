import QuAIA.Library.Json.Unescaped
import QuAIA.Library.RotatingFile
import QuAIA.Library.Text

/-!
Contract: the log files of a service (`JsonFormatter`, `_build_file_log_handler`).

Owns: the document of a record and its line; and that, after any number of records, each file
consists of whole lines that are read back as the documents of the last records, in their order.

Does not own: how the logging module makes the texts of a record. A record whose document cannot be
written leaves the files alone; one whose line cannot be encoded is lost.
-/

set_option autoImplicit false

namespace QuAIA.Common.LogFiles

open QuAIA.Library

/-! ## The code -/

structure ExcInfo where
  type : String
  message : String
  stackTrace : String

/-- A `logging.LogRecord`. `extra` is `getattr(record, field, None)`. -/
structure LogRecord where
  timestamp : String
  levelname : String
  name : String
  message : String
  excInfo : Option ExcInfo
  extra : String → Option Json
  writable : ∀ field value, extra field = some value → Json.Writable value

/-- The flat extra fields. -/
def extraFields : List String :=
  ["task_id", "agent_id", "story_id", "work_item_id", "model", "input_tokens", "output_tokens",
    "duration_ms"]

section Service

variable (service : String)

def textField (name value : String) : List Nat × Json :=
  (Json.pointsOf name, Json.ofString value)

def errorDocument (excInfo : ExcInfo) : Json :=
  .object [textField "type" excInfo.type, textField "message" excInfo.message,
    textField "stack_trace" excInfo.stackTrace]

/-- `doc` of `JsonFormatter.format`. -/
def LogRecord.document (record : LogRecord) : List (List Nat × Json) :=
  [textField "@timestamp" record.timestamp, textField "log.level" record.levelname,
    textField "log.logger" record.name, textField "service.name" service,
    textField "message" record.message] ++
  (record.excInfo.map fun excInfo => (Json.pointsOf "error", errorDocument excInfo)).toList ++
  extraFields.filterMap fun field =>
    (record.extra field).map fun value => (Json.pointsOf field, value)

def LogRecord.format (record : LogRecord) : List Char :=
  Json.dumpsPlain (.object (record.document service))

/-- What the handler writes. -/
def LogRecord.line (record : LogRecord) : List Char := record.format service ++ ['\n']

def backupCount : Nat := 5

def limits : FileLimits LogRecord where
  maxBytes := 10 * 1024 * 1024
  bytes record := (Text.encodeChars (record.line service)).length
  characters record := (record.line service).length
  limited := Nat.mul_pos (Nat.mul_pos (Nat.zero_lt_succ 9) (Nat.zero_lt_succ 1023))
    (Nat.zero_lt_succ 1023)
  positive record := by
    rw [LogRecord.line, Text.encodeChars, List.flatMap_append, List.length_append]
    exact Nat.lt_of_lt_of_le (Nat.zero_lt_succ 0) (Nat.le_add_left _ _)

def fileText (records : List LogRecord) : List Char :=
  records.flatMap (LogRecord.line service)

/-- The documents of a file, one in each line. -/
def readDocuments (text : List Char) : List (Option Json) :=
  (text.splitOn '\n').dropLast.map Json.loads

/-! ## Lines -/

theorem isValidChar_of_mem_pointsOf {text : String} {point : Nat}
    (member : point ∈ Json.pointsOf text) : point.isValidChar := by
  obtain ⟨character, -, rfl⟩ := List.mem_map.mp member
  exact character.valid

theorem writable_ofString (text : String) : Json.Writable (Json.ofString text) :=
  .string fun _ member => isValidChar_of_mem_pointsOf member

theorem writable_errorDocument (excInfo : ExcInfo) : Json.Writable (errorDocument excInfo) := by
  have fields : ∀ field ∈ [textField "type" excInfo.type, textField "message" excInfo.message,
      textField "stack_trace" excInfo.stackTrace],
      ∃ name value, field = textField name value := by
    simp only [List.mem_cons, List.not_mem_nil, or_false]
    rintro field (rfl | rfl | rfl) <;> exact ⟨_, _, rfl⟩
  refine .object ?_ ?_
  · intro field member
    obtain ⟨name, value, rfl⟩ := fields field member
    exact fun _ => isValidChar_of_mem_pointsOf
  · intro field member
    obtain ⟨name, value, rfl⟩ := fields field member
    exact writable_ofString value

/-- Every field of a document has a text as its name, and a value that can be written. -/
theorem LogRecord.field_of_mem_document (record : LogRecord) {field : List Nat × Json}
    (member : field ∈ record.document service) :
    (∃ name, field.1 = Json.pointsOf name) ∧ Json.Writable field.2 := by
  rcases List.mem_append.mp member with inFront | isExtra
  · rcases List.mem_append.mp inFront with isText | isError
    · simp only [List.mem_cons, List.not_mem_nil, or_false] at isText
      rcases isText with rfl | rfl | rfl | rfl | rfl <;>
        exact ⟨⟨_, rfl⟩, writable_ofString _⟩
    · obtain ⟨excInfo, -, rfl⟩ := Option.map_eq_some_iff.mp (Option.mem_toList.mp isError)
      exact ⟨⟨_, rfl⟩, writable_errorDocument excInfo⟩
  · obtain ⟨name, -, isField⟩ := List.mem_filterMap.mp isExtra
    obtain ⟨value, found, rfl⟩ := Option.map_eq_some_iff.mp isField
    exact ⟨⟨name, rfl⟩, record.writable name value found⟩

theorem LogRecord.writable_document (record : LogRecord) :
    Json.Writable (.object (record.document service)) := by
  refine .object ?_ ?_
  · intro field member
    obtain ⟨⟨name, isName⟩, -⟩ := record.field_of_mem_document service member
    rw [isName]
    exact fun _ => isValidChar_of_mem_pointsOf
  · exact fun field member => (record.field_of_mem_document service member).2

theorem splitOn_line_append (record : LogRecord) (rest : List Char) :
    (record.line service ++ rest).splitOn '\n' = record.format service :: rest.splitOn '\n' := by
  have noBreak : '\n' ∉ record.format service :=
    Json.newline_not_mem_dumpsPlain (record.writable_document service)
  rw [LogRecord.line, List.append_assoc, List.singleton_append, List.splitOn_append_cons_self,
    List.splitOn_eq_singleton noBreak]
  rfl

/-- A file is read back as the documents of its records. -/
theorem readDocuments_fileText (records : List LogRecord) :
    readDocuments (fileText service records) =
      records.map fun record => some (.object (record.document service)) := by
  have pieces : (fileText service records).splitOn '\n' =
      records.map (LogRecord.format service) ++ [[]] := by
    induction records with
    | nil => rfl
    | cons record others inductionHypothesis =>
        rw [fileText, List.flatMap_cons, splitOn_line_append]
        exact congrArg _ inductionHypothesis
  rw [readDocuments, pieces, List.dropLast_concat, List.map_map]
  apply List.map_congr_left
  intro record _
  exact Json.loads_dumpsPlain (record.writable_document service)

/-- The size of a file is the number of bytes of its text. -/
theorem size_eq_length (records : List LogRecord) :
    RotatingFile.size (limits service) records =
      (Text.encodeChars (fileText service records)).length := by
  rw [RotatingFile.size, fileText, Text.encodeChars, List.flatMap_assoc, List.length_flatMap]
  rfl

theorem length_encodeChars_le (characters : List Char) :
    (Text.encodeChars characters).length ≤ 4 * characters.length := by
  induction characters with
  | nil => exact Nat.le_refl 0
  | cons character rest inductionHypothesis =>
      have few : (String.utf8EncodeChar character).length ≤ 4 := by
        rw [String.length_utf8EncodeChar]
        exact character.utf8Size_le_four
      rw [Text.encodeChars, List.flatMap_cons, List.length_append, List.length_cons]
      rw [Text.encodeChars] at inductionHypothesis
      omega

/-! ## Files -/

/-- What is known of the files after some calls of the handler. -/
structure LogPromise (calls : List (RotatingFile.Call LogRecord)) (log : RotatingFile LogRecord) :
    Prop where
  /-- Oldest file first, they hold the last records that were written. Before one is dropped there
  are all backups, each of which had no room for a line when it was closed. -/
  suffix : ∃ dropped, dropped ++ log.history = RotatingFile.emitted calls ∧ (dropped = [] ∨
    ∃ full : List (List LogRecord), log.backups = full.map some ∧ full.length = backupCount ∧
      ∀ backup ∈ full, RotatingFile.WasFull (limits service) calls backup)
  readBack : ∀ records ∈ log.files, readDocuments (fileText service records) =
    records.map fun record => some (.object (record.document service))
  /-- The bytes before the last line and its characters are below the limit. -/
  size : ∀ records ∈ log.files, records.length ≤ 1 ∨ ∃ front last, records = front ++ [last] ∧
    (Text.encodeChars (fileText service front)).length + (last.line service).length <
      (limits service).maxBytes ∧
    (Text.encodeChars (fileText service records)).length <
      (limits service).maxBytes + 3 * (last.line service).length

/-- The calls of the handler since the directory was made, in any number of processes that run one
after the other. -/
def written (calls : List (RotatingFile.Call LogRecord)) : RotatingFile LogRecord :=
  (RotatingFile.empty backupCount).run (limits service) calls

/-- **Log files.** Whatever the records are, in every run of the handler from an empty directory on:
the files, oldest first, hold the last records that were written, of which none is dropped before
all five backups exist and were full; each line of a file is read back as the document of its
record; and no file of several records grows beyond the limit by more than its own last line. -/
theorem log_files_read_back (calls : List (RotatingFile.Call LogRecord)) :
    LogPromise service calls (written service calls) := by
  obtain ⟨kept, bounded⟩ :=
    RotatingFile.run_spec (limits service) (Nat.zero_lt_succ 4 : 0 < backupCount) calls
  refine ⟨kept.dropped_or_full, fun records _ => readDocuments_fileText service records, ?_⟩
  intro records member
  rcases bounded records member with single | ⟨front, last, rfl, fits⟩
  · exact Or.inl single
  · refine Or.inr ⟨front, last, rfl, ?_, ?_⟩
    · rw [← size_eq_length]
      exact fits
    · have lastBytes : (limits service).bytes last ≤ 4 * (last.line service).length :=
        length_encodeChars_le (last.line service)
      have isCharacters : (limits service).characters last = (last.line service).length := rfl
      rw [← size_eq_length, RotatingFile.size, List.map_append, List.sum_append,
        List.map_singleton, List.sum_singleton]
      rw [RotatingFile.size] at fits
      omega

end Service

theorem writable_duration (field : String) (value : Json)
    (found : (if field = "duration_ms" then some (Json.number ['1', '2']) else none) = some value) :
    Json.Writable value := by
  split at found
  · cases found
    exact .number (List.forall_mem_cons.mpr ⟨rfl, List.forall_mem_singleton.mpr rfl⟩) rfl
  · cases found

/-- A record whose message has two lines. -/
def twoLines : LogRecord where
  timestamp := "2026-01-01T00:00:00+00:00"
  levelname := "INFO"
  name := "agent"
  message := "first\nsecond ✓"
  excInfo := none
  extra field := if field = "duration_ms" then some (.number ['1', '2']) else none
  writable := writable_duration

def twoRecords : List (RotatingFile.Call LogRecord) := [.emit twoLines, .lost 7, .emit twoLines]

theorem log_files_read_back_twoLines :
    LogPromise "orchestrator" twoRecords (written "orchestrator" twoRecords) ∧
      RotatingFile.emitted twoRecords = [twoLines, twoLines] ∧
      twoLines.format "orchestrator" =
        ("\x7b\"@timestamp\": \"2026-01-01T00:00:00+00:00\", \"log.level\": \"INFO\", " ++
          "\"log.logger\": \"agent\", \"service.name\": \"orchestrator\", " ++
          "\"message\": \"first\\nsecond ✓\", \"duration_ms\": 12\x7d").toList :=
  ⟨log_files_read_back "orchestrator" twoRecords, rfl, by decide +kernel⟩

end QuAIA.Common.LogFiles
