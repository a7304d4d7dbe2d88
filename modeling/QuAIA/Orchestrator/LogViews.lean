import Mathlib.Data.String.Basic
import QuAIA.Library.Paging
import QuAIA.Library.StableSort
import QuAIA.Orchestrator.AgentLogs

/-!
Contract: the log views of the orchestrator.

Owns: the entries of the in-memory buffer; `MemoryLogHandler.get_logs`;
`DashboardService.get_logs` in its three modes; and when the log of a task is returned in the
order of its lines.

Does not own: how a record becomes an entry of the buffer, and what the standard library knows
of texts (`LineReading`). Limits and offsets are not negative.
-/

set_option autoImplicit false

namespace QuAIA.Orchestrator

open QuAIA.Library
open QuAIA.Library.Paging
open QuAIA.Library.StableSort

/-! ## Entries -/

/-- `LogEntry`. -/
structure LogEntry where
  timestamp : String
  level : String
  loggerName : String
  message : String
  taskId : Option String
  agentId : Option String
  errorType : Option String
deriving DecidableEq, Repr

/-- The dictionary of an entry. The key `error_type` may be missing. -/
structure LogDict where
  timestamp : String
  level : String
  logger : String
  message : String
  taskId : Option String
  agentId : Option String
  errorType : Option String
deriving DecidableEq, Repr

/-- An empty text is none. -/
def given (text : Option String) : Option String := text.filter fun value => value ≠ ""

def LogEntry.toDict (entry : LogEntry) : LogDict where
  timestamp := entry.timestamp
  level := entry.level
  logger := entry.loggerName
  message := entry.message
  taskId := entry.taskId
  agentId := entry.agentId
  errorType := given entry.errorType

/-- An entry that was read from a line. -/
def ParsedLogEntry.toLogEntry (entry : ParsedLogEntry) : LogEntry where
  timestamp := entry.timestamp
  level := entry.level
  loggerName := entry.loggerName
  message := entry.message
  taskId := some entry.taskId
  agentId := some entry.agentId
  errorType := none

/-! ## The two views -/

/-- The filter by level, if a level is given. -/
def filterLevel (upper : String → String) (level : Option String) (logs : List LogEntry) :
    List LogEntry :=
  match given level with
  | none => logs
  | some level => logs.filter fun log => log.level = upper level

/-- The default of `max_size`, which the one instance has. -/
def memoryLogMaxSize : Nat := 50000

/-- The ring buffer, oldest first. -/
structure MemoryLogHandler where
  buffer : List LogEntry
  bounded : buffer.length ≤ memoryLogMaxSize

namespace MemoryLogHandler

def empty : MemoryLogHandler := ⟨[], Nat.zero_le _⟩

/-- `_buffer.append`: a full buffer drops its oldest entry. -/
def append (handler : MemoryLogHandler) (entry : LogEntry) : MemoryLogHandler where
  buffer :=
    (if handler.buffer.length = memoryLogMaxSize then handler.buffer.tail else handler.buffer) ++
      [entry]
  bounded := by
    have size : 0 < memoryLogMaxSize := by decide
    have bounded := handler.bounded
    rw [List.length_append, List.length_singleton]
    split
    · rw [List.length_tail]
      omega
    · omega

def getLogs (upper : String → String) (handler : MemoryLogHandler) (limit offset : Nat)
    (level : Option String) : List LogEntry :=
  sliceFromEnd limit offset (filterLevel upper level handler.buffer)

end MemoryLogHandler

structure DashboardService (Usage : Type) where
  tasks : TaskHistory Usage
  memoryLogHandler : MemoryLogHandler

namespace DashboardService

variable {Usage : Type} (reading : LineReading) (service : DashboardService Usage)

def parseAgentLogs (rawLogs : List String) (taskId agentId : String) : List LogEntry :=
  (reading.parseAgentLogs rawLogs taskId agentId).map ParsedLogEntry.toLogEntry

/-- The entries that `get_logs` collects before it sorts them. -/
def collectEntries (level taskId agentId : Option String) : List LogEntry :=
  match given taskId, given agentId with
  | some taskId, _ =>
      filterLevel reading.upper level <|
        match service.tasks.getById taskId with
        | some record => parseAgentLogs reading (record.agentLogs.getD []) taskId record.agentId
        | none => []
  | none, some agentId =>
      filterLevel reading.upper level <|
        (service.tasks.getAll.filter fun task => task.agentId = agentId).flatMap fun task =>
          parseAgentLogs reading (task.agentLogs.getD []) task.taskId agentId
  | none, none => service.memoryLogHandler.getLogs reading.upper 100000 0 level

def getLogs (limit offset : Nat) (level taskId agentId : Option String) : List LogDict :=
  (sliceFromEnd limit offset
    (sortBy LogEntry.timestamp (collectEntries reading service level taskId agentId))).map
      LogEntry.toDict

end DashboardService

/-! ## The log of a task -/

section TaskLog

variable (reading : LineReading)

/-- The time stamp that the entry of a line has: of a line with four fields that of the first one,
in ISO format if it is read, and else none. -/
def LineReading.lineStamp (line : String) : String :=
  match splitDashes 3 [] line.toList with
  | [rawTimestamp, _, _, _] =>
      let stamp := String.ofList (Text.strip rawTimestamp)
      (reading.isoTimestamp stamp).getD stamp
  | _ => ""

/-- The time stamp of a header line, in ISO format. -/
def LineReading.headerStamp (line : String) : Option String :=
  match splitDashes 3 [] line.toList with
  | [rawTimestamp, _, _, _] => reading.isoTimestamp (String.ofList (Text.strip rawTimestamp))
  | _ => none

def isBlank (line : String) : Bool := (Text.strip line.toList).isEmpty

/-- The lines of a stored log that are not blank, in the order in which they were emitted. -/
def nonBlankLines (rawLogs : List String) : List String :=
  rawLogs.flatMap fun logChunk => (Text.splitLines logChunk).filter fun line => !isBlank line

/-- The headers of a log do not go back in time. -/
def LineReading.HeadersRise (rawLogs : List String) : Prop :=
  ((nonBlankLines rawLogs).filterMap reading.headerStamp).Pairwise (· ≤ ·)

/-- The time stamps of the entries do not fall, those of continuation lines included. -/
def LineReading.StampsRise (rawLogs : List String) : Prop :=
  ((nonBlankLines rawLogs).map reading.lineStamp).Pairwise (· ≤ ·)

theorem timestamps_parseLine (taskId agentId line : String) :
    (reading.parseLine taskId agentId line).map ParsedLogEntry.timestamp =
      if isBlank line then [] else [reading.lineStamp line] := by
  rw [LineReading.parseLine, isBlank]
  split
  · rfl
  · split
    next fields =>
      rw [LineReading.lineStamp, fields]
      rfl
    next noFields =>
      rw [LineReading.lineStamp]
      split
      next fields => exact absurd fields (noFields _ _ _ _)
      next => rfl

/-- One entry for each line that is not blank, with its time stamp. -/
theorem timestamps_parseAgentLogs (rawLogs : List String) (taskId agentId : String) :
    (DashboardService.parseAgentLogs reading rawLogs taskId agentId).map LogEntry.timestamp =
      (nonBlankLines rawLogs).map reading.lineStamp := by
  have ofLines : ∀ lines : List String,
      (lines.flatMap (reading.parseLine taskId agentId)).map ParsedLogEntry.timestamp =
        (lines.filter fun line => !isBlank line).map reading.lineStamp := by
    intro lines
    induction lines with
    | nil => rfl
    | cons line rest inductionHypothesis =>
        rw [List.flatMap_cons, List.map_append, inductionHypothesis, timestamps_parseLine,
          List.filter_cons]
        cases isBlank line <;> rfl
  rw [DashboardService.parseAgentLogs, List.map_map]
  show (reading.parseAgentLogs rawLogs taskId agentId).map ParsedLogEntry.timestamp = _
  rw [LineReading.parseAgentLogs, nonBlankLines, List.map_flatMap, List.map_flatMap]
  exact List.flatMap_congr fun logChunk _ => ofLines (Text.splitLines logChunk)

variable {Usage : Type} {reading} {service : DashboardService Usage} {taskId : String}
  {record : TaskRecord Usage}

theorem collectEntries_task (named : taskId ≠ "")
    (found : service.tasks.getById taskId = some record) (agentId : Option String) :
    service.collectEntries reading none (some taskId) agentId =
      DashboardService.parseAgentLogs reading (record.agentLogs.getD []) taskId
        record.agentId := by
  have isGiven : given (some taskId) = some taskId := by simp [given, named]
  rw [DashboardService.collectEntries, isGiven]
  show filterLevel reading.upper none (match service.tasks.getById taskId with | _ => _) = _
  rw [found]
  rfl

/-- Entries are in the order of their time stamps if sorting them changes nothing. -/
theorem map_sortBy_eq_iff (entries : List LogEntry) :
    (sortBy LogEntry.timestamp entries).map LogEntry.toDict = entries.map LogEntry.toDict ↔
      (entries.map LogEntry.timestamp).Pairwise (· ≤ ·) := by
  constructor
  · intro same
    have sameStamps := congrArg (List.map LogDict.timestamp) same
    rw [List.map_map, List.map_map] at sameStamps
    have sorted := pairwise_sortBy LogEntry.timestamp entries
    rw [← List.pairwise_map] at sorted
    exact sameStamps ▸ sorted
  · intro rises
    rw [sortBy_of_pairwise (List.pairwise_map.mp rises)]

theorem getLogs_task (named : taskId ≠ "")
    (found : service.tasks.getById taskId = some record) (agentId : Option String) {limit : Nat}
    (enough : (DashboardService.parseAgentLogs reading (record.agentLogs.getD []) taskId
      record.agentId).length ≤ limit) :
    service.getLogs reading limit 0 none (some taskId) agentId =
      ((sortBy LogEntry.timestamp (DashboardService.parseAgentLogs reading
        (record.agentLogs.getD []) taskId record.agentId)).map LogEntry.toDict).reverse := by
  rw [← (sortBy_perm LogEntry.timestamp _).length_eq] at enough
  rw [DashboardService.getLogs, collectEntries_task named found, sliceFromEnd_all enough,
    List.map_reverse]

/-- **Order of a task log.** With a limit that is not reached, the entries of a task come in the
reverse order of their lines exactly when the time stamps of all its lines do not fall. -/
theorem taskLog_reversed_iff (named : taskId ≠ "")
    (found : service.tasks.getById taskId = some record) (agentId : Option String) {limit : Nat}
    (enough : (DashboardService.parseAgentLogs reading (record.agentLogs.getD []) taskId
      record.agentId).length ≤ limit) :
    service.getLogs reading limit 0 none (some taskId) agentId =
        (DashboardService.parseAgentLogs reading (record.agentLogs.getD []) taskId
          record.agentId).reverse.map LogEntry.toDict ↔
      reading.StampsRise (record.agentLogs.getD []) := by
  rw [getLogs_task named found agentId enough, List.map_reverse, List.reverse_inj,
    map_sortBy_eq_iff, timestamps_parseAgentLogs, LineReading.StampsRise]

end TaskLog

/-- A reading that knows two time stamps. -/
def failureReading : LineReading where
  isWord := Char.isAlphanum
  upper := String.toUpper
  isoTimestamp stamp :=
    if stamp = "2026-01-06 16:20:30,123" then some "2026-01-06T16:20:30.123000"
    else if stamp = "2026-01-06 16:20:31,000" then some "2026-01-06T16:20:31.000000"
    else none

/-- A task with one log line, that failed. -/
def failedTask : TaskRecord Unit where
  taskId := "task-1"
  agentId := "agent-1"
  agentName := "reviewer"
  description := "a review"
  status := .failed
  startTime := 0
  endTime := none
  errorMessage := none
  agentLogs := some ["2026-01-06 16:20:30,123 - reviewer - ERROR - failed"]
  currentActivity := none
  tokenUsage := none
  resultSummary := none
  traceJson := none

/-- The same with the traceback of the failure. -/
def tracedTask : TaskRecord Unit :=
  { failedTask with
    agentLogs := some ["2026-01-06 16:20:30,123 - reviewer - ERROR - failed",
      "Traceback (most recent call last):"] }

theorem one_le_hundred : 1 ≤ 100 := by decide

def dashboardOf (record : TaskRecord Unit) : DashboardService Unit :=
  ⟨(TaskHistory.create 100 one_le_hundred).add record, .empty⟩

/-- The same in two chunks, of which the first begins with lines without a header. -/
def retriedTask : TaskRecord Unit :=
  { failedTask with
    agentLogs := some ["connecting\nconnected\n2026-01-06 16:20:30,123 - reviewer - INFO - started",
      "\n2026-01-06 16:20:31,000 - reviewer - ERROR - failed\n"] }

/-- Its four entries have no time stamp or rising ones, and come in reverse order. -/
theorem taskLog_reversed_retried :
    (dashboardOf retriedTask).getLogs failureReading 10 0 none (some "task-1") none =
      (DashboardService.parseAgentLogs failureReading (retriedTask.agentLogs.getD []) "task-1"
        "agent-1").reverse.map LogEntry.toDict := by
  have found : (dashboardOf retriedTask).tasks.getById "task-1" = some retriedTask :=
    TaskHistory.getById_add _ retriedTask
  refine (taskLog_reversed_iff (by decide) found none (by decide +kernel)).mpr ?_
  have stamps : (nonBlankLines (retriedTask.agentLogs.getD [])).map failureReading.lineStamp =
      ["", "", "2026-01-06T16:20:30.123000", "2026-01-06T16:20:31.000000"] := by decide +kernel
  rw [LineReading.StampsRise, stamps]
  decide +kernel

/-- The traceback comes before the line that it belongs to. -/
theorem tracedTask_disordered :
    ¬∀ (reading : LineReading) (service : DashboardService Unit) (taskId : String)
      (record : TaskRecord Unit) (limit : Nat), taskId ≠ "" →
      service.tasks.getById taskId = some record →
      reading.HeadersRise (record.agentLogs.getD []) →
      (DashboardService.parseAgentLogs reading (record.agentLogs.getD []) taskId
        record.agentId).length ≤ limit →
      service.getLogs reading limit 0 none (some taskId) none =
        (DashboardService.parseAgentLogs reading (record.agentLogs.getD []) taskId
          record.agentId).reverse.map LogEntry.toDict := by
  intro reversed
  have found : (dashboardOf tracedTask).tasks.getById "task-1" = some tracedTask :=
    TaskHistory.getById_add _ tracedTask
  have headers : failureReading.HeadersRise (tracedTask.agentLogs.getD []) := by
    have one : (nonBlankLines (tracedTask.agentLogs.getD [])).filterMap
        failureReading.headerStamp = ["2026-01-06T16:20:30.123000"] := by decide +kernel
    rw [LineReading.HeadersRise, one]
    exact List.pairwise_singleton _ _
  have enough : (DashboardService.parseAgentLogs failureReading (tracedTask.agentLogs.getD [])
      "task-1" tracedTask.agentId).length ≤ 10 := by decide +kernel
  have same := reversed failureReading (dashboardOf tracedTask) "task-1" tracedTask 10 (by decide)
    found headers enough
  rw [getLogs_task (by decide) found none enough, List.map_reverse, List.reverse_inj,
    map_sortBy_eq_iff, timestamps_parseAgentLogs] at same
  have stamps : (nonBlankLines (tracedTask.agentLogs.getD [])).map failureReading.lineStamp =
      ["2026-01-06T16:20:30.123000", ""] := by decide +kernel
  rw [stamps, List.pairwise_cons] at same
  exact absurd (same.1 "" (List.mem_singleton_self "")) (by decide)

end QuAIA.Orchestrator
