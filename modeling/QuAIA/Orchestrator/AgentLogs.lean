import QuAIA.Orchestrator.StreamConsumer

/-!
Contract: the log entries that the dashboard reads from the agent logs of a task
(`DashboardService._parse_agent_logs`).

Owns: the reading of a log line, the buffer of streamed lines, the log list that replaces
it when the task completes, and the entries that both amount to.

Does not own: what the standard library knows of texts (`LineReading`); it is arbitrary.
-/

set_option autoImplicit false

namespace QuAIA.Orchestrator

open QuAIA.Common
open QuAIA.Library

/-! ## The code -/

/-- The parts of the standard library that the reading of a line uses: the word characters
of a pattern, `str.upper`, and the text of a time stamp in one of the two formats
(`datetime.strptime(..).isoformat()`), if it has one. -/
structure LineReading where
  isWord : Char → Bool
  upper : String → String
  isoTimestamp : String → Option String

/-- `LogEntry` of the dashboard. -/
structure ParsedLogEntry where
  timestamp : String
  level : String
  loggerName : String
  message : String
  taskId : String
  agentId : String
deriving DecidableEq, Repr

/-- The alternatives of `_LEVEL_TOKEN_PATTERN`, in order. -/
def levelTokens : List String :=
  ["CRITICAL", "FATAL", "ERROR", "WARNING", "WARN", "INFO", "DEBUG", "TRACE"]

/-- `_LEVEL_ALIASES`. -/
def levelAlias (token : String) : String :=
  if token = "WARN" then "WARNING" else if token = "FATAL" then "CRITICAL" else token

/-- No word character: a token next to it ends at a word boundary. -/
def LineReading.isBoundary (reading : LineReading) (neighbour : Option Char) : Bool :=
  !neighbour.any reading.isWord

/-- The first token of the characters that stands between word boundaries. -/
def LineReading.findLevelToken (reading : LineReading) :
    Option Char → List Char → Option String
  | _, [] => none
  | previous, character :: rest =>
      let here := levelTokens.find? fun token =>
        reading.isBoundary previous && token.toList.isPrefixOf (character :: rest) &&
          reading.isBoundary ((character :: rest).drop token.length).head?
      here <|> reading.findLevelToken (some character) rest

/-- `_detect_log_level`. -/
def LineReading.detectLogLevel (reading : LineReading) (line : List Char) : Option String :=
  (reading.findLevelToken none line).map levelAlias

/-- `line.split(" - ", maxsplit)`. -/
def splitDashes : Nat → List Char → List Char → List (List Char)
  | _, current, [] => [current]
  | more + 1, current, ' ' :: '-' :: ' ' :: rest => current :: splitDashes more [] rest
  | more, current, character :: rest => splitDashes more (current ++ [character]) rest

/-- The entries of one line: none if it is blank. -/
def LineReading.parseLine (reading : LineReading) (taskId agentId line : String) :
    List ParsedLogEntry :=
  if (Text.strip line.toList).isEmpty then []
  else
    match splitDashes 3 [] line.toList with
    | [rawTimestamp, parsedLogger, parsedLevel, parsedMessage] =>
        let stamp := String.ofList (Text.strip rawTimestamp)
        [{ timestamp := (reading.isoTimestamp stamp).getD stamp
           level := reading.upper (String.ofList (Text.strip parsedLevel))
           loggerName := String.ofList (Text.strip parsedLogger)
           message := String.ofList parsedMessage
           taskId := taskId
           agentId := agentId }]
    | _ =>
        [{ timestamp := ""
           level := (reading.detectLogLevel line.toList).getD "INFO"
           loggerName := s!"agent.{agentId}"
           message := line
           taskId := taskId
           agentId := agentId }]

/-- `_parse_agent_logs`. -/
def LineReading.parseAgentLogs (reading : LineReading) (rawLogs : List String)
    (taskId agentId : String) : List ParsedLogEntry :=
  rawLogs.flatMap fun logChunk =>
    (Text.splitLines logChunk).flatMap (reading.parseLine taskId agentId)

@[simp] theorem LineReading.parseLine_empty (reading : LineReading) (taskId agentId : String) :
    reading.parseLine taskId agentId "" = [] := rfl

/-- Lines are read alike one by one and joined. -/
theorem LineReading.parseAgentLogs_joined (reading : LineReading) {lines : List String}
    (unbroken : ∀ line ∈ lines, Text.Unbroken line.toList) (taskId agentId : String) :
    reading.parseAgentLogs ["\n".intercalate lines] taskId agentId =
      reading.parseAgentLogs lines taskId agentId := by
  have passesOver := reading.parseLine_empty taskId agentId
  calc reading.parseAgentLogs ["\n".intercalate lines] taskId agentId
      = lines.flatMap (reading.parseLine taskId agentId) := by
        unfold LineReading.parseAgentLogs
        rw [List.flatMap_singleton]
        exact Text.flatMap_splitLines_intercalate _ passesOver unbroken
    _ = reading.parseAgentLogs lines taskId agentId := by
        unfold LineReading.parseAgentLogs
        apply List.flatMap_congr
        intro line member
        exact (Text.flatMap_splitLines_line _ passesOver (unbroken line member)).symm

/-! ## The streamed buffer -/

section Buffer

variable {Usage : Type}

/-- The log list of the record of a task, as the dashboard reads it. -/
def agentLogsOf (history : TaskHistory Usage) (taskId : String) : List String :=
  ((history.getById taskId).bind TaskRecord.agentLogs).getD []

/-- A mutator of other fields. -/
theorem agentLogsOf_mutate (history : TaskHistory Usage) (taskId : String)
    {change : TaskRecord Usage → TaskRecord Usage}
    (keeps : ∀ record, (change record).agentLogs = record.agentLogs) :
    agentLogsOf (history.mutate taskId change) taskId = agentLogsOf history taskId := by
  unfold agentLogsOf
  rw [TaskHistory.getById_mutate]
  cases history.getById taskId with
  | none => rfl
  | some record => simp [keeps]

theorem isSome_getById_mutate (history : TaskHistory Usage) (taskId : String)
    (change : TaskRecord Usage → TaskRecord Usage) :
    ((history.mutate taskId change).getById taskId).isSome =
      (history.getById taskId).isSome := by
  rw [TaskHistory.getById_mutate, Option.isSome_map]

theorem agentLogsOf_updateLogs {history : TaskHistory Usage} {taskId : String}
    (present : (history.getById taskId).isSome = true) (logs : List String) :
    agentLogsOf (history.updateLogs taskId logs) taskId = logs := by
  obtain ⟨record, found⟩ := Option.isSome_iff_exists.mp present
  unfold agentLogsOf TaskHistory.updateLogs
  rw [TaskHistory.getById_mutate, found]
  rfl

theorem agentLogsOf_appendLogBatch {history : TaskHistory Usage} {taskId : String}
    (present : (history.getById taskId).isSome = true) (lines : List String) :
    agentLogsOf (history.appendLogBatch taskId lines) taskId =
      agentLogsOf history taskId ++ lines := by
  obtain ⟨record, found⟩ := Option.isSome_iff_exists.mp present
  unfold agentLogsOf TaskHistory.appendLogBatch
  rw [TaskHistory.getById_mutate, found]
  rfl

/-- The artifact chunks among the response chunks. -/
def artifactUpdates (responses : List StreamResponse) : List TaskArtifactUpdate :=
  responses.filterMap fun response =>
    match response with
    | .artifactUpdate update => some update
    | _ => none

/-- The loop goes on, and the buffer of the record has the lines of the log stream. -/
structure Buffered (internalTaskId : String) (state : Consumption Usage) : Prop where
  running : state.completed = none
  present : (state.history.getById internalTaskId).isSome = true
  lines : agentLogsOf state.history internalTaskId = state.stream.log.lines

variable {internalTaskId : String} {state : Consumption Usage}

/-- A chunk of an artifact. -/
theorem Buffered.artifact (buffered : Buffered internalTaskId state)
    (validate : String → Option Usage) (now : Int) (update : TaskArtifactUpdate) :
    Buffered internalTaskId
      (state.receive validate internalTaskId now (.artifactUpdate update)) := by
  have running := buffered.running
  have streamed := handleStreamChunk_lines state.stream update
  simp only [Consumption.receive, running, Option.isSome_none, Bool.false_eq_true, if_false]
  unfold streamedBy at streamed
  refine ⟨rfl, ?_, ?_⟩
  · dsimp only
    split
    · exact (isSome_getById_mutate ..).trans buffered.present
    · exact buffered.present
  · dsimp only
    rw [streamed, ← buffered.lines]
    cases isLog : isLogsChunk update.artifact state.stream.log with
    | false => simp
    | true =>
        by_cases empty : newLines update.artifact = []
        · simp [empty]
        · simp [empty, agentLogsOf_appendLogBatch buffered.present]

/-- A status that does not end the task. -/
theorem Buffered.progress (buffered : Buffered internalTaskId state)
    (validate : String → Option Usage) (now : Int) {taskId : String} {status : A2ATaskStatus}
    (continues : TaskState.isTerminal status.state = false) :
    Buffered internalTaskId
        (state.receive validate internalTaskId now (.statusUpdate taskId status)) ∧
      (state.receive validate internalTaskId now (.statusUpdate taskId status)).stream =
        state.stream := by
  have running := buffered.running
  simp only [Consumption.receive, running, Option.isSome_none, Bool.false_eq_true, if_false,
    continues]
  refine ⟨⟨rfl, ?_, ?_⟩, trivial⟩
  · dsimp only
    split
    · exact (isSome_getById_mutate ..).trans buffered.present
    · exact buffered.present
  · dsimp only
    split
    · have kept : agentLogsOf (state.history.setCurrentActivity internalTaskId
          status.message) internalTaskId = agentLogsOf state.history internalTaskId :=
        agentLogsOf_mutate _ _ fun _ => rfl
      exact kept.trans buffered.lines
    · exact buffered.lines

theorem Buffered.receive (buffered : Buffered internalTaskId state)
    (validate : String → Option Usage) (now : Int) {response : StreamResponse}
    (continues : ∀ taskId status, response = .statusUpdate taskId status →
      TaskState.isTerminal status.state = false) :
    Buffered internalTaskId (state.receive validate internalTaskId now response) ∧
      (state.receive validate internalTaskId now response).stream =
        handleStreamChunks state.stream (artifactUpdates [response]) := by
  have running := buffered.running
  cases response with
  | task => simpa [Consumption.receive, running, artifactUpdates] using buffered
  | message text => simpa [Consumption.receive, running, artifactUpdates] using buffered
  | statusUpdate taskId status =>
      exact buffered.progress validate now (continues taskId status rfl)
  | artifactUpdate update =>
      refine ⟨buffered.artifact validate now update, ?_⟩
      simp [Consumption.receive, running, artifactUpdates]

theorem Buffered.receiveAll (buffered : Buffered internalTaskId state)
    (validate : String → Option Usage) (now : Int) {responses : List StreamResponse}
    (continues : ∀ taskId status, .statusUpdate taskId status ∈ responses →
      TaskState.isTerminal status.state = false) :
    Buffered internalTaskId (state.receiveAll validate internalTaskId now responses) ∧
      (state.receiveAll validate internalTaskId now responses).stream =
        handleStreamChunks state.stream (artifactUpdates responses) := by
  induction responses generalizing state with
  | nil => exact ⟨buffered, rfl⟩
  | cons response rest inductionHypothesis =>
      have first : ∀ taskId status, response = .statusUpdate taskId status →
          TaskState.isTerminal status.state = false := by
        rintro taskId status rfl
        exact continues taskId status List.mem_cons_self
      obtain ⟨received, stream⟩ := buffered.receive validate now first
      obtain ⟨all, streams⟩ := inductionHypothesis received
        fun taskId status member =>
          continues taskId status (List.mem_cons_of_mem _ member)
      refine ⟨all, ?_⟩
      have split : artifactUpdates ([response] ++ rest) =
          artifactUpdates [response] ++ artifactUpdates rest := List.filterMap_append
      show (Consumption.receiveAll validate internalTaskId now _ rest).stream = _
      calc _ = handleStreamChunks (handleStreamChunks state.stream (artifactUpdates [response]))
            (artifactUpdates rest) := by rw [streams, stream]
        _ = handleStreamChunks state.stream
            (artifactUpdates [response] ++ artifactUpdates rest) :=
          (List.foldl_append ..).symm
        _ = handleStreamChunks state.stream (artifactUpdates (response :: rest)) := by
          rw [← split]
          rfl

end Buffer

/-! ## The collected log file -/

/-- The logs that the files of collected artifacts hold. -/
def logsOf (collected : List Artifact) : List String :=
  getExecutionLogsFromArtifacts (getFileContentsFromArtifacts collected)

theorem logsOf_append (first second : List Artifact) :
    logsOf (first ++ second) = logsOf first ++ logsOf second := by
  unfold logsOf getExecutionLogsFromArtifacts
  rw [getFileContents_append, List.filterMap_append]

/-- A property of every chunk in the state that receives it. -/
def EveryChunk (property : StreamState → TaskArtifactUpdate → Prop) :
    StreamState → List TaskArtifactUpdate → Prop
  | _, [] => True
  | state, update :: rest =>
      property state update ∧ EveryChunk property (handleStreamChunk state update) rest

theorem everyChunk_append (property : StreamState → TaskArtifactUpdate → Prop)
    (state : StreamState) (first second : List TaskArtifactUpdate) :
    EveryChunk property state (first ++ second) ↔
      EveryChunk property state first ∧
        EveryChunk property (handleStreamChunks state first) second := by
  induction first generalizing state with
  | nil => simp [EveryChunk]
  | cons update rest inductionHypothesis =>
      simp [EveryChunk, inductionHypothesis, and_assoc]

theorem EveryChunk.imp {property weaker : StreamState → TaskArtifactUpdate → Prop}
    {state : StreamState} {updates : List TaskArtifactUpdate}
    (every : EveryChunk property state updates)
    (implies : ∀ state update, property state update → weaker state update) :
    EveryChunk weaker state updates := by
  induction updates generalizing state with
  | nil => trivial
  | cons update rest inductionHypothesis =>
      exact ⟨implies _ _ every.1, inductionHypothesis every.2⟩

/-- Exactly one log chunk is flagged as the last, and no log chunk follows it. -/
def ClosedOnce (updates : List TaskArtifactUpdate) : Prop :=
  ∃ before last after, updates = before ++ last :: after ∧
    EveryChunk (fun state update => closesLogs state update = false) .initial before ∧
    closesLogs (handleStreamChunks .initial before) last = true ∧
    EveryChunk (fun state update => isLogsChunk update.artifact state.log = false)
      (handleStreamChunk (handleStreamChunks .initial before) last) after

/-- No artifact that is collected as it is holds a log file. -/
def NoOtherLogs (updates : List TaskArtifactUpdate) : Prop :=
  EveryChunk (fun state update => isLogsChunk update.artifact state.log = false →
    logsOf [update.artifact] = []) .initial updates

/-- Chunks that are not flagged collect no logs. -/
theorem logsOf_handleStreamChunks {state : StreamState} {updates : List TaskArtifactUpdate}
    (unflagged : EveryChunk (fun state update => closesLogs state update = false) state updates)
    (alone : EveryChunk (fun state update => isLogsChunk update.artifact state.log = false →
      logsOf [update.artifact] = []) state updates) :
    logsOf (handleStreamChunks state updates).collected = logsOf state.collected := by
  induction updates generalizing state with
  | nil => rfl
  | cons update rest inductionHypothesis =>
      have others := inductionHypothesis unflagged.2 alone.2
      have nothing : logsOf (collectedBy state update) = [] := by
        have notClosing : (isLogsChunk update.artifact state.log && update.lastChunk) = false :=
          unflagged.1
        unfold collectedBy
        cases isLog : isLogsChunk update.artifact state.log with
        | false => exact alone.1 isLog
        | true =>
            rw [isLog, Bool.true_and] at notClosing
            rw [if_pos rfl, notClosing]
            rfl
      rw [handleStreamChunks_cons, others, collected_handleStreamChunk, logsOf_append, nothing,
        List.append_nil]

theorem unbroken_lines {state : StreamState}
    (unbroken : ∀ line ∈ state.log.lines, Text.Unbroken line.toList)
    (updates : List TaskArtifactUpdate) :
    ∀ line ∈ (handleStreamChunks state updates).log.lines, Text.Unbroken line.toList := by
  induction updates generalizing state with
  | nil => exact unbroken
  | cons update rest inductionHypothesis =>
      rw [handleStreamChunks_cons]
      apply inductionHypothesis
      intro line member
      rw [handleStreamChunk_lines, List.mem_append] at member
      rcases member with old | added
      · exact unbroken line old
      · unfold streamedBy at added
        split at added
        · exact unbroken_of_mem_newLines added
        · cases added

/-- Other artifacts leave the accumulated lines. -/
theorem lines_of_no_logs {state : StreamState} {updates : List TaskArtifactUpdate}
    (others : EveryChunk (fun state update => isLogsChunk update.artifact state.log = false)
      state updates) :
    (handleStreamChunks state updates).log.lines = state.log.lines := by
  induction updates generalizing state with
  | nil => rfl
  | cons update rest inductionHypothesis =>
      have notLog : streamedBy state update = [] := by
        unfold streamedBy
        rw [others.1, if_neg Bool.false_ne_true]
      rw [handleStreamChunks_cons, inductionHypothesis others.2, handleStreamChunk_lines,
        notLog, List.append_nil]

/-- The file name of the consolidated artifact is recognised. -/
theorem isLogFileName_executionLogs : isLogFileName "execution_logs.txt" = true := by
  have suffix : "execution_logs.txt".toSlice.endsWith ".txt" = true := by
    rw [String.Slice.endsWith_string_iff]
    exact ⟨"execution_logs".toList, by simp⟩
  have ends : "execution_logs.txt".endsWith ".txt" = true := suffix
  have lowered : "execution_logs.txt".toLower.toList = "execution_logs.txt".toList := by
    show (String.map Char.toLower "execution_logs.txt").toList = _
    rw [String.toList_map]
    rfl
  unfold isLogFileName
  rw [ends, lowered]
  rfl

/-- The file of the consolidated artifact is read as the joined lines, unless it is empty. -/
theorem logsOf_buildLogsArtifact (logLines : List String) :
    logsOf [buildLogsArtifact logLines] =
      if (Text.encode ("\n".intercalate logLines)).isEmpty then []
      else ["\n".intercalate logLines] := by
  have named : ¬((buildLogsArtifact logLines).name = ArtifactName.usage ∨
      (buildLogsArtifact logLines).name = ArtifactName.trace) := by
    show ¬(ArtifactName.logs = ArtifactName.usage ∨ ArtifactName.logs = ArtifactName.trace)
    decide
  unfold logsOf
  rw [getFileContents_singleton named]
  show getExecutionLogsFromArtifacts [⟨"execution_logs.txt",
    Text.encode ("\n".intercalate logLines), "text/plain"⟩] = _
  unfold getExecutionLogsFromArtifacts
  rw [List.filterMap_cons, List.filterMap_nil]
  simp only [isLogFileName_executionLogs, Bool.true_and]
  cases (Text.encode ("\n".intercalate logLines)).isEmpty with
  | true => rfl
  | false => simp [Text.decode_encode]

/-- The logs collected from a stream that is closed once: nothing, or the joined lines. -/
theorem logsOf_closedOnce {updates : List TaskArtifactUpdate} (closed : ClosedOnce updates)
    (alone : NoOtherLogs updates) :
    logsOf (handleStreamChunks .initial updates).collected = [] ∨
      logsOf (handleStreamChunks .initial updates).collected =
        ["\n".intercalate (handleStreamChunks .initial updates).log.lines] := by
  obtain ⟨before, last, after, rfl, unflagged, closes, others⟩ := closed
  unfold NoOtherLogs at alone
  rw [everyChunk_append] at alone
  obtain ⟨aloneBefore, -, aloneAfter⟩ := alone
  have opened := logsOf_handleStreamChunks unflagged aloneBefore
  have unflaggedAfter : EveryChunk (fun state update => closesLogs state update = false)
      (handleStreamChunk (handleStreamChunks .initial before) last) after := by
    refine others.imp ?_
    intro state update notLog
    rw [closesLogs, notLog, Bool.false_and]
  have kept := logsOf_handleStreamChunks unflaggedAfter aloneAfter
  have sameLines := lines_of_no_logs others
  have split : handleStreamChunks .initial (before ++ last :: after) =
      handleStreamChunks (handleStreamChunk (handleStreamChunks .initial before) last)
        after := List.foldl_append ..
  obtain ⟨isLog, flagged⟩ : isLogsChunk last.artifact
      (handleStreamChunks .initial before).log = true ∧ last.lastChunk = true := by
    rwa [closesLogs, Bool.and_eq_true] at closes
  have collects : collectedBy (handleStreamChunks .initial before) last =
      if ((handleStreamChunks .initial before).log.receive last.artifact).lines = [] then []
      else [buildLogsArtifact
        ((handleStreamChunks .initial before).log.receive last.artifact).lines] := by
    unfold collectedBy
    rw [if_pos isLog, flagged]
    dsimp only
    rw [Bool.true_and]
    cases ((handleStreamChunks .initial before).log.receive last.artifact).lines <;> rfl
  rw [split, kept, sameLines, collected_handleStreamChunk, logsOf_append, opened, collects,
    handleStreamChunk_log isLog]
  show logsOf _ = [] ∨ logsOf _ = _
  split_ifs
  · exact Or.inl rfl
  · rw [logsOf_buildLogsArtifact]
    split_ifs
    · exact Or.inl rfl
    · exact Or.inr rfl

/-! ## Live and final logs -/

section Agreement

variable {Usage : Type} {internalTaskId : String} {state : Consumption Usage}

theorem agentLogsOf_finalizeTask (history : TaskHistory Usage) (taskId : String)
    (finalStatus : TaskStatus) (now : Int) (errorMessage : Option String) :
    agentLogsOf (finalizeTask history taskId finalStatus now errorMessage) taskId =
      agentLogsOf history taskId := by
  have updated : agentLogsOf (history.update taskId finalStatus (some now) errorMessage)
      taskId = agentLogsOf history taskId := agentLogsOf_mutate _ _ fun _ => rfl
  have cleared : agentLogsOf (finalizeTask history taskId finalStatus now errorMessage)
      taskId = agentLogsOf (history.update taskId finalStatus (some now) errorMessage)
        taskId := agentLogsOf_mutate _ _ fun _ => rfl
  exact cleared.trans updated

theorem isSome_getById_finalizeTask (history : TaskHistory Usage) (taskId : String)
    (finalStatus : TaskStatus) (now : Int) (errorMessage : Option String) :
    ((finalizeTask history taskId finalStatus now errorMessage).getById taskId).isSome =
      (history.getById taskId).isSome :=
  (isSome_getById_mutate ..).trans (isSome_getById_mutate ..)

theorem agentLogsOf_saveAgentLogs {history : TaskHistory Usage} {taskId : String}
    (present : (history.getById taskId).isSome = true) (artifacts : List Artifact) :
    agentLogsOf (saveAgentLogs history taskId artifacts) taskId =
      if logsOf artifacts = [] then agentLogsOf history taskId else logsOf artifacts := by
  unfold saveAgentLogs
  show agentLogsOf (if (logsOf artifacts).isEmpty then history
    else history.updateLogs taskId (logsOf artifacts)) taskId = _
  cases read : logsOf artifacts with
  | nil => rfl
  | cons first rest =>
      rw [if_neg (by simp), if_neg (by simp)]
      exact agentLogsOf_updateLogs present _

theorem agentLogsOf_saveAgentUsage (validate : String → Option Usage)
    (history : TaskHistory Usage) (taskId : String) (artifacts : List Artifact) :
    agentLogsOf (saveAgentUsage validate history taskId artifacts) taskId =
      agentLogsOf history taskId := by
  unfold saveAgentUsage
  split
  · exact agentLogsOf_mutate _ _ fun _ => rfl
  · rfl

theorem agentLogsOf_saveAgentTrace (history : TaskHistory Usage) (taskId : String)
    (artifacts : List Artifact) :
    agentLogsOf (saveAgentTrace history taskId artifacts) taskId =
      agentLogsOf history taskId := by
  unfold saveAgentTrace
  split
  · exact agentLogsOf_mutate _ _ fun _ => rfl
  · rfl

/-- Completing the task replaces the buffer by the collected logs, if there are any. -/
theorem Buffered.agentLogsOf_complete (buffered : Buffered internalTaskId state)
    (validate : String → Option Usage) (now : Int) (taskId : String) (status : A2ATaskStatus) :
    agentLogsOf (state.complete validate internalTaskId now taskId status).history
        internalTaskId =
      if logsOf state.stream.collected = [] then agentLogsOf state.history internalTaskId
      else logsOf state.stream.collected := by
  unfold Consumption.complete
  dsimp only
  rw [agentLogsOf_saveAgentTrace, agentLogsOf_saveAgentUsage, agentLogsOf_saveAgentLogs,
    agentLogsOf_finalizeTask]
  rw [isSome_getById_finalizeTask]
  exact buffered.present

/-- **Live and final logs agree.** The response chunks of a task whose log stream is closed
once, by its last chunk, and whose other artifacts hold no log file, leave a buffer from
which the dashboard reads the same entries as from the log list that is stored when the task
ends. -/
theorem liveLogs_eq_finalLogs (reading : LineReading) (validate : String → Option Usage)
    (history : TaskHistory Usage) (internalTaskId agentId agentName description : String)
    (startTime now : Int) (responses : List StreamResponse) (taskId : String)
    (status : A2ATaskStatus)
    (continues : ∀ taskId status, .statusUpdate taskId status ∈ responses →
      TaskState.isTerminal status.state = false)
    (ends : TaskState.isTerminal status.state = true)
    (closed : ClosedOnce (artifactUpdates responses))
    (alone : NoOtherLogs (artifactUpdates responses)) :
    let live := (Consumption.start (history.add (.running internalTaskId agentId agentName
      description startTime))).receiveAll validate internalTaskId now responses
    let final := live.receive validate internalTaskId now (.statusUpdate taskId status)
    reading.parseAgentLogs (agentLogsOf live.history internalTaskId) internalTaskId agentId =
      reading.parseAgentLogs (agentLogsOf final.history internalTaskId) internalTaskId
        agentId := by
  intro live final
  have begun : Buffered internalTaskId (Consumption.start (history.add
      (.running internalTaskId agentId agentName description startTime))) := by
    have found : (history.add (.running internalTaskId agentId agentName description
        startTime)).getById internalTaskId = some _ := TaskHistory.getById_add _ _
    refine ⟨rfl, Option.isSome_iff_exists.mpr ⟨_, found⟩, ?_⟩
    show ((TaskHistory.getById (history.add _) internalTaskId).bind _).getD [] = []
    rw [found]
    rfl
  obtain ⟨buffered, stream⟩ : Buffered internalTaskId live ∧
      live.stream = handleStreamChunks .initial (artifactUpdates responses) :=
    begun.receiveAll validate now continues
  have running : live.completed = none := buffered.running
  have completes : final = live.complete validate internalTaskId now taskId status := by
    show live.receive validate internalTaskId now (.statusUpdate taskId status) = _
    simp only [Consumption.receive, running, Option.isSome_none, Bool.false_eq_true, if_false,
      ends, if_true]
  have noLines : ∀ line ∈ StreamState.initial.log.lines, Text.Unbroken line.toList := by
    intro line member
    cases member
  have unbroken := unbroken_lines noLines (artifactUpdates responses)
  rw [completes, buffered.agentLogsOf_complete]
  have collected := logsOf_closedOnce closed alone
  rw [stream]
  rcases collected with nothing | joined
  · rw [if_pos nothing]
  · rw [if_neg (by rw [joined]; exact List.cons_ne_nil _ _), joined, buffered.lines, stream]
    exact (reading.parseAgentLogs_joined unbroken internalTaskId agentId).symm

/-- A reading that knows no time stamps, and the ASCII letters. -/
def plainReading : LineReading := ⟨Char.isAlphanum, String.toUpper, fun _ => none⟩

/-- The lines of two parts of bytes, of which the second ends with an ill-formed byte. -/
def brokenLogs : List StreamResponse :=
  [.statusUpdate "task-1" ⟨.working, "working", "reading"⟩,
    .artifactUpdate ⟨⟨"logs-1", ArtifactName.logs,
      [⟨.raw [65, 13, 10, 10], "text/plain", ""⟩, ⟨.raw [66, 0xC3], "text/plain", ""⟩]⟩, true⟩,
    .artifactUpdate ⟨⟨"result-1", ArtifactName.executionResult, [⟨.text "done", "", ""⟩]⟩,
      false⟩]

theorem liveLogs_eq_finalLogs_broken :
    let live := (Consumption.start ((TaskHistory.create 100 (by decide)).add
      (.running "internal-1" "agent-1" "reviewer" "a review" 0))).receiveAll
        (some : String → Option String) "internal-1" 9 brokenLogs
    let final := live.receive some "internal-1" 9
      (.statusUpdate "task-1" ⟨.completed, "completed", ""⟩)
    plainReading.parseAgentLogs (agentLogsOf live.history "internal-1") "internal-1"
        "agent-1" =
      plainReading.parseAgentLogs (agentLogsOf final.history "internal-1") "internal-1"
        "agent-1" := by
  apply liveLogs_eq_finalLogs plainReading
  · intro taskId status member
    simp only [brokenLogs, List.mem_cons, StreamResponse.statusUpdate.injEq, reduceCtorEq,
      List.not_mem_nil, or_false] at member
    rw [member.2]
    rfl
  · rfl
  · exact ⟨[], _, [⟨⟨"result-1", ArtifactName.executionResult, [⟨.text "done", "", ""⟩]⟩,
      false⟩], rfl, trivial, rfl, rfl, trivial⟩
  · refine ⟨?_, fun _ => rfl, trivial⟩
    intro notLog
    exact absurd notLog (by decide)

end Agreement

end QuAIA.Orchestrator
