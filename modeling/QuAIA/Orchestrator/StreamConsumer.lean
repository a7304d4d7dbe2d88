import QuAIA.Common.TaskSequence
import QuAIA.Orchestrator.LogStream
import QuAIA.Orchestrator.SendTask
import QuAIA.Orchestrator.SingleTest
import QuAIA.Orchestrator.TaskHistory

/-!
Contract: the chunk loop of `_send_task_to_agent_with_message` on the events of one
execution, from the response chunks to the completed task and its record.

Owns: the texts and files of collected artifacts, the segment that completes a task with
its logs, usage and trace, the chunks that the executor's events become, and the delivery
of a result with exactly one text.

Does not own: timeouts and the end of the iterator, and the registry of the agents. A token
usage is read back by a given parser, and a trace is given by its text. No other coroutine
touches the record.
-/

set_option autoImplicit false

namespace QuAIA.Orchestrator

open QuAIA.Common
open QuAIA.Library

/-! ## Texts and files of artifacts -/

/-- The text of a part that has a non-empty one. -/
def text? (part : Part) : Option String :=
  match part.content with
  | .text text => if text.isEmpty then none else some text
  | _ => none

theorem textParts_eq (artifacts : List Artifact) :
    textParts artifacts = artifacts.flatMap fun artifact => artifact.parts.filterMap text? :=
  rfl

/-- A part with raw content as a file. -/
def file? (part : Part) : Option FileArtifact :=
  part.raw?.map fun raw => ⟨part.filename, raw, part.mediaType⟩

theorem getFileContents_singleton {artifact : Artifact}
    (payload : ¬(artifact.name = ArtifactName.usage ∨ artifact.name = ArtifactName.trace)) :
    getFileContentsFromArtifacts [artifact] = artifact.parts.filterMap file? := by
  unfold getFileContentsFromArtifacts
  rw [List.flatMap_singleton, if_neg payload]
  rfl

theorem getFileContents_append (first second : List Artifact) :
    getFileContentsFromArtifacts (first ++ second) =
      getFileContentsFromArtifacts first ++ getFileContentsFromArtifacts second :=
  List.flatMap_append

/-- The name has `logs` in it. No other character is lowered to one of these letters. -/
def isLogFileName (name : String) : Bool :=
  name.toLower.toList.tails.any ("logs".toList).isPrefixOf &&
    (name.endsWith ".txt" || name.endsWith ".log")

/-- `get_execution_logs_from_artifacts`: what cannot be decoded is left out. -/
def getExecutionLogsFromArtifacts (files : List FileArtifact) : List String :=
  files.filterMap fun file =>
    if isLogFileName file.name && !file.raw.isEmpty then Text.decode file.raw else none

/-! ## Completion -/

section Completion

variable {Usage : Type}

/-- `_finalize_task`, the published event apart. -/
def finalizeTask (history : TaskHistory Usage) (taskId : String) (finalStatus : TaskStatus)
    (now : Int) (errorMessage : Option String) : TaskHistory Usage :=
  (history.update taskId finalStatus (some now) errorMessage).clearCurrentActivity taskId

/-- `_save_agent_logs_from_task`. -/
def saveAgentLogs (history : TaskHistory Usage) (taskId : String)
    (artifacts : List Artifact) : TaskHistory Usage :=
  let agentLogs := getExecutionLogsFromArtifacts (getFileContentsFromArtifacts artifacts)
  if agentLogs.isEmpty then history else history.updateLogs taskId agentLogs

/-- The first file of the artifacts with a name. -/
def firstRaw (name : String) (artifacts : List Artifact) : Option (List UInt8) :=
  (artifacts.flatMap fun artifact =>
    if artifact.name = name then artifact.parts.filterMap Part.raw? else []).head?

/-- `_save_agent_usage_from_task`: what cannot be read is only logged. -/
def saveAgentUsage (validate : String → Option Usage) (history : TaskHistory Usage)
    (taskId : String) (artifacts : List Artifact) : TaskHistory Usage :=
  match ((firstRaw ArtifactName.usage artifacts).bind Text.decode).bind validate with
  | some usage => history.updateUsage taskId usage
  | none => history

/-- `_save_agent_trace_from_task`. -/
def saveAgentTrace (history : TaskHistory Usage) (taskId : String)
    (artifacts : List Artifact) : TaskHistory Usage :=
  match (firstRaw ArtifactName.trace artifacts).bind Text.decode with
  | some traceJson => history.updateTrace taskId traceJson
  | none => history

/-! ## The chunk loop -/

/-- The fields of a response chunk, of which exactly one is set. -/
inductive StreamResponse where
  | task
  | statusUpdate (taskId : String) (status : A2ATaskStatus)
  | artifactUpdate (update : TaskArtifactUpdate)
  | message (text : String)
deriving DecidableEq, Repr

/-- The locals of the loop with the task history, and the task it has returned. -/
structure Consumption (Usage : Type) where
  history : TaskHistory Usage
  stream : StreamState
  lastTaskId : Option String
  lastStatus : Option A2ATaskStatus
  completed : Option Task

def Consumption.start (history : TaskHistory Usage) : Consumption Usage :=
  ⟨history, .initial, none, none, none⟩

/-- `final_status`. -/
def finalStatus (state : TaskState) : TaskStatus :=
  if state = .completed then .completed else .failed

/-- A terminal status: the record is finalized, and its logs, usage and trace are saved. -/
def Consumption.complete (validate : String → Option Usage) (internalTaskId : String)
    (now : Int) (state : Consumption Usage) (taskId : String) (status : A2ATaskStatus) :
    Consumption Usage :=
  let errorMessage := if status.state = .completed then none else some status.message
  let artifacts := state.stream.collected
  let finalized := finalizeTask state.history internalTaskId (finalStatus status.state) now
    errorMessage
  let logged := saveAgentLogs finalized internalTaskId artifacts
  let used := saveAgentUsage validate logged internalTaskId artifacts
  { state with
    history := saveAgentTrace used internalTaskId artifacts
    lastTaskId := some taskId
    lastStatus := some status
    completed := some ⟨taskId, status, artifacts⟩ }

/-- A chunk, unless the loop has returned. -/
def Consumption.receive (validate : String → Option Usage) (internalTaskId : String)
    (now : Int) (state : Consumption Usage) (response : StreamResponse) :
    Consumption Usage :=
  if state.completed.isSome then state
  else
    match response with
    | .task => state
    | .statusUpdate taskId status =>
        if TaskState.isTerminal status.state then
          state.complete validate internalTaskId now taskId status
        else
          { state with
            lastTaskId := some taskId
            lastStatus := some status
            history :=
              if status.state = .working ∧ status.message ≠ "" then
                state.history.setCurrentActivity internalTaskId status.message
              else state.history }
    | .artifactUpdate update =>
        { state with
          stream := handleStreamChunk state.stream update
          history :=
            if isLogsChunk update.artifact state.stream.log &&
                !(newLines update.artifact).isEmpty then
              state.history.appendLogBatch internalTaskId (newLines update.artifact)
            else state.history }
    | .message _ => state

/-- The chunks in order. -/
def Consumption.receiveAll (validate : String → Option Usage) (internalTaskId : String)
    (now : Int) (state : Consumption Usage) (responses : List StreamResponse) :
    Consumption Usage :=
  responses.foldl (Consumption.receive validate internalTaskId now) state

end Completion

/-! ## The chunks of an execution -/

/-- What the executor adds to its events: the task id, the ids of its artifacts, the
printed states, the parts of an error message, and the JSON text of a usage. -/
structure Wire (Usage : Type) where
  taskId : String
  resultArtifactId : String
  usageArtifactId : String
  traceArtifactId : String
  stateText : TaskState → String
  errorParts : String → List Part
  dumpUsage : Usage → String

section Wire

variable {Usage : Type}

def Wire.status (wire : Wire Usage) (state : TaskState) (message : String) :
    StreamResponse :=
  .statusUpdate wire.taskId ⟨state, wire.stateText state, message⟩

/-- A part with a JSON file. -/
def jsonPart (text filename : String) : Part :=
  ⟨.raw (Text.encode text), "application/json", filename⟩

/-- The part of a log chunk, if it has entries. -/
def logParts (batch : List LogEntry) : List Part :=
  if batch.isEmpty then []
  else [⟨.raw (Text.encode ("\n".intercalate (batch.map LogEntry.line))), "text/plain", ""⟩]

def Wire.resultArtifact (wire : Wire Usage) (parts : List Part) : Artifact :=
  ⟨wire.resultArtifactId, ArtifactName.executionResult, parts⟩

def Wire.usageArtifact (wire : Wire Usage) (usage : Usage) : Artifact :=
  ⟨wire.usageArtifactId, ArtifactName.usage, [jsonPart (wire.dumpUsage usage) "usage.json"]⟩

def Wire.traceArtifact (wire : Wire Usage) (trace : String) : Artifact :=
  ⟨wire.traceArtifactId, ArtifactName.trace, [jsonPart trace "trace.json"]⟩

def Wire.emissionResponse (wire : Wire Usage) : Emission Usage String → StreamResponse
  | .executionResult answer => .artifactUpdate ⟨wire.resultArtifact answer.parts, false⟩
  | .executionError text => .artifactUpdate ⟨wire.resultArtifact (wire.errorParts text), false⟩
  | .usage tokenUsage => .artifactUpdate ⟨wire.usageArtifact tokenUsage, false⟩
  | .trace trace => .artifactUpdate ⟨wire.traceArtifact trace, false⟩
  | .completed => wire.status .completed ""
  | .failed text => wire.status .failed text
  | .canceled => wire.status .canceled ""

/-- The chunk that the transport makes of an event. -/
def Wire.toResponse (wire : Wire Usage) : TaskEvent Usage String → StreamResponse
  | .task => .task
  | .working activity => wire.status .working (activity.getD "")
  | .logs artifactId batch _ lastChunk =>
      .artifactUpdate ⟨⟨artifactId, ArtifactName.logs, logParts batch⟩, lastChunk⟩
  | .emission emission => wire.emissionResponse emission

end Wire

/-! ## The record -/

section Record

variable {Usage : Type}

/-- The record of a task that starts. -/
def TaskRecord.running (taskId agentId agentName description : String) (startTime : Int) :
    TaskRecord Usage :=
  ⟨taskId, agentId, agentName, description, .running, startTime, none, none, none, none, none,
    none, none⟩

/-- The history has the record of the task, with this usage and this trace. -/
def Records (history : TaskHistory Usage) (taskId : String) (tokenUsage : Option Usage)
    (traceJson : Option String) : Prop :=
  ∃ record, history.getById taskId = some record ∧ record.tokenUsage = tokenUsage ∧
    record.traceJson = traceJson

variable {history : TaskHistory Usage} {taskId : String} {tokenUsage : Option Usage}
  {traceJson : Option String}

theorem Records.mutate (records : Records history taskId tokenUsage traceJson)
    {change : TaskRecord Usage → TaskRecord Usage} {nextUsage : Option Usage}
    {nextTrace : Option String}
    (changes : ∀ record, record.tokenUsage = tokenUsage → record.traceJson = traceJson →
      (change record).tokenUsage = nextUsage ∧ (change record).traceJson = nextTrace) :
    Records (history.mutate taskId change) taskId nextUsage nextTrace := by
  obtain ⟨record, found, sameUsage, sameTrace⟩ := records
  refine ⟨change record, ?_, changes record sameUsage sameTrace⟩
  rw [TaskHistory.getById_mutate, found]
  rfl

/-- A mutator of other fields. -/
theorem Records.keep (records : Records history taskId tokenUsage traceJson)
    {change : TaskRecord Usage → TaskRecord Usage}
    (keeps : ∀ record, (change record).tokenUsage = record.tokenUsage ∧
      (change record).traceJson = record.traceJson) :
    Records (history.mutate taskId change) taskId tokenUsage traceJson := by
  apply records.mutate
  intro record sameUsage sameTrace
  obtain ⟨keepsUsage, keepsTrace⟩ := keeps record
  exact ⟨keepsUsage.trans sameUsage, keepsTrace.trans sameTrace⟩

theorem Records.finalize (records : Records history taskId tokenUsage traceJson)
    (status : TaskStatus) (now : Int) (errorMessage : Option String) :
    Records (finalizeTask history taskId status now errorMessage) taskId tokenUsage
      traceJson := by
  have updated : Records (history.update taskId status (some now) errorMessage) taskId
      tokenUsage traceJson := records.keep fun _ => ⟨rfl, rfl⟩
  exact updated.keep fun _ => ⟨rfl, rfl⟩

theorem Records.saveLogs (records : Records history taskId tokenUsage traceJson)
    (artifacts : List Artifact) :
    Records (saveAgentLogs history taskId artifacts) taskId tokenUsage traceJson := by
  unfold saveAgentLogs
  dsimp only
  split
  · exact records
  · exact records.keep fun _ => ⟨rfl, rfl⟩

/-- The saved usage, where the artifact can be read. -/
theorem Records.saveUsage (records : Records history taskId none traceJson)
    {validate : String → Option Usage} {artifacts : List Artifact} {saved : Option Usage}
    (read : ((firstRaw ArtifactName.usage artifacts).bind Text.decode).bind validate = saved) :
    Records (saveAgentUsage validate history taskId artifacts) taskId saved traceJson := by
  unfold saveAgentUsage
  rw [read]
  cases saved with
  | none => exact records
  | some usage =>
      apply records.mutate
      intro record _ sameTrace
      exact ⟨rfl, sameTrace⟩

theorem Records.saveTrace (records : Records history taskId tokenUsage none)
    {artifacts : List Artifact} {saved : Option String}
    (read : (firstRaw ArtifactName.trace artifacts).bind Text.decode = saved) :
    Records (saveAgentTrace history taskId artifacts) taskId tokenUsage saved := by
  unfold saveAgentTrace
  rw [read]
  cases saved with
  | none => exact records
  | some text =>
      apply records.mutate
      intro record sameUsage _
      exact ⟨sameUsage, rfl⟩

end Record

/-! ## Consumption -/

section Consuming

variable {Usage : Type} (validate : String → Option Usage) {internalTaskId : String}
  (now : Int) (wire : Wire Usage) {logsArtifactId : String} {collected : List Artifact}
  {state : Consumption Usage}

/-- The loop goes on and has collected the given artifacts; nothing but the executor's log
stream has anchored its accumulator, and the record has neither usage nor trace yet. -/
structure Consuming (internalTaskId logsArtifactId : String) (collected : List Artifact)
    (state : Consumption Usage) : Prop where
  running : state.completed = none
  records : Records state.history internalTaskId none none
  anchored : state.stream.log.artifactId = none ∨
    state.stream.log.artifactId = some logsArtifactId
  collects : state.stream.collected = collected

/-- A status that is not terminal. -/
theorem Consuming.progress (consuming : Consuming internalTaskId logsArtifactId collected state)
    {taskId : String} {status : A2ATaskStatus}
    (open_ : TaskState.isTerminal status.state = false) :
    Consuming internalTaskId logsArtifactId collected
      (state.receive validate internalTaskId now (.statusUpdate taskId status)) := by
  have running := consuming.running
  simp only [Consumption.receive, running, Option.isSome_none, Bool.false_eq_true, if_false,
    open_]
  refine ⟨rfl, ?_, consuming.anchored, consuming.collects⟩
  dsimp only
  split
  · exact consuming.records.keep fun _ => ⟨rfl, rfl⟩
  · exact consuming.records

/-- A log chunk of the executor's stream. -/
theorem Consuming.logChunk (consuming : Consuming internalTaskId logsArtifactId collected state)
    (parts : List Part) (lastChunk : Bool) :
    ∃ lines, Consuming internalTaskId logsArtifactId
      (collected ++ if lastChunk && !lines.isEmpty then [buildLogsArtifact lines] else [])
      (state.receive validate internalTaskId now
        (.artifactUpdate ⟨⟨logsArtifactId, ArtifactName.logs, parts⟩, lastChunk⟩)) := by
  have running := consuming.running
  have isLog : isLogsChunk ⟨logsArtifactId, ArtifactName.logs, parts⟩ state.stream.log =
      true := by
    simp [isLogsChunk]
  refine ⟨(state.stream.log.receive
    ⟨logsArtifactId, ArtifactName.logs, parts⟩).lines, ?_⟩
  simp only [Consumption.receive, running, Option.isSome_none, Bool.false_eq_true, if_false]
  refine ⟨rfl, ?_, ?_, ?_⟩
  · dsimp only
    split
    · exact consuming.records.keep fun _ => ⟨rfl, rfl⟩
    · exact consuming.records
  · rw [handleStreamChunk_log isLog]
    right
    rcases consuming.anchored with free | anchored
    · simp [LogStreamState.receive, free]
    · simp [LogStreamState.receive, anchored]
  · have collects := consuming.collects
    simp only [handleStreamChunk, isLog, if_true]
    split
    · rw [collects]
    · rw [collects, List.append_nil]

/-- An artifact that is no log chunk. -/
theorem Consuming.collect (consuming : Consuming internalTaskId logsArtifactId collected state)
    {artifact : Artifact} (otherName : artifact.name ≠ ArtifactName.logs)
    (otherId : artifact.artifactId ≠ logsArtifactId)
    (mixed : onlyPlainTextFiles artifact = false) (lastChunk : Bool) :
    Consuming internalTaskId logsArtifactId (collected ++ [artifact])
      (state.receive validate internalTaskId now (.artifactUpdate ⟨artifact, lastChunk⟩)) := by
  have running := consuming.running
  have notAnchor : state.stream.log.artifactId ≠ some artifact.artifactId := by
    intro same
    rcases consuming.anchored with free | anchored
    · rw [free] at same
      cases same
    · rw [anchored, Option.some.injEq] at same
      exact otherId same.symm
  have notLog : isLogsChunk artifact state.stream.log = false := by
    simp [isLogsChunk, otherName, notAnchor, mixed]
  have passed : handleStreamChunk state.stream ⟨artifact, lastChunk⟩ = _ :=
    handleStreamChunk_other notLog
  simp only [Consumption.receive, running, Option.isSome_none, Bool.false_eq_true, if_false,
    notLog, Bool.false_and]
  refine ⟨rfl, consuming.records, ?_, ?_⟩
  · rw [passed]
    exact consuming.anchored
  · rw [passed]
    simp [consuming.collects]

/-- Artifacts that are no log chunks are collected in order. -/
theorem Consuming.collectAll (consuming : Consuming internalTaskId logsArtifactId collected state)
    {artifacts : List Artifact}
    (others : ∀ artifact ∈ artifacts, artifact.name ≠ ArtifactName.logs ∧
      artifact.artifactId ≠ logsArtifactId ∧ onlyPlainTextFiles artifact = false) :
    Consuming internalTaskId logsArtifactId (collected ++ artifacts)
      (state.receiveAll validate internalTaskId now
        (artifacts.map fun artifact => .artifactUpdate ⟨artifact, false⟩)) := by
  induction artifacts generalizing state collected with
  | nil => rwa [List.append_nil]
  | cons artifact rest inductionHypothesis =>
      obtain ⟨otherName, otherId, mixed⟩ := others artifact List.mem_cons_self
      have first := consuming.collect validate now otherName otherId mixed false
      have all := inductionHypothesis first
        (fun other member => others other (List.mem_cons_of_mem _ member))
      rw [List.append_assoc] at all
      exact all

/-- The status of a completed task ends the loop. -/
theorem Consuming.finish (consuming : Consuming internalTaskId logsArtifactId collected state)
    (taskId stateText message : String) :
    state.receive validate internalTaskId now
        (.statusUpdate taskId ⟨.completed, stateText, message⟩) =
      state.complete validate internalTaskId now taskId ⟨.completed, stateText, message⟩ := by
  simp [Consumption.receive, consuming.running, TaskState.isTerminal]

/-- The opening events leave nothing behind but logs. -/
theorem Consuming.opening (consuming : Consuming internalTaskId logsArtifactId collected state)
    {event : TaskEvent Usage String}
    (opens : event = .task ∨ event = .working none ∨ event.isStreamed = true)
    (owned : TaskExecution.HasLogsId logsArtifactId event) :
    Consuming internalTaskId logsArtifactId collected
      (state.receive validate internalTaskId now (wire.toResponse event)) := by
  cases event with
  | task =>
      have running := consuming.running
      simp only [Wire.toResponse, Consumption.receive, running, Option.isSome_none,
        Bool.false_eq_true, if_false]
      exact consuming
  | working activity => exact consuming.progress validate now rfl
  | logs artifactId batch append lastChunk =>
      have isOpen : lastChunk = false := by
        rcases opens with same | same | streamed
        · cases same
        · cases same
        · simpa [TaskEvent.isStreamed] using streamed
      have same : artifactId = logsArtifactId := owned
      subst same isOpen
      obtain ⟨lines, received⟩ := consuming.logChunk validate now (logParts batch) false
      rw [Bool.false_and, if_neg Bool.false_ne_true, List.append_nil] at received
      exact received
  | emission =>
      rcases opens with same | same | streamed
      · cases same
      · cases same
      · cases streamed

theorem Consuming.openings (consuming : Consuming internalTaskId logsArtifactId collected state)
    {events : List (TaskEvent Usage String)}
    (opens : ∀ event ∈ events,
      event = .task ∨ event = .working none ∨ event.isStreamed = true)
    (owned : ∀ event ∈ events, TaskExecution.HasLogsId logsArtifactId event) :
    Consuming internalTaskId logsArtifactId collected
      (state.receiveAll validate internalTaskId now (events.map wire.toResponse)) := by
  induction events generalizing state with
  | nil => exact consuming
  | cons event rest inductionHypothesis =>
      have first := consuming.opening validate now wire (opens event List.mem_cons_self)
        (owned event List.mem_cons_self)
      exact inductionHypothesis first
        (fun other member => opens other (List.mem_cons_of_mem _ member))
        (fun other member => owned other (List.mem_cons_of_mem _ member))

end Consuming

/-! ## Delivery -/

/-- The consolidated log artifact, if there are lines. -/
def logArtifacts (lines : List String) : List Artifact :=
  if lines.isEmpty then [] else [buildLogsArtifact lines]

section Delivery

variable {Usage : Type}

/-- What the loop collects of an execution whose run returned. -/
def Wire.delivered (wire : Wire Usage) (lines : List String) (answer : Message)
    (tokenUsage : Option Usage) (trace : Option String) : List Artifact :=
  logArtifacts lines ++ wire.resultArtifact answer.parts ::
    ((tokenUsage.map wire.usageArtifact).toList ++ (trace.map wire.traceArtifact).toList)

variable (wire : Wire Usage) (lines : List String) (answer : Message)
  (tokenUsage : Option Usage) (trace : Option String)

/-- Of the delivered artifacts only the result has texts. -/
theorem getTextContent_delivered (taskDescription : String) {text : String}
    (oneText : answer.parts.filterMap text? = [text]) :
    getTextContentFromArtifacts (wire.delivered lines answer tokenUsage trace)
      taskDescription = .ok [text] := by
  have noLogText : (logArtifacts lines).flatMap (fun artifact =>
      artifact.parts.filterMap text?) = [] := by
    unfold logArtifacts
    split <;> rfl
  have texts : textParts (wire.delivered lines answer tokenUsage trace) = [text] := by
    unfold Wire.delivered
    rw [textParts_eq, List.flatMap_append, noLogText, List.flatMap_cons, List.flatMap_append]
    have result : (wire.resultArtifact answer.parts).parts.filterMap text? = [text] := oneText
    rw [result]
    cases tokenUsage <;> cases trace <;> rfl
  simp [getTextContentFromArtifacts, texts]

/-- The files are the log file and those of the result. -/
theorem getFileContents_delivered :
    getFileContentsFromArtifacts (wire.delivered lines answer tokenUsage trace) =
      getFileContentsFromArtifacts (logArtifacts lines) ++ answer.parts.filterMap file? := by
  have bookkeeping : getFileContentsFromArtifacts
      ((tokenUsage.map wire.usageArtifact).toList ++
        (trace.map wire.traceArtifact).toList) = [] := by
    cases tokenUsage <;> cases trace <;> rfl
  have payload : ¬((wire.resultArtifact answer.parts).name = ArtifactName.usage ∨
      (wire.resultArtifact answer.parts).name = ArtifactName.trace) := by
    show ¬(ArtifactName.executionResult = ArtifactName.usage ∨
      ArtifactName.executionResult = ArtifactName.trace)
    decide
  have result : getFileContentsFromArtifacts [wire.resultArtifact answer.parts] =
      answer.parts.filterMap file? := getFileContents_singleton payload
  have split : wire.delivered lines answer tokenUsage trace =
      logArtifacts lines ++ ([wire.resultArtifact answer.parts] ++
        ((tokenUsage.map wire.usageArtifact).toList ++
          (trace.map wire.traceArtifact).toList)) := rfl
  rw [split, getFileContents_append, getFileContents_append, bookkeeping, result,
    List.append_nil]

/-- The bookkeeping artifacts are found by their names. -/
theorem firstRaw_delivered {name : String} (notLogs : ArtifactName.logs ≠ name)
    (notResult : ArtifactName.executionResult ≠ name) :
    firstRaw name (wire.delivered lines answer tokenUsage trace) =
      firstRaw name
        ((tokenUsage.map wire.usageArtifact).toList ++
          (trace.map wire.traceArtifact).toList) := by
  unfold firstRaw Wire.delivered logArtifacts
  cases lines with
  | nil => simp [Wire.resultArtifact, notResult]
  | cons line rest => simp [Wire.resultArtifact, notResult, buildLogsArtifact, notLogs]

theorem firstRaw_usage_delivered :
    firstRaw ArtifactName.usage (wire.delivered lines answer tokenUsage trace) =
      tokenUsage.map fun usage => Text.encode (wire.dumpUsage usage) := by
  have traceName : ArtifactName.trace ≠ ArtifactName.usage := by decide
  rw [firstRaw_delivered wire lines answer tokenUsage trace (by decide) (by decide)]
  cases tokenUsage <;> cases trace <;>
    simp [firstRaw, Wire.usageArtifact, Wire.traceArtifact, traceName, jsonPart, Part.raw?]

theorem firstRaw_trace_delivered :
    firstRaw ArtifactName.trace (wire.delivered lines answer tokenUsage trace) =
      trace.map Text.encode := by
  have usageName : ArtifactName.usage ≠ ArtifactName.trace := by decide
  rw [firstRaw_delivered wire lines answer tokenUsage trace (by decide) (by decide)]
  cases tokenUsage <;> cases trace <;>
    simp [firstRaw, Wire.usageArtifact, Wire.traceArtifact, usageName, jsonPart, Part.raw?]

/-- An artifact with a text is no log file. -/
theorem mixed_of_text {artifact : Artifact} {text : String}
    (hasText : text ∈ artifact.parts.filterMap text?) :
    onlyPlainTextFiles artifact = false := by
  obtain ⟨part, member, isText⟩ := List.mem_filterMap.mp hasText
  have notFile : isPlainTextFile part = false := by
    obtain ⟨content, mediaType, filename⟩ := part
    cases content with
    | text => rfl
    | _ => cases isText
  have notAll : artifact.parts.all isPlainTextFile = false := by
    rw [List.all_eq_false]
    exact ⟨part, member, by rw [notFile]; exact Bool.false_ne_true⟩
  simp [onlyPlainTextFiles, notAll]

/-- The last log chunk, as the loop collects it. -/
theorem Consuming.closing (validate : String → Option Usage) {internalTaskId : String}
    (now : Int) {logsArtifactId : String} {state : Consumption Usage}
    (consuming : Consuming internalTaskId logsArtifactId [] state)
    {events : List (TaskEvent Usage String)}
    (closes : TaskExecution.Closes logsArtifactId events) :
    ∃ lines, Consuming internalTaskId logsArtifactId (logArtifacts lines)
      (state.receiveAll validate internalTaskId now (events.map wire.toResponse)) := by
  rcases closes with rfl | ⟨remaining, append, rfl⟩
  · exact ⟨[], consuming⟩
  · obtain ⟨lines, received⟩ := consuming.logChunk validate now (logParts remaining) true
    refine ⟨lines, ?_⟩
    have collected : ([] ++ if true && !lines.isEmpty then [buildLogsArtifact lines] else []) =
        logArtifacts lines := by
      cases lines <;> rfl
    rw [collected] at received
    exact received

variable {wire lines answer tokenUsage trace}

/-- The artifacts of a run that returned are all collected. -/
theorem Consuming.results (validate : String → Option Usage) {internalTaskId : String}
    (now : Int) {logsArtifactId : String} {state : Consumption Usage}
    (consuming : Consuming internalTaskId logsArtifactId (logArtifacts lines) state)
    {text : String} (oneText : answer.parts.filterMap text? = [text])
    (distinct : [logsArtifactId, wire.resultArtifactId, wire.usageArtifactId,
      wire.traceArtifactId].Nodup)
    (tokenUsage : Option Usage) (trace : Option String) (usage : Usage) (ownTrace : String) :
    ∃ before, Consuming internalTaskId logsArtifactId
        (wire.delivered lines answer tokenUsage trace) before ∧
      state.receiveAll validate internalTaskId now
          (((⟨.returned answer usage ownTrace, tokenUsage, trace⟩ :
            EndedRun Usage String).emissions.map TaskEvent.emission).map wire.toResponse) =
        before.complete validate internalTaskId now wire.taskId
          ⟨.completed, wire.stateText .completed, ""⟩ := by
  simp only [List.nodup_cons, List.mem_cons, not_or] at distinct
  obtain ⟨⟨notResult, notUsage, notTrace, -⟩, -⟩ := distinct
  have hasText : text ∈ (wire.resultArtifact answer.parts).parts.filterMap text? := by
    show text ∈ answer.parts.filterMap text?
    rw [oneText]
    exact List.mem_singleton_self text
  have mixed := mixed_of_text hasText
  have others : ∀ artifact ∈ wire.resultArtifact answer.parts ::
        ((tokenUsage.map wire.usageArtifact).toList ++
          (trace.map wire.traceArtifact).toList),
      artifact.name ≠ ArtifactName.logs ∧ artifact.artifactId ≠ logsArtifactId ∧
        onlyPlainTextFiles artifact = false := by
    intro artifact member
    rcases List.mem_cons.mp member with rfl | member
    · exact ⟨by show ArtifactName.executionResult ≠ _; decide, Ne.symm notResult, mixed⟩
    rcases List.mem_append.mp member with isUsage | isTrace
    · obtain ⟨used, -, rfl⟩ := Option.map_eq_some_iff.mp (Option.mem_toList.mp isUsage)
      exact ⟨by show ArtifactName.usage ≠ _; decide, Ne.symm notUsage, rfl⟩
    · obtain ⟨traced, -, rfl⟩ := Option.map_eq_some_iff.mp (Option.mem_toList.mp isTrace)
      exact ⟨by show ArtifactName.trace ≠ _; decide, Ne.symm notTrace, rfl⟩
  have collected := consuming.collectAll validate now others
  refine ⟨_, collected, ?_⟩
  rw [← collected.finish validate now]
  cases tokenUsage <;> cases trace <;> rfl

/-- **End-to-end delivery.** The events of a finished execution whose run returned an
answer with exactly one text are consumed to a completed task. Its artifacts have this
text alone, their files are the log file and the files of the answer, and the record has
the usage and the trace that were sent. -/
theorem result_delivered {eventQueue : Nat} {logsArtifactId : String}
    {receivedMessage : Message} {events : List (TaskStep Usage String)}
    {final : TaskExecution Usage String} {usage : Usage} {ownTrace text : String}
    {history : TaskHistory Usage} {internalTaskId agentId agentName description : String}
    {startTime now : Int} {validate : String → Option Usage}
    (ran : StepSystem.run TaskExecution.step
      (TaskExecution.start eventQueue logsArtifactId (some receivedMessage)) events = some final)
    (apart : StepSystem.Along TaskExecution.step TaskExecution.CancelsApart
      (TaskExecution.start eventQueue logsArtifactId (some receivedMessage)) events)
    (finished : final.phase = .emitting ⟨.returned answer usage ownTrace, tokenUsage, trace⟩ [])
    (oneText : answer.parts.filterMap text? = [text])
    (distinct : [logsArtifactId, wire.resultArtifactId, wire.usageArtifactId,
      wire.traceArtifactId].Nodup)
    (roundTrip : ∀ usage, validate (wire.dumpUsage usage) = some usage) :
    ∃ task lines,
      ((Consumption.start (history.add (.running internalTaskId agentId agentName description
          startTime))).receiveAll validate internalTaskId now
        (final.received.map wire.toResponse)).completed = some task ∧
      getTextContentFromArtifacts task.artifacts description = .ok [text] ∧
      getFileContentsFromArtifacts task.artifacts =
        getFileContentsFromArtifacts (logArtifacts lines) ++ answer.parts.filterMap file? ∧
      Records ((Consumption.start (history.add (.running internalTaskId agentId agentName
          description startTime))).receiveAll validate internalTaskId now
        (final.received.map wire.toResponse)).history internalTaskId tokenUsage trace := by
  obtain ⟨opened, closing, split, isOpened, closes⟩ :=
    TaskExecution.received_of_finished ran apart finished
  have owned := TaskExecution.hasLogsId_of_run ran
  have begun : Consuming internalTaskId logsArtifactId []
      (Consumption.start (history.add (.running internalTaskId agentId agentName description
        startTime))) :=
    ⟨rfl, ⟨_, TaskHistory.getById_add _ _, rfl, rfl⟩, Or.inl rfl, rfl⟩
  have opens : ∀ event ∈ opened,
      event = .task ∨ event = .working none ∨ event.isStreamed = true := by
    obtain ⟨streamed, rfl, all⟩ := isOpened
    intro event member
    rcases List.mem_cons.mp member with rfl | member
    · exact Or.inl rfl
    rcases List.mem_cons.mp member with rfl | member
    · exact Or.inr (Or.inl rfl)
    exact Or.inr (Or.inr (all event member))
  have openedIds : ∀ event ∈ opened, TaskExecution.HasLogsId logsArtifactId event := by
    intro event member
    apply owned
    rw [split]
    simp [member]
  have streamed := begun.openings validate now wire opens openedIds
  obtain ⟨lines, closed⟩ := streamed.closing wire validate now closes
  obtain ⟨before, consuming, completes⟩ :=
    closed.results validate now oneText distinct tokenUsage trace usage ownTrace
  have consumed : (Consumption.start (history.add (.running internalTaskId agentId agentName
        description startTime))).receiveAll validate internalTaskId now
      (final.received.map wire.toResponse) =
      before.complete validate internalTaskId now wire.taskId
        ⟨.completed, wire.stateText .completed, ""⟩ := by
    rw [split, List.map_append, List.map_append, ← completes]
    simp only [Consumption.receiveAll, List.foldl_append]
  have collects := consuming.collects
  rw [consumed]
  refine ⟨_, lines, rfl, ?_, ?_, ?_⟩
  · dsimp only
    rw [collects]
    exact getTextContent_delivered wire lines answer tokenUsage trace description oneText
  · dsimp only
    rw [collects]
    exact getFileContents_delivered wire lines answer tokenUsage trace
  · have readUsage : ((firstRaw ArtifactName.usage before.stream.collected).bind
        Text.decode).bind validate = tokenUsage := by
      rw [collects, firstRaw_usage_delivered]
      cases tokenUsage with
      | none => rfl
      | some used => simp [Text.decode_encode, roundTrip]
    have readTrace : (firstRaw ArtifactName.trace before.stream.collected).bind
        Text.decode = trace := by
      rw [collects, firstRaw_trace_delivered]
      cases trace with
      | none => rfl
      | some traced => simp [Text.decode_encode]
    have finalized := consuming.records.finalize .completed now none
    have logged := finalized.saveLogs before.stream.collected
    have used := logged.saveUsage readUsage
    exact used.saveTrace readTrace

end Delivery

/-- A usage given by its JSON text. -/
def plainWire : Wire String where
  taskId := "task-1"
  resultArtifactId := "result-1"
  usageArtifactId := "usage-1"
  traceArtifactId := "trace-1"
  stateText := fun _ => ""
  errorParts := fun text => [⟨.text text, "", ""⟩]
  dumpUsage := id

def review : Message := ⟨[⟨.text "reviewed", "", ""⟩]⟩

/-- A run that returns a review, with a log chunk before the last one. -/
def reviewReturns : List (TaskStep String String) :=
  [.advanced, .advanced, .logged "reading", .woke, .logsCall .enqueued, .logsCall .returned,
    .runEnded (.returned review "usage" "trace"), .resumed (some "usage") (some "trace"),
    .activityCall .cancelled, .logsCall .cancelled, .gathered, .advanced, .advanced, .advanced,
    .advanced, .advanced]

theorem result_delivered_review :
    ∃ final ∈ StepSystem.run TaskExecution.step
        (TaskExecution.start 0 "logs-1" (some ⟨[]⟩)) reviewReturns,
      ∃ task lines,
        ((Consumption.start ((TaskHistory.create 100 (by decide)).add
            (.running "internal-1" "agent-1" "reviewer" "a review" 0))).receiveAll some
            "internal-1" 9 (final.received.map plainWire.toResponse)).completed = some task ∧
        getTextContentFromArtifacts task.artifacts "a review" = .ok ["reviewed"] ∧
        getFileContentsFromArtifacts task.artifacts =
          getFileContentsFromArtifacts (logArtifacts lines) ++
            review.parts.filterMap file? ∧
        Records ((Consumption.start ((TaskHistory.create 100 (by decide)).add
            (.running "internal-1" "agent-1" "reviewer" "a review" 0))).receiveAll some
            "internal-1" 9 (final.received.map plainWire.toResponse)).history "internal-1"
          (some "usage") (some "trace") := by
  obtain ⟨final, ran, finished⟩ : ∃ final ∈ StepSystem.run TaskExecution.step
      (TaskExecution.start 0 "logs-1" (some ⟨[]⟩)) reviewReturns,
      final.phase = .emitting ⟨.returned review "usage" "trace", some "usage", some "trace"⟩
        [] := by
    decide
  exact ⟨final, ran, result_delivered ran (by decide) finished (by decide) (by decide)
    (fun _ => rfl)⟩

/-! ## The life of the task -/

section Progress

variable {Usage : Type}

/-- The artifacts that a chunk collects. -/
def collectedBy (state : StreamState) (update : TaskArtifactUpdate) : List Artifact :=
  if isLogsChunk update.artifact state.log then
    let lines := (state.log.receive update.artifact).lines
    if update.lastChunk && !lines.isEmpty then [buildLogsArtifact lines] else []
  else [update.artifact]

theorem collected_handleStreamChunk (state : StreamState) (update : TaskArtifactUpdate) :
    (handleStreamChunk state update).collected =
      state.collected ++ collectedBy state update := by
  unfold collectedBy
  cases isLog : isLogsChunk update.artifact state.log with
  | false => rw [handleStreamChunk_other isLog]; rfl
  | true =>
      simp only [handleStreamChunk, isLog, if_true]
      split
      · rfl
      · exact (List.append_nil _).symm

/-- The locals of the loop, without the log stream. -/
def Consumption.toProgress (startTime : Int) (state : Consumption Usage) : StreamProgress :=
  ⟨startTime, state.lastTaskId, state.lastStatus, state.stream.collected⟩

/-- What the life of a task sees of a chunk: a task object is only passed over, like a
message. -/
def Consumption.toChunk (state : Consumption Usage) : StreamResponse → StreamChunk
  | .task => .message ""
  | .statusUpdate taskId status => .statusUpdate taskId status
  | .artifactUpdate update => .artifactUpdate (collectedBy state.stream update)
  | .message text => .message text

/-- A chunk takes the life of the task where the loop takes it: to its return, or to the
next turn of the loop. -/
theorem chunkReceived_eq_chunkLoop {config : OrchestratorConfig} {now : Instant}
    {startTime : Int} {state : Consumption Usage} (running : state.completed = none)
    (validate : String → Option Usage) (taskId : TaskId) (internalTaskId description : String)
    (agentId : AgentId) (response : StreamResponse) :
    chunkReceived config now taskId description agentId (state.toProgress startTime)
        (state.toChunk response) =
      match (state.receive validate internalTaskId now.time response).completed with
      | some task => (releaseAgent agentId, .closing agentId (.ok (some task)))
      | none => chunkLoop config now taskId description agentId
          ((state.receive validate internalTaskId now.time response).toProgress startTime) := by
  cases response with
  | task => simp [Consumption.toChunk, chunkReceived, Consumption.receive, running]
  | message text => simp [Consumption.toChunk, chunkReceived, Consumption.receive, running]
  | artifactUpdate update =>
      simp [Consumption.toChunk, chunkReceived, Consumption.receive, running,
        Consumption.toProgress, collected_handleStreamChunk]
  | statusUpdate lastTaskId status =>
      simp only [Consumption.toChunk, chunkReceived]
      cases ends : TaskState.isTerminal status.state with
      | true =>
          simp [Consumption.receive, running, ends, Consumption.complete,
            Consumption.toProgress]
      | false => simp [Consumption.receive, running, ends, Consumption.toProgress]

/-- **Refinement.** As long as time is left, a chunk takes the life of the task where the
loop takes it. -/
theorem chunkReceived_toChunk {config : OrchestratorConfig} {now : Instant} {startTime : Int}
    {state : Consumption Usage} (running : state.completed = none)
    (timeLeft : 0 < config.taskExecutionTimeout - (now.time - startTime))
    (validate : String → Option Usage) (taskId : TaskId) (internalTaskId description : String)
    (agentId : AgentId) (response : StreamResponse) :
    chunkReceived config now taskId description agentId (state.toProgress startTime)
        (state.toChunk response) =
      match (state.receive validate internalTaskId now.time response).completed with
      | some task => (releaseAgent agentId, .closing agentId (.ok (some task)))
      | none => ([], .streaming agentId
          ((state.receive validate internalTaskId now.time response).toProgress startTime)) := by
  have continues : ∀ progress : StreamProgress, progress.startTime = startTime →
      chunkLoop config now taskId description agentId progress =
        ([], .streaming agentId progress) := by
    intro progress sameStart
    unfold chunkLoop
    rw [sameStart, if_pos timeLeft]
  rw [chunkReceived_eq_chunkLoop running validate taskId internalTaskId, continues _ rfl]

end Progress

end QuAIA.Orchestrator
