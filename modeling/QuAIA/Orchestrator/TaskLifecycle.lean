import QuAIA.Orchestrator.GlobalStream
import QuAIA.Orchestrator.StreamConsumer

/-!
Contract: the record and the events of one task, from its reservation to the return of
`_send_task_to_agent_with_message`.

Owns: every exit of the function (a terminal status, the end of the stream, both timeouts,
and what the client raises), the history calls and publications of each, and the runs in
which other coroutines use the task history between the suspensions.

Does not own: the registry and the recovery queue, and the hub's delivery of what is
published. Other coroutines neither read nor write the record of the task: its id is new,
and no other code has it before the function returns.
-/

set_option autoImplicit false

namespace QuAIA.Orchestrator

open QuAIA.Common
open QuAIA.Library
open QuAIA.Library.StepSystem

/-! ## The code -/

/-- What the client raises: an `Exception`, or the `CancelledError` that is none. -/
inductive Raised where
  | error (error : PyError)
  | cancelled
deriving DecidableEq, Repr

/-- The handler `except Exception`, below the one that raises HTTP exceptions again, takes
it. -/
def Raised.handled : Raised → Bool
  | .error (.httpException _ _) => false
  | .error _ => true
  | .cancelled => false

def Raised.str : Raised → String
  | .error raised => raised.str
  | .cancelled => ""

/-- Where the function is suspended: in `create_client`, at the next chunk, in `aclose`; or
nowhere, because it has returned or raised. -/
inductive CallPhase where
  | creatingClient
  | streaming (startTime : Int)
  | closing (outcome : Except Raised (Option Task))
  | returned (outcome : Except Raised (Option Task))
deriving DecidableEq

/-- A call that has reserved its agent, with the events that it has published. -/
structure TaskCall (Usage : Type) where
  internalTaskId : String
  agentId : String
  taskDescription : String
  consumption : Consumption Usage
  globalEvents : List HubEvent
  agentEvents : List HubEvent
  phase : CallPhase

/-- What resumes the call, and the history calls of other coroutines. A chunk that cannot
be decoded raises, and so does the client at any of its calls. -/
inductive CallEvent (Usage : Type) where
  | clientCreated (now : Int)
  | received (now : Int) (response : StreamResponse)
  | streamEnded (now : Int)
  | timedOut (now : Int)
  | raised (now : Int) (raised : Raised)
  | closed (failure : Option Raised)
  | added (record : TaskRecord Usage)
  | changed (taskId : String) (change : TaskRecord Usage → TaskRecord Usage)

namespace TaskCall

variable {Usage : Type}

/-- The record is added, and the agent runs the task. -/
def start (history : TaskHistory Usage)
    (internalTaskId agentId agentName taskDescription : String) (startTime : Int) :
    TaskCall Usage :=
  { internalTaskId := internalTaskId
    agentId := agentId
    taskDescription := taskDescription
    consumption := .start
      (history.add (.running internalTaskId agentId agentName taskDescription startTime))
    globalEvents := []
    agentEvents := []
    phase := .creatingClient }

def history (call : TaskCall Usage) : TaskHistory Usage := call.consumption.history

def withHistory (call : TaskCall Usage) (history : TaskHistory Usage) : TaskCall Usage :=
  { call with consumption := { call.consumption with history := history } }

/-- `publish_global` and `publish_agent`. -/
def publish (call : TaskCall Usage) (globalEvents agentEvents : List HubEvent) :
    TaskCall Usage :=
  { call with
    globalEvents := call.globalEvents ++ globalEvents
    agentEvents := call.agentEvents ++ agentEvents }

/-- The event of `_finalize_task`. -/
def taskDoneEvent (call : TaskCall Usage) (finalStatus : TaskStatus)
    (errorMessage : Option String) : HubEvent :=
  .taskDone ⟨call.internalTaskId, call.agentId, finalStatus.value, errorMessage⟩

/-- `_finalize_task`. -/
def finalize (call : TaskCall Usage) (now : Int) (finalStatus : TaskStatus)
    (errorMessage : Option String) : TaskCall Usage :=
  let done := call.taskDoneEvent finalStatus errorMessage
  (call.withHistory
    (finalizeTask call.history call.internalTaskId finalStatus now errorMessage)).publish
    [done] [done]

def close (call : TaskCall Usage) (outcome : Except Raised (Option Task)) : TaskCall Usage :=
  { call with phase := .closing outcome }

/-- `_handle_exception`, the record of the error apart. -/
def handleException (statusCode : Nat) (message : String) : Except Raised (Option Task) :=
  .error (.error (.httpException statusCode message))

/-- The condition at the top of the chunk loop, and what follows the loop. -/
def loop (config : OrchestratorConfig) (call : TaskCall Usage) (now startTime : Int) :
    TaskCall Usage :=
  if 0 < config.taskExecutionTimeout - (now - startTime) then
    { call with phase := .streaming startTime }
  else
    (call.finalize now .failed (some "Timeout waiting for completion")).close
      (handleException 408
        s!"Task for {call.taskDescription} wasn't complete within timeout.")

/-- What a chunk publishes, to the global stream and to the stream of the agent. -/
def chunkEvents (call : TaskCall Usage) : StreamResponse → List HubEvent × List HubEvent
  | .task => ([], [])
  | .statusUpdate _ status =>
      if TaskState.isTerminal status.state then
        let done := call.taskDoneEvent (finalStatus status.state)
          (if status.state = .completed then none else some status.message)
        ([done], [done])
      else if status.state = .working ∧ status.message ≠ "" then
        ([.agentActivity ⟨call.internalTaskId, call.agentId, status.message⟩], [])
      else ([], [])
  | .artifactUpdate update =>
      if isLogsChunk update.artifact call.consumption.stream.log &&
          !(newLines update.artifact).isEmpty then
        ([], [.logBatch ⟨call.internalTaskId, newLines update.artifact⟩])
      else ([], [])
  | .message _ => ([], [])

/-- What a chunk does to the record, to the locals and to the streams. -/
def accept (validate : String → Option Usage) (call : TaskCall Usage) (now : Int)
    (response : StreamResponse) : TaskCall Usage :=
  { call.publish (call.chunkEvents response).1 (call.chunkEvents response).2 with
    consumption := call.consumption.receive validate call.internalTaskId now response }

/-- A chunk, and either the return of the completed task or the next turn of the loop. -/
def receive (config : OrchestratorConfig) (validate : String → Option Usage)
    (call : TaskCall Usage) (now startTime : Int) (response : StreamResponse) :
    TaskCall Usage :=
  let accepted := call.accept validate now response
  match accepted.consumption.completed with
  | some task => accepted.close (.ok (some task))
  | none => loop config accepted now startTime

/-- `StopAsyncIteration` with a terminal status: no error message is given. -/
def completeAtEnd (validate : String → Option Usage) (call : TaskCall Usage) (now : Int)
    (lastStatus : A2ATaskStatus) : TaskCall Usage :=
  let artifacts := call.consumption.stream.collected
  let finalized := call.finalize now (finalStatus lastStatus.state) none
  let logged := saveAgentLogs finalized.history call.internalTaskId artifacts
  let used := saveAgentUsage validate logged call.internalTaskId artifacts
  (finalized.withHistory (saveAgentTrace used call.internalTaskId artifacts)).close
    (.ok (some ⟨call.consumption.lastTaskId.getD "", lastStatus, artifacts⟩))

/-- `StopAsyncIteration`. -/
def endStream (validate : String → Option Usage) (call : TaskCall Usage) (now : Int) :
    TaskCall Usage :=
  let unfinished :=
    (call.finalize now .failed (some "Iterator finished before completion")).close
      (handleException 500
        s!"Task '{call.taskDescription}' iterator finished before completion.")
  match call.consumption.lastStatus with
  | some lastStatus =>
      if TaskState.isTerminal lastStatus.state then
        call.completeAtEnd validate now lastStatus
      else unfinished
  | none => unfinished

/-- `TimeoutError` of the wait for a chunk. -/
def timeOut (call : TaskCall Usage) (now : Int) : TaskCall Usage :=
  (call.finalize now .failed (some "Task timed out")).close
    (handleException 408
      s!"Task '{call.taskDescription}' timed out while waiting for completion.")

/-- The outer handlers. -/
def fail (call : TaskCall Usage) (now : Int) (raised : Raised) : TaskCall Usage :=
  (if raised.handled then call.finalize now .failed (some raised.str) else call).close
    (.error raised)

/-- A step of the call, or a history call for another task. -/
def step (config : OrchestratorConfig) (validate : String → Option Usage)
    (call : TaskCall Usage) : CallEvent Usage → Option (TaskCall Usage)
  | .clientCreated now =>
      match call.phase with
      | .creatingClient => some (loop config call now now)
      | _ => none
  | .received now response =>
      match call.phase with
      | .streaming startTime => some (call.receive config validate now startTime response)
      | _ => none
  | .streamEnded now =>
      match call.phase with
      | .streaming _ => some (call.endStream validate now)
      | _ => none
  | .timedOut now =>
      match call.phase with
      | .streaming _ => some (call.timeOut now)
      | _ => none
  | .raised now raised =>
      match call.phase with
      | .creatingClient => some (call.fail now raised)
      | .streaming _ => some (call.fail now raised)
      | _ => none
  | .closed failure =>
      match call.phase with
      | .closing outcome =>
          some { call with
            phase := .returned
              (match failure with
                | none => outcome
                | some raised => .error raised) }
      | _ => none
  | .added record =>
      if record.taskId = call.internalTaskId then none
      else some (call.withHistory (call.history.add record))
  | .changed taskId change =>
      if taskId = call.internalTaskId then none
      else some (call.withHistory (call.history.mutate taskId change))

/-- The ways a step can go. -/
inductive Stepped (config : OrchestratorConfig) (validate : String → Option Usage)
    (call : TaskCall Usage) : CallEvent Usage → TaskCall Usage → Prop
  | clientCreated {now : Int} (creating : call.phase = .creatingClient) :
      Stepped config validate call (.clientCreated now) (loop config call now now)
  | received {now startTime : Int} {response : StreamResponse}
      (streaming : call.phase = .streaming startTime) :
      Stepped config validate call (.received now response)
        (call.receive config validate now startTime response)
  | streamEnded {now startTime : Int} (streaming : call.phase = .streaming startTime) :
      Stepped config validate call (.streamEnded now) (call.endStream validate now)
  | timedOut {now startTime : Int} (streaming : call.phase = .streaming startTime) :
      Stepped config validate call (.timedOut now) (call.timeOut now)
  | clientFailed {now : Int} {raised : Raised} (creating : call.phase = .creatingClient) :
      Stepped config validate call (.raised now raised) (call.fail now raised)
  | streamFailed {now startTime : Int} {raised : Raised}
      (streaming : call.phase = .streaming startTime) :
      Stepped config validate call (.raised now raised) (call.fail now raised)
  | closed {failure : Option Raised} {outcome result : Except Raised (Option Task)}
      (closing : call.phase = .closing outcome) :
      Stepped config validate call (.closed failure) { call with phase := .returned result }
  | added {record : TaskRecord Usage} (different : record.taskId ≠ call.internalTaskId) :
      Stepped config validate call (.added record)
        (call.withHistory (call.history.add record))
  | changed {taskId : String} {change : TaskRecord Usage → TaskRecord Usage}
      (different : taskId ≠ call.internalTaskId) :
      Stepped config validate call (.changed taskId change)
        (call.withHistory (call.history.mutate taskId change))

theorem stepped_of_step {config : OrchestratorConfig} {validate : String → Option Usage}
    {call next : TaskCall Usage} {event : CallEvent Usage}
    (stepped : call.step config validate event = some next) :
    call.Stepped config validate event next := by
  cases event with
  | clientCreated now =>
      simp only [step] at stepped
      split at stepped
      · next creating => cases stepped; exact .clientCreated creating
      · cases stepped
  | received now response =>
      simp only [step] at stepped
      split at stepped
      · next streaming => cases stepped; exact .received streaming
      · cases stepped
  | streamEnded now =>
      simp only [step] at stepped
      split at stepped
      · next streaming => cases stepped; exact .streamEnded streaming
      · cases stepped
  | timedOut now =>
      simp only [step] at stepped
      split at stepped
      · next streaming => cases stepped; exact .timedOut streaming
      · cases stepped
  | raised now raised =>
      simp only [step] at stepped
      split at stepped
      · next creating => cases stepped; exact .clientFailed creating
      · next streaming => cases stepped; exact .streamFailed streaming
      · cases stepped
  | closed failure =>
      simp only [step] at stepped
      split at stepped
      · next closing => cases stepped; exact .closed closing
      · cases stepped
  | added record =>
      simp only [step, Option.ite_none_left_eq_some, Option.some.injEq] at stepped
      obtain ⟨different, rfl⟩ := stepped
      exact .added different
  | changed taskId change =>
      simp only [step, Option.ite_none_left_eq_some, Option.some.injEq] at stepped
      obtain ⟨different, rfl⟩ := stepped
      exact .changed different

/-! ## What a run receives -/

/-- The terminal status that a chunk carries. -/
def terminalStatus : CallEvent Usage → Option TaskState
  | .received _ (.statusUpdate _ status) =>
      if TaskState.isTerminal status.state then some status.state else none
  | _ => none

/-- A timeout of the wait, the end of the stream, or an exception. After a timeout of the
loop nothing is received. -/
def ends : CallEvent Usage → Bool
  | .streamEnded _ => true
  | .timedOut _ => true
  | .raised _ _ => true
  | _ => false

/-- The first remote status that is terminal, if one is received before the end. -/
def remoteOutcome : List (CallEvent Usage) → Option TaskState
  | [] => none
  | event :: rest =>
      if ends event then none
      else
        match terminalStatus event with
        | some state => some state
        | none => remoteOutcome rest

/-- What the client raises is no HTTP exception and no cancellation. -/
def Handled : CallEvent Usage → Prop
  | .raised _ raised => raised.handled = true
  | _ => True

/-- The event tells that the task is done. -/
def isDone (internalTaskId : String) : HubEvent → Bool
  | .taskDone event => event.taskId = internalTaskId
  | _ => false

/-! ## Open and finalized -/

/-- The record of a task that runs. -/
structure RunsRecord (record : TaskRecord Usage) : Prop where
  running : record.status = .running
  noEnd : record.endTime = none

/-- The record of a task that is done. -/
structure DoneRecord (completed : Bool) (record : TaskRecord Usage) : Prop where
  status : record.status = if completed then TaskStatus.completed else .failed
  hasEnd : record.endTime.isSome = true
  noActivity : record.currentActivity = none

/-- The call is in its client, and nothing is final. -/
structure Open (call : TaskCall Usage) : Prop where
  inClient : call.phase = .creatingClient ∨ ∃ startTime, call.phase = .streaming startTime
  record : call.history.Holds call.internalTaskId RunsRecord
  noGlobalDone : call.globalEvents.countP (isDone call.internalTaskId) = 0
  noAgentDone : call.agentEvents.countP (isDone call.internalTaskId) = 0
  notCompleted : call.consumption.completed = none
  notTerminal : ∀ status, call.consumption.lastStatus = some status →
    TaskState.isTerminal status.state = false

/-- The call has left its client, and everything is final. -/
structure Finalized (completed : Bool) (call : TaskCall Usage) : Prop where
  left : (∃ outcome, call.phase = .closing outcome) ∨ ∃ outcome, call.phase = .returned outcome
  record : call.history.Holds call.internalTaskId (DoneRecord completed)
  oneGlobalDone : call.globalEvents.countP (isDone call.internalTaskId) = 1
  oneAgentDone : call.agentEvents.countP (isDone call.internalTaskId) = 1

section Steps

variable {config : OrchestratorConfig} {validate : String → Option Usage}
  {call next : TaskCall Usage}

theorem open_start {history : TaskHistory Usage} (consistent : history.Consistent)
    (internalTaskId agentId agentName taskDescription : String) (startTime : Int) :
    (start history internalTaskId agentId agentName taskDescription startTime).Open := by
  have added := TaskHistory.holds_add consistent
    (.running internalTaskId agentId agentName taskDescription startTime)
  refine ⟨Or.inl rfl, ?_, rfl, rfl, rfl, ?_⟩
  · apply TaskHistory.Holds.mono added
    rintro record rfl
    exact ⟨rfl, rfl⟩
  · intro status received
    cases received

/-- A mutator of the record that a task being done does not mind. -/
theorem holds_done_mutate {history : TaskHistory Usage} {internalTaskId : String}
    {completed : Bool} (holds : history.Holds internalTaskId (DoneRecord completed))
    {change : TaskRecord Usage → TaskRecord Usage}
    (keeps : ∀ record, (change record).status = record.status ∧
      (change record).endTime = record.endTime ∧
      (change record).currentActivity = record.currentActivity) :
    (history.mutate internalTaskId change).Holds internalTaskId (DoneRecord completed) := by
  apply holds.mutate
  intro record done
  obtain ⟨sameStatus, sameEnd, sameActivity⟩ := keeps record
  exact ⟨sameStatus.trans done.status, by rw [sameEnd]; exact done.hasEnd,
    sameActivity.trans done.noActivity⟩

/-- `_finalize_task` on the record. -/
theorem holds_finalizeTask {history : TaskHistory Usage} {internalTaskId : String}
    (holds : history.Holds internalTaskId RunsRecord) (completed : Bool) (now : Int)
    (errorMessage : Option String) :
    (finalizeTask history internalTaskId (if completed then .completed else .failed) now
      errorMessage).Holds internalTaskId (DoneRecord completed) := by
  have updated : (history.update internalTaskId (if completed then .completed else .failed)
      (some now) errorMessage).Holds internalTaskId fun record =>
        record.status = (if completed then TaskStatus.completed else .failed) ∧
          record.endTime.isSome = true := by
    apply holds.mutate
    intro record runs
    exact ⟨rfl, rfl⟩
  apply updated.mutate
  intro record done
  exact ⟨done.1, done.2, rfl⟩

/-- The artifacts are saved after the end, and change nothing of it. -/
theorem holds_saveArtifacts {history : TaskHistory Usage} {internalTaskId : String}
    {completed : Bool} (holds : history.Holds internalTaskId (DoneRecord completed))
    (validate : String → Option Usage) (artifacts : List Artifact) :
    (saveAgentTrace
      (saveAgentUsage validate (saveAgentLogs history internalTaskId artifacts) internalTaskId
        artifacts) internalTaskId artifacts).Holds internalTaskId (DoneRecord completed) := by
  have logged : (saveAgentLogs history internalTaskId artifacts).Holds internalTaskId
      (DoneRecord completed) := by
    unfold saveAgentLogs
    dsimp only
    split
    · exact holds
    · exact holds_done_mutate holds fun _ => ⟨rfl, rfl, rfl⟩
  have used : (saveAgentUsage validate (saveAgentLogs history internalTaskId artifacts)
      internalTaskId artifacts).Holds internalTaskId (DoneRecord completed) := by
    unfold saveAgentUsage
    split
    · exact holds_done_mutate logged fun _ => ⟨rfl, rfl, rfl⟩
    · exact logged
  unfold saveAgentTrace
  split
  · exact holds_done_mutate used fun _ => ⟨rfl, rfl, rfl⟩
  · exact used

theorem receive_of_completed (config : OrchestratorConfig) {now : Int} (startTime : Int)
    {response : StreamResponse} {task : Task}
    (completed : (call.consumption.receive validate call.internalTaskId now
      response).completed = some task) :
    call.receive config validate now startTime response =
      (call.accept validate now response).close (.ok (some task)) := by
  have accepted : (call.accept validate now response).consumption.completed = some task :=
    completed
  unfold TaskCall.receive
  dsimp only
  rw [accepted]

theorem receive_of_running (config : OrchestratorConfig) {now : Int} (startTime : Int)
    {response : StreamResponse}
    (running : (call.consumption.receive validate call.internalTaskId now
      response).completed = none) :
    call.receive config validate now startTime response =
      loop config (call.accept validate now response) now startTime := by
  have accepted : (call.accept validate now response).consumption.completed = none := running
  unfold TaskCall.receive
  dsimp only
  rw [accepted]

theorem isDone_taskDoneEvent (call : TaskCall Usage) (status : TaskStatus)
    (errorMessage : Option String) :
    isDone call.internalTaskId (call.taskDoneEvent status errorMessage) = true :=
  decide_eq_true rfl

/-- An open call that is finalized is final. -/
theorem Open.finalize (isOpen : call.Open) (completed : Bool) (now : Int)
    (errorMessage : Option String) (outcome : Except Raised (Option Task)) :
    ((call.finalize now (if completed then .completed else .failed) errorMessage).close
      outcome).Finalized completed := by
  have isDoneEvent := isDone_taskDoneEvent call (if completed then .completed else .failed)
    errorMessage
  refine ⟨Or.inl ⟨outcome, rfl⟩, holds_finalizeTask isOpen.record completed now errorMessage,
    ?_, ?_⟩
  · show (call.globalEvents ++ [_]).countP (isDone call.internalTaskId) = 1
    rw [List.countP_append, isOpen.noGlobalDone]
    simp [isDoneEvent]
  · show (call.agentEvents ++ [_]).countP (isDone call.internalTaskId) = 1
    rw [List.countP_append, isOpen.noAgentDone]
    simp [isDoneEvent]

/-- The top of the loop either goes on or finalizes the task as failed. -/
theorem Open.loop (isOpen : call.Open) (config : OrchestratorConfig) (now startTime : Int) :
    (loop config call now startTime).Open ∨
      (loop config call now startTime).Finalized false := by
  unfold TaskCall.loop
  split
  · exact Or.inl { isOpen with inClient := Or.inr ⟨startTime, rfl⟩ }
  · exact Or.inr (isOpen.finalize false now _ _)

/-- A terminal status finalizes the task, and the function returns. -/
theorem Open.receive_terminal (isOpen : call.Open) (config : OrchestratorConfig)
    (validate : String → Option Usage) (now startTime : Int) (taskId : String)
    {status : A2ATaskStatus} (terminal : TaskState.isTerminal status.state = true) :
    (call.receive config validate now startTime (.statusUpdate taskId status)).Finalized
      (decide (status.state = .completed)) := by
  have running := isOpen.notCompleted
  have final : finalStatus status.state =
      if decide (status.state = .completed) then TaskStatus.completed else .failed := by
    unfold finalStatus
    by_cases completed : status.state = .completed <;> simp [completed]
  have finalized := isOpen.finalize (decide (status.state = .completed)) now
    (if status.state = .completed then none else some status.message)
    (.ok (some ⟨taskId, status, call.consumption.stream.collected⟩))
  rw [← final] at finalized
  have saved := holds_saveArtifacts finalized.record validate call.consumption.stream.collected
  have completes : call.consumption.receive validate call.internalTaskId now
      (.statusUpdate taskId status) =
        call.consumption.complete validate call.internalTaskId now taskId status := by
    simp [Consumption.receive, running, terminal]
  have events : call.chunkEvents (.statusUpdate taskId status) =
      ([call.taskDoneEvent (finalStatus status.state)
          (if status.state = .completed then none else some status.message)],
        [call.taskDoneEvent (finalStatus status.state)
          (if status.state = .completed then none else some status.message)]) := by
    simp only [chunkEvents, terminal, if_true]
  have done : (call.consumption.receive validate call.internalTaskId now
      (.statusUpdate taskId status)).completed =
        some ⟨taskId, status, call.consumption.stream.collected⟩ := by
    rw [completes]
    rfl
  rw [receive_of_completed config startTime done, TaskCall.accept, completes, events]
  exact ⟨Or.inl ⟨_, rfl⟩, saved, finalized.oneGlobalDone, finalized.oneAgentDone⟩

theorem isTerminal_of_terminalStatus {now : Int} {taskId : String} {status : A2ATaskStatus}
    (goesOn : terminalStatus (.received now (.statusUpdate taskId status) : CallEvent Usage) =
      none) : TaskState.isTerminal status.state = false := by
  cases terminal : TaskState.isTerminal status.state with
  | false => rfl
  | true => simp [terminalStatus, terminal] at goesOn

/-- Without a terminal status, no chunk tells that the task is done. -/
theorem chunkEvents_notDone (call : TaskCall Usage) {now : Int} {response : StreamResponse}
    (goesOn : terminalStatus (.received now response : CallEvent Usage) = none) :
    (call.chunkEvents response).1.countP (isDone call.internalTaskId) = 0 ∧
      (call.chunkEvents response).2.countP (isDone call.internalTaskId) = 0 := by
  cases response with
  | task => exact ⟨rfl, rfl⟩
  | message text => exact ⟨rfl, rfl⟩
  | artifactUpdate update =>
      constructor
      · simp only [chunkEvents]
        split <;> rfl
      · simp only [chunkEvents]
        split <;> rfl
  | statusUpdate taskId status =>
      have notTerminal := isTerminal_of_terminalStatus goesOn
      constructor
      · simp only [chunkEvents, notTerminal, Bool.false_eq_true, if_false]
        split <;> rfl
      · simp only [chunkEvents, notTerminal, Bool.false_eq_true, if_false]
        split <;> rfl

/-- Without a terminal status, the record runs on, and the loop goes on. -/
theorem Open.receives (isOpen : call.Open) (validate : String → Option Usage) (now : Int)
    {response : StreamResponse}
    (goesOn : terminalStatus (.received now response : CallEvent Usage) = none)
    {consumption : Consumption Usage}
    (received : call.consumption.receive validate call.internalTaskId now response =
      consumption) :
    consumption.history.Holds call.internalTaskId RunsRecord ∧ consumption.completed = none ∧
      ∀ status, consumption.lastStatus = some status →
        TaskState.isTerminal status.state = false := by
  have running := isOpen.notCompleted
  have runsOn : ∀ change : TaskRecord Usage → TaskRecord Usage,
      (∀ record, (change record).status = record.status ∧
        (change record).endTime = record.endTime) →
      (call.history.mutate call.internalTaskId change).Holds call.internalTaskId
        RunsRecord := by
    intro change keeps
    apply isOpen.record.mutate
    intro record runs
    obtain ⟨sameStatus, sameEnd⟩ := keeps record
    exact ⟨sameStatus.trans runs.running, sameEnd.trans runs.noEnd⟩
  subst received
  cases response with
  | task | message =>
      simp only [Consumption.receive, running, Option.isSome_none, Bool.false_eq_true, if_false]
      exact ⟨isOpen.record, trivial, isOpen.notTerminal⟩
  | artifactUpdate update =>
      simp only [Consumption.receive, running, Option.isSome_none, Bool.false_eq_true, if_false]
      refine ⟨?_, trivial, isOpen.notTerminal⟩
      split
      · exact runsOn _ fun _ => ⟨rfl, rfl⟩
      · exact isOpen.record
  | statusUpdate taskId status =>
      have notTerminal := isTerminal_of_terminalStatus goesOn
      simp only [Consumption.receive, running, Option.isSome_none, Bool.false_eq_true, if_false,
        notTerminal]
      refine ⟨?_, trivial, ?_⟩
      · split
        · exact runsOn _ fun _ => ⟨rfl, rfl⟩
        · exact isOpen.record
      · intro last isLast
        rw [← Option.some.inj isLast]
        exact notTerminal

/-- A chunk without a terminal status leaves the task open. -/
theorem Open.accept (isOpen : call.Open) (validate : String → Option Usage) (now : Int)
    {response : StreamResponse}
    (goesOn : terminalStatus (.received now response : CallEvent Usage) = none) :
    (call.accept validate now response).Open := by
  obtain ⟨noGlobal, noAgent⟩ := call.chunkEvents_notDone goesOn
  obtain ⟨record, notCompleted, notTerminal⟩ := isOpen.receives validate now goesOn rfl
  refine ⟨isOpen.inClient, record, ?_, ?_, notCompleted, notTerminal⟩
  · show (call.globalEvents ++ _).countP (isDone call.internalTaskId) = 0
    rw [List.countP_append, isOpen.noGlobalDone, noGlobal]
  · show (call.agentEvents ++ _).countP (isDone call.internalTaskId) = 0
    rw [List.countP_append, isOpen.noAgentDone, noAgent]

/-- Without a terminal status so far, the end of the stream fails the task. -/
theorem Open.endStream (isOpen : call.Open) (validate : String → Option Usage) (now : Int) :
    (call.endStream validate now).Finalized false := by
  unfold TaskCall.endStream
  dsimp only
  split
  · rename_i lastStatus isLast
    rw [isOpen.notTerminal lastStatus isLast]
    exact isOpen.finalize false now _ _
  · exact isOpen.finalize false now _ _

theorem Open.fail (isOpen : call.Open) (now : Int) {raised : Raised}
    (handled : raised.handled = true) : (call.fail now raised).Finalized false := by
  unfold TaskCall.fail
  rw [if_pos handled]
  exact isOpen.finalize false now _ _

/-- The history call of another coroutine. -/
theorem Open.withHistory (isOpen : call.Open) {history : TaskHistory Usage}
    (record : history.Holds call.internalTaskId RunsRecord) :
    (call.withHistory history).Open :=
  { isOpen with record := record }

/-! ## Runs -/

/-- What a step of an open call shows: nothing final, an end, a timeout of the loop, or a
terminal status. -/
inductive Shows : CallEvent Usage → Bool → Prop
  | ended {event : CallEvent Usage} (isEnd : ends event = true) : Shows event false
  | late {event : CallEvent Usage} (noEnd : ends event = false)
      (noStatus : terminalStatus event = none) : Shows event false
  | terminal {event : CallEvent Usage} {state : TaskState} (noEnd : ends event = false)
      (isStatus : terminalStatus event = some state) : Shows event (decide (state = .completed))

/-- The top of the loop, after an event that ends nothing. -/
theorem Open.loop_step (isOpen : call.Open) (config : OrchestratorConfig) (now startTime : Int)
    {event : CallEvent Usage} (noEnd : ends event = false)
    (noStatus : terminalStatus event = none) :
    ((TaskCall.loop config call now startTime).Open ∧ ends event = false ∧
        terminalStatus event = none) ∨
      ∃ completed, (TaskCall.loop config call now startTime).Finalized completed ∧
        Shows event completed := by
  rcases isOpen.loop config now startTime with goesOn | timedOut
  · exact Or.inl ⟨goesOn, noEnd, noStatus⟩
  · exact Or.inr ⟨false, timedOut, .late noEnd noStatus⟩

/-- **One step of an open call.** It stays open, with nothing that ends it, or it is
final, and completed exactly when the step received that status. -/
theorem Open.step (isOpen : call.Open) {event : CallEvent Usage} (handled : Handled event)
    (stepped : call.step config validate event = some next) :
    (next.Open ∧ ends event = false ∧ terminalStatus event = none) ∨
      ∃ completed, next.Finalized completed ∧ Shows event completed := by
  cases stepped_of_step stepped with
  | clientCreated creating => exact isOpen.loop_step config _ _ rfl rfl
  | @received now startTime response streaming =>
      cases outcome : terminalStatus (.received now response : CallEvent Usage) with
      | none =>
          have accepted := isOpen.accept validate now outcome
          rw [receive_of_running config startTime accepted.notCompleted]
          have looped := accepted.loop_step config now startTime rfl outcome
          rw [outcome] at looped
          exact looped
      | some state =>
          cases response with
          | statusUpdate taskId status =>
              have isStatus := outcome
              simp only [terminalStatus] at outcome
              split at outcome
              · next terminal =>
                  have shows_ := Shows.terminal rfl isStatus
                  rw [← Option.some.inj outcome] at shows_
                  exact Or.inr ⟨_, isOpen.receive_terminal config validate now startTime taskId
                    terminal, shows_⟩
              · cases outcome
          | task | artifactUpdate | message => cases outcome
  | streamEnded streaming =>
      exact Or.inr ⟨false, isOpen.endStream validate _, .ended rfl⟩
  | timedOut streaming =>
      exact Or.inr ⟨false, isOpen.finalize false _ _ _, .ended rfl⟩
  | clientFailed creating => exact Or.inr ⟨false, isOpen.fail _ handled, .ended rfl⟩
  | streamFailed streaming => exact Or.inr ⟨false, isOpen.fail _ handled, .ended rfl⟩
  | closed closing =>
      rcases isOpen.inClient with creating | ⟨startTime, streaming⟩
      · exact CallPhase.noConfusion (creating.symm.trans closing)
      · exact CallPhase.noConfusion (streaming.symm.trans closing)
  | added different =>
      exact Or.inl ⟨isOpen.withHistory (isOpen.record.add different), rfl, rfl⟩
  | changed different =>
      exact Or.inl ⟨isOpen.withHistory (isOpen.record.mutate_other different _), rfl, rfl⟩

/-- **One step of a final call** changes nothing of it, and receives nothing. -/
theorem Finalized.step {completed : Bool} (final : call.Finalized completed)
    {event : CallEvent Usage} (stepped : call.step config validate event = some next) :
    next.Finalized completed ∧ terminalStatus event = none := by
  have notCreating : call.phase ≠ .creatingClient := by
    intro creating
    rcases final.left with ⟨outcome, left⟩ | ⟨outcome, left⟩
    · exact CallPhase.noConfusion (left.symm.trans creating)
    · exact CallPhase.noConfusion (left.symm.trans creating)
  have notStreaming : ∀ startTime, call.phase ≠ .streaming startTime := by
    intro startTime streaming
    rcases final.left with ⟨outcome, left⟩ | ⟨outcome, left⟩
    · exact CallPhase.noConfusion (left.symm.trans streaming)
    · exact CallPhase.noConfusion (left.symm.trans streaming)
  cases stepped_of_step stepped with
  | clientCreated creating => exact absurd creating notCreating
  | clientFailed creating => exact absurd creating notCreating
  | received streaming => exact absurd streaming (notStreaming _)
  | streamEnded streaming => exact absurd streaming (notStreaming _)
  | timedOut streaming => exact absurd streaming (notStreaming _)
  | streamFailed streaming => exact absurd streaming (notStreaming _)
  | closed closing => exact ⟨{ final with left := Or.inr ⟨_, rfl⟩ }, rfl⟩
  | added different => exact ⟨{ final with record := final.record.add different }, rfl⟩
  | changed different =>
      exact ⟨{ final with record := final.record.mutate_other different _ }, rfl⟩

theorem Finalized.run {completed : Bool} (final : call.Finalized completed)
    {events : List (CallEvent Usage)} {last : TaskCall Usage}
    (ran : StepSystem.run (TaskCall.step config validate) call events = some last) :
    last.Finalized completed ∧ remoteOutcome events = none := by
  induction events generalizing call with
  | nil =>
      rw [run_nil, Option.some.injEq] at ran
      exact ⟨ran ▸ final, rfl⟩
  | cons event rest inductionHypothesis =>
      obtain ⟨next, stepped, rested⟩ := run_cons_eq_some.mp ran
      obtain ⟨stays, receivesNothing⟩ := final.step stepped
      obtain ⟨finalLast, noOutcome⟩ := inductionHypothesis stays rested
      refine ⟨finalLast, ?_⟩
      rw [remoteOutcome, receivesNothing]
      cases ends event with
      | true => rfl
      | false => exact noOutcome

/-- A run from an open call is still open, or is final with the status received. -/
theorem Open.run (isOpen : call.Open) {events : List (CallEvent Usage)}
    {last : TaskCall Usage} (handled : ∀ event ∈ events, Handled event)
    (ran : StepSystem.run (TaskCall.step config validate) call events = some last) :
    last.Open ∨ last.Finalized (decide (remoteOutcome events = some .completed)) := by
  induction events generalizing call with
  | nil =>
      rw [run_nil, Option.some.injEq] at ran
      exact Or.inl (ran ▸ isOpen)
  | cons event rest inductionHypothesis =>
      obtain ⟨next, stepped, rested⟩ := run_cons_eq_some.mp ran
      have later : ∀ event ∈ rest, Handled event := by
        intro event member
        exact handled event (List.mem_cons_of_mem _ member)
      rcases isOpen.step (handled event List.mem_cons_self) stepped with
        ⟨stays, noEnd, noStatus⟩ | ⟨completed, final, how⟩
      · rw [remoteOutcome, noEnd, noStatus]
        exact inductionHypothesis stays later rested
      obtain ⟨finalLast, noOutcome⟩ := final.run rested
      right
      cases how with
      | ended isEnd =>
          rw [remoteOutcome, isEnd]
          exact finalLast
      | late noEnd noStatus =>
          rw [remoteOutcome, noEnd, noStatus]
          simp only [Bool.false_eq_true, if_false, noOutcome]
          exact finalLast
      | terminal noEnd isStatus =>
          rw [remoteOutcome, noEnd, isStatus]
          simp only [Bool.false_eq_true, if_false, Option.some.injEq]
          exact finalLast

/-! ## The life of the task -/

/-- What the life of a task keeps of an outcome. -/
def toOutcome : Except Raised (Option Task) → SendOutcome
  | .ok task => .ok task
  | .error (.error (.httpException statusCode detail)) =>
      .error (.httpException statusCode detail)
  | .error raised => .error (.exception raised.str)

def toPhase (call : TaskCall Usage) : SendPhase :=
  match call.phase with
  | .creatingClient => .creatingClient call.agentId
  | .streaming startTime => .streaming call.agentId (call.consumption.toProgress startTime)
  | .closing outcome => .closing call.agentId (toOutcome outcome)
  | .returned outcome => .returned (some call.agentId) (toOutcome outcome)

def toSend (call : TaskCall Usage) : SendTask := ⟨call.taskDescription, call.toPhase⟩

/-- What the life of a task sees of an event before the client is closed, and when. -/
def toSendEvent (call : TaskCall Usage) : CallEvent Usage → Option (Int × SendEvent)
  | .clientCreated now => some (now, .clientCreated)
  | .received now response => some (now, .chunk (call.consumption.toChunk response))
  | .streamEnded now => some (now, .streamEnded)
  | .timedOut now => some (now, .timedOut)
  | .raised now raised =>
      match call.phase with
      | .creatingClient => some (now, .clientFailed raised.str)
      | _ => some (now, .streamFailed raised.str)
  | _ => none

theorem toOutcome_of_handled {raised : Raised} (handled : raised.handled = true) :
    toOutcome (.error raised) = .error (.exception raised.str) := by
  cases raised with
  | cancelled => cases handled
  | error raised =>
      cases raised with
      | httpException => cases handled
      | validationError | exception => rfl

/-- The top of the loop, as the life of a task has it. -/
theorem toPhase_loop (config : OrchestratorConfig) (call : TaskCall Usage) (now : Instant)
    (startTime : Int) (taskId : TaskId) :
    ∃ effects, chunkLoop config now taskId call.taskDescription call.agentId
        (call.consumption.toProgress startTime) =
      (effects, (loop config call now.time startTime).toPhase) := by
  unfold chunkLoop loop
  show ∃ effects, (if 0 < config.taskExecutionTimeout - (now.time - startTime) then _ else _) = _
  split
  · exact ⟨[], rfl⟩
  · exact ⟨_, rfl⟩

theorem toPhase_fail (call : TaskCall Usage) (now : Int) {raised : Raised}
    (handled : raised.handled = true) :
    (call.fail now raised).toPhase =
      .closing call.agentId (.error (.exception raised.str)) := by
  unfold TaskCall.fail
  rw [if_pos handled, ← toOutcome_of_handled handled]
  rfl

/-- **Refinement.** A step of the call in its client is the step of the life of the task
on what it sees of the event. -/
theorem step_toSend {now : Instant} {registry : AgentRegistry} {taskId : TaskId}
    (isOpen : call.Open)
    (unread : call.phase = .creatingClient → ∀ startTime,
      call.consumption.toProgress startTime = ⟨startTime, none, none, []⟩)
    {event : CallEvent Usage} {sendEvent : SendEvent} (handled : Handled event)
    (sees : call.toSendEvent event = some (now.time, sendEvent))
    (stepped : call.step config validate event = some next) :
    ∃ effects, call.toSend.step config registry now taskId sendEvent =
      some (effects, next.toPhase) := by
  cases stepped_of_step stepped with
  | closed | added | changed => cases sees
  | clientCreated creating =>
      cases sees
      obtain ⟨effects, looped⟩ := toPhase_loop config call now now.time taskId
      refine ⟨effects, ?_⟩
      rw [unread creating] at looped
      simp only [toSend, toPhase, creating, SendTask.step]
      rw [looped]
      rfl
  | @received _ startTime response streaming =>
      cases sees
      simp only [toSend, toPhase, streaming, SendTask.step]
      rw [chunkReceived_eq_chunkLoop isOpen.notCompleted validate taskId call.internalTaskId]
      cases done : (call.consumption.receive validate call.internalTaskId now.time
          response).completed with
      | some task =>
          rw [receive_of_completed config startTime done]
          exact ⟨_, rfl⟩
      | none =>
          rw [receive_of_running config startTime done]
          obtain ⟨effects, looped⟩ := toPhase_loop config
            (call.accept validate now.time response) now startTime taskId
          exact ⟨effects, congrArg some looped⟩
  | streamEnded streaming =>
      cases sees
      simp only [toSend, toPhase, streaming, SendTask.step]
      refine ⟨releaseAgent call.agentId, ?_⟩
      unfold TaskCall.endStream Orchestrator.streamEnded
      cases last : call.consumption.lastStatus with
      | none => simp only [Consumption.toProgress, last]; rfl
      | some lastStatus =>
          have unfinished := isOpen.notTerminal lastStatus last
          simp only [Consumption.toProgress, last, unfinished]
          rfl
  | timedOut streaming =>
      cases sees
      simp only [toSend, toPhase, streaming, SendTask.step]
      exact ⟨_, rfl⟩
  | clientFailed creating =>
      rw [toPhase_fail call _ handled]
      simp only [toSendEvent, creating] at sees
      cases sees
      simp only [toSend, toPhase, creating, SendTask.step]
      exact ⟨_, rfl⟩
  | streamFailed streaming =>
      rw [toPhase_fail call _ handled]
      simp only [toSendEvent, streaming] at sees
      cases sees
      simp only [toSend, toPhase, streaming, SendTask.step]
      exact ⟨_, rfl⟩

theorem internalTaskId_loop (config : OrchestratorConfig) (call : TaskCall Usage)
    (now startTime : Int) :
    (loop config call now startTime).internalTaskId = call.internalTaskId := by
  unfold TaskCall.loop
  split <;> rfl

theorem internalTaskId_fail (call : TaskCall Usage) (now : Int) (raised : Raised) :
    (call.fail now raised).internalTaskId = call.internalTaskId := by
  unfold TaskCall.fail
  split <;> rfl

theorem internalTaskId_step {event : CallEvent Usage}
    (stepped : call.step config validate event = some next) :
    next.internalTaskId = call.internalTaskId := by
  cases stepped_of_step stepped with
  | clientCreated creating => exact internalTaskId_loop config call _ _
  | @received now startTime response streaming =>
      cases done : (call.consumption.receive validate call.internalTaskId now
          response).completed with
      | some task =>
          rw [receive_of_completed config startTime done]
          rfl
      | none =>
          rw [receive_of_running config startTime done]
          exact internalTaskId_loop _ _ _ _
  | streamEnded streaming =>
      unfold TaskCall.endStream
      dsimp only
      split
      · split <;> rfl
      · rfl
  | clientFailed creating => exact internalTaskId_fail call _ _
  | streamFailed streaming => exact internalTaskId_fail call _ _
  | timedOut | closed | added | changed => rfl

end Steps

/-- **Task lifecycle record.** When the call has returned or raised, in a run in which the
client raised neither an HTTP exception nor a cancellation, the record, if it is not evicted,
is final, each stream got one event that the task is done, and the record is completed
exactly when the first terminal status received was. -/
theorem task_recorded_once {config : OrchestratorConfig} {validate : String → Option Usage}
    {history : TaskHistory Usage} (consistent : history.Consistent)
    {internalTaskId agentId agentName taskDescription : String} {startTime : Int}
    {events : List (CallEvent Usage)} {last : TaskCall Usage}
    {outcome : Except Raised (Option Task)}
    (ran : StepSystem.run (TaskCall.step config validate)
      (start history internalTaskId agentId agentName taskDescription startTime) events =
        some last)
    (returned : last.phase = .returned outcome)
    (handled : ∀ event ∈ events, Handled event) :
    (∀ record, last.history.getById internalTaskId = some record →
      (record.status = .completed ∨ record.status = .failed) ∧ record.endTime ≠ none ∧
        record.currentActivity = none ∧
        (record.status = .completed ↔ remoteOutcome events = some .completed)) ∧
      last.globalEvents.countP (isDone internalTaskId) = 1 ∧
      last.agentEvents.countP (isDone internalTaskId) = 1 := by
  have sameId : last.internalTaskId = internalTaskId := by
    have kept : ∀ (call : TaskCall Usage) (event : CallEvent Usage) (next : TaskCall Usage),
        call.internalTaskId = internalTaskId →
          TaskCall.step config validate call event = some next →
            next.internalTaskId = internalTaskId := by
      intro call event next same stepped
      exact (internalTaskId_step stepped).trans same
    exact invariant_of_step kept rfl ran
  have started := open_start consistent internalTaskId agentId agentName taskDescription
    startTime
  have final : last.Finalized (decide (remoteOutcome events = some .completed)) := by
    rcases started.run handled ran with isOpen | final
    · rcases isOpen.inClient with creating | ⟨startTime, streaming⟩
      · exact CallPhase.noConfusion (creating.symm.trans returned)
      · exact CallPhase.noConfusion (streaming.symm.trans returned)
    · exact final
  have holds := final.record
  have oneGlobalDone := final.oneGlobalDone
  have oneAgentDone := final.oneAgentDone
  rw [sameId] at holds oneGlobalDone oneAgentDone
  refine ⟨?_, oneGlobalDone, oneAgentDone⟩
  intro record found
  have done := holds.of_getById found
  have status := done.status
  refine ⟨?_, Option.isSome_iff_ne_none.mp done.hasEnd, done.noActivity, ?_⟩
  · rw [status]
    split
    · exact Or.inl rfl
    · exact Or.inr rfl
  · rw [status]
    by_cases completed : remoteOutcome events = some .completed <;> simp [completed]

/-- An agent reports an activity while another task starts, and completes. -/
def reviewCompletes : List (CallEvent String) :=
  [.clientCreated 1, .received 2 (.statusUpdate "remote-1" ⟨.working, "", "reading"⟩),
    .added (.running "internal-2" "agent-1" "reviewer" "another review" 2),
    .received 3 (.statusUpdate "remote-1" ⟨.completed, "", ""⟩), .closed none]

/-- The call of these runs, with an empty history before it. -/
def reviewCall : TaskCall String :=
  start (.create 100 (by decide)) "internal-1" "agent-1" "reviewer" "a review" 0

theorem task_recorded_once_review :
    ∃ last ∈ StepSystem.run (TaskCall.step .default some) reviewCall reviewCompletes,
      (∀ record, last.history.getById "internal-1" = some record →
        (record.status = .completed ∨ record.status = .failed) ∧ record.endTime ≠ none ∧
          record.currentActivity = none ∧
          (record.status = .completed ↔ remoteOutcome reviewCompletes = some .completed)) ∧
        last.globalEvents.countP (isDone "internal-1") = 1 ∧
        last.agentEvents.countP (isDone "internal-1") = 1 := by
  obtain ⟨last, ran, returned⟩ :
      ∃ last ∈ StepSystem.run (TaskCall.step .default some) reviewCall reviewCompletes,
        last.phase = .returned (.ok (some ⟨"remote-1", ⟨.completed, "", ""⟩, []⟩)) :=
    ⟨_, rfl, rfl⟩
  refine ⟨last, ran, ?_⟩
  exact task_recorded_once (TaskHistory.consistent_create 100 (by decide)) ran returned
    (by simp [reviewCompletes, Handled])

/-- What the client raises leaves the call, but the record still runs, and nothing tells
that the task is done. -/
def LeavesRunning (raised : Raised) : Prop :=
  ∃ last ∈ StepSystem.run (TaskCall.step .default some) reviewCall
      [.raised 1 raised, .closed none],
    last.phase = .returned (.error raised) ∧
      (∃ record, last.history.getById "internal-1" = some record ∧
        record.status = .running ∧ record.endTime = none) ∧
      last.globalEvents.countP (isDone "internal-1") = 0 ∧
      last.agentEvents.countP (isDone "internal-1") = 0

theorem unhandled_leaves_running :
    LeavesRunning (.error (.httpException 503 "unavailable")) ∧ LeavesRunning .cancelled := by
  constructor
  · exact ⟨_, rfl, rfl, ⟨_, rfl, rfl, rfl⟩, rfl, rfl⟩
  · exact ⟨_, rfl, rfl, ⟨_, rfl, rfl, rfl⟩, rfl, rfl⟩

end TaskCall

end QuAIA.Orchestrator
