import QuAIA.Common.Models
import QuAIA.Orchestrator.Shared

/-!
Contract: one remote task (`_send_task_to_agent_with_message`), from the wait
for an agent (`reserve_agent_waiting_if_needed`) to its outcome.

Owns: the suspensions of the function, the segment that follows each of them
with its effects on the shared state, and the life cycle that every segment
respects: a task waits, reserves one agent, holds a slot of it, gives the slot
up in one way, and returns.

Does not own: the task history and the dashboard streams, which no segment
reads, and the sorting of artifact chunks into results and logs, so a chunk
carries the artifacts it adds.

The routing model's wrapper may raise an HTTP exception, for a prompt that the guard
blocks. The exceptions of the client library are never HTTP exceptions, so they are
given by their text.
-/

set_option autoImplicit false

namespace QuAIA.Orchestrator

open QuAIA.Common

/-- The settings of `OrchestratorConfig` that the dispatch reads. A timeout is
printed as a decimal fraction. -/
structure OrchestratorConfig where
  maxSlotsPerAgent : Nat
  taskExecutionTimeout : Int
  taskExecutionTimeoutText : String

def OrchestratorConfig.default : OrchestratorConfig := ⟨3, 7200, "7200.0"⟩

/-- What the function returns or raises. -/
abbrev SendOutcome := Except PyError (Option Task)

/-- The locals of the chunk loop. -/
structure StreamProgress where
  startTime : Int
  lastTaskId : Option String
  lastStatus : Option A2ATaskStatus
  collectedArtifacts : List Artifact
deriving DecidableEq, Repr

/-- Where a task is suspended: at the selection lock, in the routing model, in
the pause between two attempts, in `create_client`, at the next chunk, in
`aclose`; or nowhere, because it has returned. -/
inductive SendPhase where
  | waitingForLock (startTime : Int)
  | selecting (startTime : Int) (available : List AgentId)
  | sleeping (startTime : Int)
  | creatingClient (agentId : AgentId)
  | streaming (agentId : AgentId) (progress : StreamProgress)
  | closing (agentId : AgentId) (outcome : SendOutcome)
  | returned (agentId : Option AgentId) (outcome : SendOutcome)
deriving DecidableEq

structure SendTask where
  taskDescription : String
  phase : SendPhase
deriving DecidableEq

/-- The value of the local `agent_id`. -/
def SendPhase.agentId : SendPhase → Option AgentId
  | .creatingClient agentId => some agentId
  | .streaming agentId _ => some agentId
  | .closing agentId _ => some agentId
  | .returned agentId _ => agentId
  | _ => none

/-- The agent on which the task is in flight. -/
def SendPhase.busyOn : SendPhase → Option AgentId
  | .creatingClient agentId => some agentId
  | .streaming agentId _ => some agentId
  | _ => none

/-- No agent was reserved yet. -/
def SendPhase.unreserved : SendPhase → Bool
  | .waitingForLock _ => true
  | .selecting _ _ => true
  | .sleeping _ => true
  | _ => false

/-- The outcome is settled. -/
def SendPhase.finished : SendPhase → Bool
  | .closing _ _ => true
  | .returned _ _ => true
  | _ => false

/-! ## Reservation -/

/-- The loop condition of `reserve_agent_waiting_if_needed`. -/
def reserveLoop (config : OrchestratorConfig) (now : Instant) (taskDescription : String)
    (startTime : Int) : SendPhase :=
  if now.time - startTime < config.taskExecutionTimeout then .waitingForLock startTime
  else
    .returned none (.error (.httpException 503
      (s!"Timeout waiting for an available agent to handle task '{taskDescription}'. " ++
        s!"All agents have been busy for {config.taskExecutionTimeoutText} seconds.")))

def beginSend (config : OrchestratorConfig) (registry : AgentRegistry) (now : Instant)
    (taskDescription : String) : SendPhase :=
  if registry.isEmpty then
    .returned none
      (.error (.httpException 404 "Orchestrator has currently no registered agents."))
  else reserveLoop config now taskDescription now.time

def getAgentsInfo (registry : AgentRegistry) (availableAgentIds : List AgentId) : String :=
  String.join (availableAgentIds.filterMap fun agentId =>
    (registry.getCard agentId).map fun card =>
      s!"- Name: {card.name}, ID: {agentId}, Skills: " ++ "; ".intercalate card.skills ++ "\n")

/-- Under the lock, up to the call of the routing model. Without candidates the
lock is released and the task pauses. -/
def lockAcquired (config : OrchestratorConfig) (registry : AgentRegistry) (startTime : Int) :
    SendPhase :=
  let available := registry.getAvailableAgents config.maxSlotsPerAgent
  if available.isEmpty ∨ (getAgentsInfo registry available).isEmpty then .sleeping startTime
  else .selecting startTime available

/-- `_select_agent` after the model's answer: only a listed agent counts. -/
def selectedAgent (answer : AgentId) (available : List AgentId) : Option AgentId :=
  if answer ≠ "" ∧ answer ∈ available then some answer else none

/-- The handler for an exception that is not an HTTP exception. Before a
reservation there is no agent, and the recovery entry is for `None`. -/
def communicationFailed (now : Instant) (taskId : TaskId) (agentId : Option AgentId) :
    List Effect :=
  [.updateStatus agentId .broken (some .offline) none,
    .setCurrentTask agentId none,
    .putRecovery ⟨agentId, now.time, .failedTask taskId⟩]

/-- From the model's answer to the next suspension: the reservation and the
start of the client, or the pause before another attempt. An HTTP exception is
raised again as it is. -/
def agentSelected (config : OrchestratorConfig) (registry : AgentRegistry) (now : Instant)
    (taskId : TaskId) (startTime : Int) (available : List AgentId)
    (answer : Except PyError AgentId) : List Effect × SendPhase :=
  match answer with
  | .error (.httpException statusCode detail) =>
      ([], .returned none (.error (.httpException statusCode detail)))
  | .error error => (communicationFailed now taskId none, .returned none (.error error))
  | .ok answer =>
      match selectedAgent answer available with
      | none => ([], .sleeping startTime)
      | some agentId =>
          if agentId ∈ registry.getAvailableAgents config.maxSlotsPerAgent ∧
              (registry.getCard agentId).isSome then
            ([.updateStatus (some agentId) .busy none none,
              .setCurrentTask (some agentId) (some taskId)], .creatingClient agentId)
          else ([], .sleeping startTime)

/-! ## The chunk loop -/

def TaskState.isTerminal : TaskState → Bool
  | .completed => true
  | .failed => true
  | .rejected => true
  | _ => false

def releaseAgent (agentId : AgentId) : List Effect :=
  [.updateStatus (some agentId) .available none none, .setCurrentTask (some agentId) none]

/-- Both timeouts: the agent is broken with a stuck task, and handed to the
recovery task. -/
def taskTimedOut (now : Instant) (taskId : TaskId) (agentId : AgentId)
    (stuckTaskId : Option String) : List Effect :=
  [.updateStatus (some agentId) .broken (some .taskStuck) stuckTaskId,
    .setCurrentTask (some agentId) none,
    .putRecovery ⟨some agentId, now.time, .failedTask taskId⟩]

/-- The condition at the top of the chunk loop. -/
def chunkLoop (config : OrchestratorConfig) (now : Instant) (taskId : TaskId)
    (taskDescription : String) (agentId : AgentId) (progress : StreamProgress) :
    List Effect × SendPhase :=
  if 0 < config.taskExecutionTimeout - (now.time - progress.startTime) then
    ([], .streaming agentId progress)
  else
    (taskTimedOut now taskId agentId none,
      .closing agentId (.error (.httpException 408
        s!"Task for {taskDescription} wasn't complete within timeout.")))

/-- A chunk of the response stream. A message chunk is only logged. -/
inductive StreamChunk where
  | statusUpdate (taskId : String) (status : A2ATaskStatus)
  | artifactUpdate (collected : List Artifact)
  | message (text : String)
deriving DecidableEq, Repr

def chunkReceived (config : OrchestratorConfig) (now : Instant) (taskId : TaskId)
    (taskDescription : String) (agentId : AgentId) (progress : StreamProgress) :
    StreamChunk → List Effect × SendPhase
  | .statusUpdate lastTaskId lastStatus =>
      if TaskState.isTerminal lastStatus.state then
        (releaseAgent agentId,
          .closing agentId (.ok (some ⟨lastTaskId, lastStatus, progress.collectedArtifacts⟩)))
      else
        chunkLoop config now taskId taskDescription agentId
          { progress with lastTaskId := some lastTaskId, lastStatus := some lastStatus }
  | .artifactUpdate collected =>
      chunkLoop config now taskId taskDescription agentId
        { progress with collectedArtifacts := progress.collectedArtifacts ++ collected }
  | .message _ => chunkLoop config now taskId taskDescription agentId progress

/-- The stream ended. Either way the agent is released. -/
def streamEnded (taskDescription : String) (agentId : AgentId) (progress : StreamProgress) :
    List Effect × SendPhase :=
  let unfinished : SendOutcome :=
    .error (.httpException 500 s!"Task '{taskDescription}' iterator finished before completion.")
  let outcome : SendOutcome :=
    match progress.lastStatus with
    | some lastStatus =>
        if TaskState.isTerminal lastStatus.state then
          .ok (some ⟨progress.lastTaskId.getD "", lastStatus, progress.collectedArtifacts⟩)
        else unfinished
    | none => unfinished
  (releaseAgent agentId, .closing agentId outcome)

/-! ## Steps -/

/-- What resumes a suspended task. `selected` carries the id that the routing
model chose, `closed` the text of an exception raised by `aclose`. -/
inductive SendEvent where
  | lockAcquired
  | selected (answer : Except PyError AgentId)
  | slept
  | clientCreated
  | clientFailed (message : String)
  | chunk (chunk : StreamChunk)
  | streamEnded
  | timedOut
  | streamFailed (message : String)
  | closed (failure : Option String)

def SendTask.step (config : OrchestratorConfig) (registry : AgentRegistry) (now : Instant)
    (taskId : TaskId) (task : SendTask) : SendEvent → Option (List Effect × SendPhase)
  | .lockAcquired =>
      match task.phase with
      | .waitingForLock startTime => some ([], lockAcquired config registry startTime)
      | _ => none
  | .selected answer =>
      match task.phase with
      | .selecting startTime available =>
          some (agentSelected config registry now taskId startTime available answer)
      | _ => none
  | .slept =>
      match task.phase with
      | .sleeping startTime => some ([], reserveLoop config now task.taskDescription startTime)
      | _ => none
  | .clientCreated =>
      match task.phase with
      | .creatingClient agentId =>
          some (chunkLoop config now taskId task.taskDescription agentId ⟨now.time, none, none, []⟩)
      | _ => none
  | .clientFailed message =>
      match task.phase with
      | .creatingClient agentId =>
          some (communicationFailed now taskId (some agentId),
            .closing agentId (.error (.exception message)))
      | _ => none
  | .chunk chunk =>
      match task.phase with
      | .streaming agentId progress =>
          some (chunkReceived config now taskId task.taskDescription agentId progress chunk)
      | _ => none
  | .streamEnded =>
      match task.phase with
      | .streaming agentId progress => some (streamEnded task.taskDescription agentId progress)
      | _ => none
  | .timedOut =>
      match task.phase with
      | .streaming agentId progress =>
          some (taskTimedOut now taskId agentId progress.lastTaskId,
            .closing agentId (.error (.httpException 408
              s!"Task '{task.taskDescription}' timed out while waiting for completion.")))
      | _ => none
  | .streamFailed message =>
      match task.phase with
      | .streaming agentId _ =>
          some (communicationFailed now taskId (some agentId),
            .closing agentId (.error (.exception message)))
      | _ => none
  | .closed failure =>
      match task.phase with
      | .closing agentId outcome =>
          some ([], .returned (some agentId)
            (match failure with
              | none => outcome
              | some message => .error (.exception message)))
      | _ => none

/-- The agent that the routing model names for the task, when it was a candidate. -/
def SendTask.routed (task : SendTask) : SendEvent → Option AgentId
  | .selected (.ok answer) =>
      match task.phase with
      | .selecting _ available => selectedAgent answer available
      | _ => none
  | _ => none

/-- The agent that the task reserves in a segment: the one its routing model named,
when that one still has a free slot. -/
def SendTask.reserves (config : OrchestratorConfig) (registry : AgentRegistry)
    (task : SendTask) (event : SendEvent) : Option AgentId :=
  (task.routed event).filter fun agentId =>
    decide (agentId ∈ registry.getAvailableAgents config.maxSlotsPerAgent ∧
      (registry.getCard agentId).isSome)

/-! ## Life cycle -/

/-- The ways a segment can take a task from one phase to the next, with the agent
that it reserves. -/
inductive SendPhase.Moved (config : OrchestratorConfig) (registry : AgentRegistry)
    (now : Instant) (taskId : TaskId) (before : SendPhase) :
    Option AgentId → List Effect → SendPhase → Prop
  | waited {after : SendPhase} (unreserved : before.unreserved = true)
      (still : after.agentId = none) : Moved config registry now taskId before none [] after
  | reserved {agentId : AgentId} (unreserved : before.unreserved = true)
      (free : agentId ∈ registry.getAvailableAgents config.maxSlotsPerAgent) :
      Moved config registry now taskId before (some agentId)
        [.updateStatus (some agentId) .busy none none,
          .setCurrentTask (some agentId) (some taskId)]
        (.creatingClient agentId)
  | selectionFailed {outcome : SendOutcome} (unreserved : before.unreserved = true) :
      Moved config registry now taskId before none (communicationFailed now taskId none)
        (.returned none outcome)
  | continued {agentId : AgentId} {progress : StreamProgress}
      (held : before.busyOn = some agentId) :
      Moved config registry now taskId before none [] (.streaming agentId progress)
  | released {agentId : AgentId} {outcome : SendOutcome} (held : before.busyOn = some agentId) :
      Moved config registry now taskId before none (releaseAgent agentId)
        (.closing agentId outcome)
  | timedOut {agentId : AgentId} {outcome : SendOutcome} {stuckTaskId : Option String}
      (held : before.busyOn = some agentId) :
      Moved config registry now taskId before none
        (taskTimedOut now taskId agentId stuckTaskId) (.closing agentId outcome)
  | failed {agentId : AgentId} {outcome : SendOutcome} (held : before.busyOn = some agentId) :
      Moved config registry now taskId before none
        (communicationFailed now taskId (some agentId)) (.closing agentId outcome)
  | closed {agentId : AgentId} {outcome result : SendOutcome}
      (wasClosing : before = .closing agentId outcome) :
      Moved config registry now taskId before none [] (.returned (some agentId) result)

section LifeCycle

variable {config : OrchestratorConfig} {registry : AgentRegistry} {now : Instant}
  {taskId : TaskId}

theorem reserveLoop_agentId (taskDescription : String) (startTime : Int) :
    (reserveLoop config now taskDescription startTime).agentId = none := by
  unfold reserveLoop
  split <;> rfl

/-- A task begins without an agent. -/
theorem beginSend_agentId (taskDescription : String) :
    (beginSend config registry now taskDescription).agentId = none := by
  unfold beginSend
  split
  · rfl
  · exact reserveLoop_agentId taskDescription now.time

theorem agentId_of_unreserved {phase : SendPhase} (unreserved : phase.unreserved = true) :
    phase.agentId = none := by
  cases phase with
  | waitingForLock startTime => rfl
  | selecting startTime available => rfl
  | sleeping startTime => rfl
  | _ => cases unreserved

theorem busyOn_of_agentId_none {phase : SendPhase} (unreserved : phase.agentId = none) :
    phase.busyOn = none := by
  cases phase with
  | creatingClient agentId => cases unreserved
  | streaming agentId progress => cases unreserved
  | _ => rfl

theorem agentId_of_busyOn {phase : SendPhase} {agentId : AgentId}
    (held : phase.busyOn = some agentId) : phase.agentId = some agentId := by
  cases phase with
  | creatingClient agentId => exact held
  | streaming agentId progress => exact held
  | _ => cases held

theorem chunkLoop_moved {before : SendPhase} {agentId : AgentId}
    (held : before.busyOn = some agentId) (taskDescription : String)
    (progress : StreamProgress) {effects : List Effect} {after : SendPhase}
    (looped : chunkLoop config now taskId taskDescription agentId progress = (effects, after)) :
    before.Moved config registry now taskId none effects after := by
  unfold chunkLoop at looped
  split at looped
  · cases looped
    exact .continued held
  · cases looped
    exact .timedOut held

theorem agentSelected_moved {task : SendTask} {startTime : Int} {available : List AgentId}
    (selecting : task.phase = .selecting startTime available) (answer : Except PyError AgentId)
    {effects : List Effect} {after : SendPhase}
    (selected : agentSelected config registry now taskId startTime available answer =
      (effects, after)) :
    task.phase.Moved config registry now taskId
      (task.reserves config registry (.selected answer)) effects after := by
  have unreserved : task.phase.unreserved = true := by
    rw [selecting]
    rfl
  cases answer with
  | error error =>
      cases error with
      | httpException statusCode detail =>
          cases selected
          exact .waited unreserved rfl
      | _ =>
          cases selected
          exact .selectionFailed unreserved
  | ok answer =>
      simp only [agentSelected] at selected
      simp only [SendTask.reserves, SendTask.routed, selecting]
      cases chosen : selectedAgent answer available with
      | none =>
          rw [chosen] at selected
          cases selected
          exact .waited (by rw [← selecting]; exact unreserved) rfl
      | some agentId =>
          simp only [chosen] at selected
          split at selected
          · rename_i free
            cases selected
            simp only [Option.filter_some, decide_eq_true free, if_true]
            exact .reserved (by rw [← selecting]; exact unreserved) free.1
          · rename_i taken
            cases selected
            simp only [Option.filter_some, decide_eq_false taken, Bool.false_eq_true, if_false]
            exact .waited (by rw [← selecting]; exact unreserved) rfl

theorem chunkReceived_moved {before : SendPhase} {agentId : AgentId}
    (held : before.busyOn = some agentId) (taskDescription : String)
    (progress : StreamProgress) (chunk : StreamChunk) {effects : List Effect}
    {after : SendPhase}
    (received : chunkReceived config now taskId taskDescription agentId progress chunk =
      (effects, after)) :
    before.Moved config registry now taskId none effects after := by
  cases chunk with
  | statusUpdate lastTaskId lastStatus =>
      simp only [chunkReceived] at received
      split at received
      · cases received
        exact .released held
      · exact chunkLoop_moved held taskDescription _ received
  | artifactUpdate collected => exact chunkLoop_moved held taskDescription _ received
  | message text => exact chunkLoop_moved held taskDescription _ received

/-- **Life cycle of a task.** Every segment moves it in one of the listed
ways. -/
theorem SendTask.moved_of_step {task : SendTask} {event : SendEvent} {effects : List Effect}
    {after : SendPhase}
    (step : task.step config registry now taskId event = some (effects, after)) :
    task.phase.Moved config registry now taskId (task.reserves config registry event) effects
      after := by
  cases event with
  | lockAcquired =>
      simp only [SendTask.step] at step
      split at step
      · rename_i startTime waiting
        cases step
        refine .waited (by rw [waiting]; rfl) ?_
        unfold Orchestrator.lockAcquired
        dsimp only
        split <;> rfl
      · cases step
  | selected answer =>
      simp only [SendTask.step] at step
      split at step
      · rename_i startTime available selecting
        rw [Option.some.injEq] at step
        exact agentSelected_moved selecting answer step
      · cases step
  | slept =>
      simp only [SendTask.step] at step
      split at step
      · rename_i startTime sleeping
        cases step
        exact .waited (by rw [sleeping]; rfl) (reserveLoop_agentId _ startTime)
      · cases step
  | clientCreated =>
      simp only [SendTask.step] at step
      split at step
      · rename_i agentId creating
        rw [Option.some.injEq] at step
        exact chunkLoop_moved (by rw [creating]; rfl) _ _ step
      · cases step
  | clientFailed message =>
      simp only [SendTask.step] at step
      split at step
      · rename_i agentId creating
        cases step
        exact .failed (by rw [creating]; rfl)
      · cases step
  | chunk chunk =>
      simp only [SendTask.step] at step
      split at step
      · rename_i agentId progress streaming
        rw [Option.some.injEq] at step
        exact chunkReceived_moved (by rw [streaming]; rfl) _ progress chunk step
      · cases step
  | streamEnded =>
      simp only [SendTask.step] at step
      split at step
      · rename_i agentId progress streaming
        cases step
        exact .released (by rw [streaming]; rfl)
      · cases step
  | timedOut =>
      simp only [SendTask.step] at step
      split at step
      · rename_i agentId progress streaming
        cases step
        exact .timedOut (by rw [streaming]; rfl)
      · cases step
  | streamFailed message =>
      simp only [SendTask.step] at step
      split at step
      · rename_i agentId progress streaming
        cases step
        exact .failed (by rw [streaming]; rfl)
      · cases step
  | closed failure =>
      simp only [SendTask.step] at step
      split at step
      · rename_i agentId outcome closing
        cases step
        exact .closed closing
      · cases step

/-- The agent of a task is the one it reserved. -/
theorem SendPhase.Moved.agentId {before after : SendPhase} {chosen : Option AgentId}
    {effects : List Effect}
    (moved : before.Moved config registry now taskId chosen effects after) :
    after.agentId = chosen.or before.agentId := by
  cases moved with
  | waited unreserved still =>
      rw [agentId_of_unreserved unreserved, still]
      rfl
  | reserved unreserved free => rfl
  | selectionFailed unreserved =>
      rw [agentId_of_unreserved unreserved]
      rfl
  | continued held => exact (agentId_of_busyOn held).symm
  | released held => exact (agentId_of_busyOn held).symm
  | timedOut held => exact (agentId_of_busyOn held).symm
  | failed held => exact (agentId_of_busyOn held).symm
  | closed wasClosing =>
      rw [wasClosing]
      rfl

/-- An agent is reserved only while the task has none. -/
theorem SendPhase.Moved.unreserved_of_chosen {before after : SendPhase} {agentId : AgentId}
    {effects : List Effect}
    (moved : before.Moved config registry now taskId (some agentId) effects after) :
    before.unreserved = true := by
  cases moved with
  | reserved unreserved free => exact unreserved

/-- A finished task stays finished. -/
theorem SendPhase.Moved.finished {before after : SendPhase} {chosen : Option AgentId}
    {effects : List Effect}
    (moved : before.Moved config registry now taskId chosen effects after)
    (settled : before.finished = true) : after.finished = true := by
  cases moved with
  | closed wasClosing => rfl
  | released held => rfl
  | timedOut held => rfl
  | failed held => rfl
  | selectionFailed unreserved => rfl
  | waited unreserved still =>
      cases before with
      | closing agentId outcome => cases unreserved
      | returned agentId outcome => cases unreserved
      | _ => cases settled
  | reserved unreserved free =>
      cases before with
      | closing agentId outcome => cases unreserved
      | returned agentId outcome => cases unreserved
      | _ => cases settled
  | continued held =>
      cases before with
      | closing agentId outcome => cases held
      | returned agentId outcome => cases held
      | _ => cases settled

/-- A task puts a recovery entry only for its own agent, and only when it
finishes. -/
theorem SendPhase.Moved.entries {before after : SendPhase} {chosen : Option AgentId}
    {effects : List Effect}
    (moved : before.Moved config registry now taskId chosen effects after)
    {entry : RecoveryEntry} (put : entry ∈ effects.filterMap Effect.entry) :
    entry.origin = .failedTask taskId ∧ entry.agentId = after.agentId ∧
      after.finished = true := by
  cases moved with
  | selectionFailed unreserved =>
      obtain rfl : entry = _ := List.mem_singleton.mp put
      exact ⟨rfl, rfl, rfl⟩
  | timedOut held =>
      obtain rfl : entry = _ := List.mem_singleton.mp put
      exact ⟨rfl, rfl, rfl⟩
  | failed held =>
      obtain rfl : entry = _ := List.mem_singleton.mp put
      exact ⟨rfl, rfl, rfl⟩
  | _ => cases put

end LifeCycle

end QuAIA.Orchestrator
