import QuAIA.Library.AsyncQueue
import QuAIA.Library.StepSystem
import QuAIA.Orchestrator.Shared
import QuAIA.Orchestrator.SingleTest

/-!
Contract: execution of one group of tests by its agent workers
(`_execute_test_group` and `_agent_worker`).

Owns: the group state, the start of a group, and one step for each code segment
between two suspensions of a worker or of the group itself; and the group
running next to arbitrary other actors of the registry.

Does not own: how a remote call or an extraction produces its outcome, which is
an argument of the step that resumes the worker. No task is cancelled.
-/

set_option autoImplicit false

namespace QuAIA.Orchestrator

open QuAIA.Common
open QuAIA.Library

/-- A queue item is a test with its type, or the stop sentinel `None`. -/
abbrev TestQueue := AsyncQueue (Option (TestCase × String))

/-- Where a worker is suspended. A worker in `created` or `sleeping` continues at
the top of its loop; one in `sending` or `extracting` holds a test case. -/
inductive WorkerPhase where
  | created
  | sleeping
  | waiting
  | sending (testCase : TestCase) (testType startTimestamp : String) (taskId : TaskId)
  | extracting (testCase : TestCase) (testType : String) (extraction : Extraction)
      (taskId : TaskId)
  | terminated
deriving DecidableEq, Repr

/-- The remote task that a worker waits for. -/
def WorkerPhase.awaits : WorkerPhase → Option TaskId
  | .sending _ _ _ taskId => some taskId
  | _ => none

/-- The remote task of the test in a worker's hand. -/
def WorkerPhase.task : WorkerPhase → Option TaskId
  | .sending _ _ _ taskId => some taskId
  | .extracting _ _ _ taskId => some taskId
  | _ => none

structure Worker where
  agentId : AgentId
  phase : WorkerPhase
deriving DecidableEq, Repr

/-- The group coroutine waits for `queue.join()`, then for its workers, and then
has returned. -/
inductive GroupPhase where
  | joining
  | gathering
  | returned
deriving DecidableEq, Repr

structure TestGroup where
  poolAgentIds : List AgentId
  queue : TestQueue
  results : List TestExecutionResult
  workers : List Worker
  phase : GroupPhase
deriving DecidableEq, Repr

/-- Up to the suspension in `queue.join()`. `none` when none of the selected
agents is registered and the group returns without starting workers. -/
def executeTestGroup (registry : AgentRegistry) (testType : String)
    (testCases : List TestCase) (agentIds : List AgentId) : Option TestGroup :=
  let validAgentIds := agentIds.filter registry.contains
  if validAgentIds.isEmpty then none
  else some {
    poolAgentIds := validAgentIds
    queue := AsyncQueue.empty.putAll (testCases.map fun testCase => some (testCase, testType))
    results := []
    workers := validAgentIds.map fun agentId => ⟨agentId, .created⟩
    phase := .joining }

/-! ## Segments of a worker -/

/-- `item = await queue.get()` and what follows, up to the next suspension. -/
def takeItem (now : Instant) (taskId : TaskId) (queue : TestQueue) : WorkerPhase × TestQueue :=
  match queue.getNowait with
  | none => (.waiting, queue)
  | some (none, rest) => (.terminated, rest.taskDone.getD rest)
  | some (some (testCase, testType), rest) => (.sending testCase testType now.iso taskId, rest)

/-- One turn of the loop from its top, up to the next suspension. -/
def workerLoop (registry : AgentRegistry) (now : Instant) (taskId : TaskId)
    (agentId : AgentId) (queue : TestQueue) : WorkerPhase × TestQueue :=
  match registry.getStatus agentId with
  | .broken => (.terminated, queue)
  | .busy => (.sleeping, queue)
  | .available => takeItem now taskId queue

/-- Whether the failure handler of `agentId` finds another pool agent that is
not broken. -/
def anyAgentsAlive (registry : AgentRegistry) (agentId : AgentId)
    (poolAgentIds : List AgentId) : Bool :=
  poolAgentIds.any fun otherId =>
    decide (otherId ≠ agentId) && decide (registry.getStatus otherId ≠ .broken)

/-- The effects of the failure handler: the worker's agent is marked and handed
to the recovery task. -/
def failureEffects (now : Instant) (agentId : AgentId) (taskId : TaskId) : List Effect :=
  [.updateStatus (some agentId) .broken (some .taskStuck) none,
    .putRecovery ⟨some agentId, now.time, .worker taskId⟩]

/-- The error result that the last living agent of a pool reports. -/
def allAgentsFailed (agentName : String) (now : Instant) (testCase : TestCase)
    (error : PyError) : Except PyError TestExecutionResult :=
  TestExecutionResult.error testCase
    s!"All agents failed. Last error from {agentName}: {error.str}"
    now.iso now.iso s!"Agent: {agentName} (Failed - No Retry Available)"

/-- The test's fate in the failure handler: put back, reported, or neither when
the error result cannot be built and the exception ends the worker. Without a
reported or requeued test, `task_done` is not reached. -/
def failTest (registry : AgentRegistry) (now : Instant) (agentId : AgentId)
    (testCase : TestCase) (testType : String) (error : PyError) (group : TestGroup) :
    TestQueue × List TestExecutionResult :=
  let marked := registry.updateStatus agentId .broken (some .taskStuck) none
  if anyAgentsAlive marked agentId group.poolAgentIds then
    let requeued := group.queue.putNowait (some (testCase, testType))
    (requeued.taskDone.getD requeued, group.results)
  else
    match allAgentsFailed (marked.getName agentId) now testCase error with
    | .ok failedResult =>
        (group.queue.taskDone.getD group.queue, group.results ++ [failedResult])
    | .error _ => (group.queue, group.results)

/-- The worker at `index` continues with a new phase. -/
def TestGroup.setPhase (group : TestGroup) (index : Nat) (worker : Worker)
    (phase : WorkerPhase) : TestGroup :=
  { group with workers := group.workers.set index { worker with phase := phase } }

/-- The worker at `index` continues with a new phase and leaves a new queue. -/
def TestGroup.advance (group : TestGroup) (index : Nat) (worker : Worker)
    (moved : WorkerPhase × TestQueue) : TestGroup :=
  { group with queue := moved.2 }.setPhase index worker moved.1

/-- An execution raised: the handler runs and the worker leaves its loop. -/
def failExecution (registry : AgentRegistry) (now : Instant) (group : TestGroup)
    (index : Nat) (worker : Worker) (testCase : TestCase) (testType : String)
    (taskId : TaskId) (error : PyError) : List Effect × TestGroup :=
  let (queue, results) := failTest registry now worker.agentId testCase testType error group
  (failureEffects now worker.agentId taskId,
    { group with queue := queue, results := results }.setPhase index worker .terminated)

/-- An execution returned: the result is collected, the test is done, and the
loop starts its next turn. A `task_done` that raises ends the worker. -/
def collectResult (registry : AgentRegistry) (now : Instant) (group : TestGroup)
    (index : Nat) (worker : Worker) (result : TestExecutionResult) (nextTaskId : TaskId) :
    TestGroup :=
  let collected := { group with results := group.results ++ [result] }
  match group.queue.taskDone with
  | none => collected.setPhase index worker .terminated
  | some done =>
      collected.advance index worker (workerLoop registry now nextTaskId worker.agentId done)

/-! ## Steps of a group -/

/-- What resumes a suspended worker, or the group coroutine. `nextTaskId` is the
internal id drawn if the segment begins another test. -/
inductive GroupEvent where
  | resume (index : Nat) (nextTaskId : TaskId)
  | take (index : Nat) (nextTaskId : TaskId)
  | sent (index : Nat) (outcome : Except PyError (Option Task))
  | extracted (index : Nat) (outcome : Except PyError (Option TestExecutionResult))
      (nextTaskId : TaskId)
  | joined
  | gathered

/-- The worker that an event resumes. -/
def GroupEvent.worker : GroupEvent → Option Nat
  | .resume index _ => some index
  | .take index _ => some index
  | .sent index _ => some index
  | .extracted index _ _ => some index
  | _ => none

/-- The loop is entered by a worker that has just started or slept. -/
def TestGroup.resume (registry : AgentRegistry) (now : Instant) (group : TestGroup)
    (index : Nat) (nextTaskId : TaskId) : Option TestGroup := do
  let worker ← group.workers[index]?
  guard (worker.phase = .created ∨ worker.phase = .sleeping)
  return group.advance index worker
    (workerLoop registry now nextTaskId worker.agentId group.queue)

/-- A worker blocked in `queue.get()` finds an item. -/
def TestGroup.take (now : Instant) (group : TestGroup) (index : Nat) (nextTaskId : TaskId) :
    Option TestGroup := do
  let worker ← group.workers[index]?
  guard (worker.phase = .waiting)
  guard (group.queue.items ≠ [])
  return group.advance index worker (takeItem now nextTaskId group.queue)

/-- The remote call of a worker's test returned or raised. -/
def TestGroup.sent (registry : AgentRegistry) (now : Instant) (group : TestGroup)
    (index : Nat) (outcome : Except PyError (Option Task)) : Option (List Effect × TestGroup) := do
  let worker ← group.workers[index]?
  match worker.phase with
  | .sending testCase testType startTimestamp taskId =>
      match sentSingleTest (registry.getName worker.agentId) testCase testType startTimestamp
          now.iso outcome with
      | .ok extraction =>
          return ([], group.setPhase index worker
            (.extracting testCase testType extraction taskId))
      | .error error =>
          return failExecution registry now group index worker testCase testType taskId error
  | _ => none

/-- The extractor answered or raised. -/
def TestGroup.extracted (registry : AgentRegistry) (now : Instant) (group : TestGroup)
    (index : Nat) (outcome : Except PyError (Option TestExecutionResult))
    (nextTaskId : TaskId) : Option (List Effect × TestGroup) := do
  let worker ← group.workers[index]?
  match worker.phase with
  | .extracting testCase testType extraction taskId =>
      match extractedSingleTest testCase extraction outcome with
      | .ok result =>
          return ([], collectResult registry now group index worker result nextTaskId)
      | .error error =>
          return failExecution registry now group index worker testCase testType taskId error
  | _ => none

/-- `queue.join()` returns: one stop sentinel is put for each worker. -/
def TestGroup.joined (group : TestGroup) : Option TestGroup := do
  guard (group.phase = .joining)
  guard (group.queue.unfinished = 0)
  return { group with
    queue := group.queue.putAll (group.workers.map fun _ => none)
    phase := .gathering }

/-- All workers have finished and the group returns its results. -/
def TestGroup.gathered (group : TestGroup) : Option TestGroup := do
  guard (group.phase = .gathering)
  guard (∀ worker ∈ group.workers, worker.phase = .terminated)
  return { group with phase := .returned }

def TestGroup.step (registry : AgentRegistry) (now : Instant) (group : TestGroup) :
    GroupEvent → Option (List Effect × TestGroup)
  | .resume index nextTaskId =>
      (group.resume registry now index nextTaskId).map fun next => ([], next)
  | .take index nextTaskId => (group.take now index nextTaskId).map fun next => ([], next)
  | .sent index outcome => group.sent registry now index outcome
  | .extracted index outcome nextTaskId =>
      group.extracted registry now index outcome nextTaskId
  | .joined => group.joined.map fun next => ([], next)
  | .gathered => group.gathered.map fun next => ([], next)

/-! ## A group among other actors -/

/-- A group with the state it shares with the other actors. -/
structure GroupWorld where
  shared : Shared
  group : TestGroup
deriving DecidableEq, Repr

/-- A segment of the group, or any change of the shared state by another actor:
the recovery worker, the health check, a task of another caller, discovery. -/
inductive GroupWorldEvent where
  | group (now : Instant) (event : GroupEvent)
  | environment (shared : Shared)

def GroupWorld.step (world : GroupWorld) : GroupWorldEvent → Option GroupWorld
  | .group now event =>
      (world.group.step world.shared.registry now event).map fun (effects, group) =>
        ⟨world.shared.applyAll effects, group⟩
  | .environment shared => some { world with shared := shared }

end QuAIA.Orchestrator
