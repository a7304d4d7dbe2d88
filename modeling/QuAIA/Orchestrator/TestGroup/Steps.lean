import QuAIA.Orchestrator.TestGroup

/-!
Contract: what one segment of a test group can do.

Owns: the case lemma of the group's step, one case for each way a segment can
go; the points at which a broken agent can end a worker; and what follows from
the cases about the shared state, the pool and the workers.

Does not own: what the segments keep over a whole run.
-/

set_option autoImplicit false

namespace QuAIA.Orchestrator

open QuAIA.Common
open QuAIA.Library

/-! ## The ways of a segment -/

/-- The steps of a group, one constructor for each way a segment can go. -/
inductive TestGroup.Stepped (registry : AgentRegistry) (now : Instant) (group : TestGroup) :
    GroupEvent → List Effect → TestGroup → Prop
  | looped {index : Nat} {nextTaskId : TaskId} {worker : Worker}
      (found : group.workers[index]? = some worker)
      (atTop : worker.phase = .created ∨ worker.phase = .sleeping) :
      Stepped registry now group (.resume index nextTaskId) []
        (group.advance index worker
          (workerLoop registry now nextTaskId worker.agentId group.queue))
  | took {index : Nat} {nextTaskId : TaskId} {worker : Worker}
      (found : group.workers[index]? = some worker) (waiting : worker.phase = .waiting)
      (ready : group.queue.items ≠ []) :
      Stepped registry now group (.take index nextTaskId) []
        (group.advance index worker (takeItem now nextTaskId group.queue))
  | answered {index : Nat} {outcome : Except PyError (Option Task)} {worker : Worker}
      {testCase : TestCase} {testType startTimestamp : String} {taskId : TaskId}
      {extraction : Extraction}
      (found : group.workers[index]? = some worker)
      (sending : worker.phase = .sending testCase testType startTimestamp taskId)
      (valid : sentSingleTest (registry.getName worker.agentId) testCase testType
        startTimestamp now.iso outcome = .ok extraction) :
      Stepped registry now group (.sent index outcome) []
        (group.setPhase index worker (.extracting testCase testType extraction taskId))
  | sendFailed {index : Nat} {outcome : Except PyError (Option Task)} {worker : Worker}
      {testCase : TestCase} {testType startTimestamp : String} {taskId : TaskId}
      {error : PyError}
      (found : group.workers[index]? = some worker)
      (sending : worker.phase = .sending testCase testType startTimestamp taskId)
      (raised : sentSingleTest (registry.getName worker.agentId) testCase testType
        startTimestamp now.iso outcome = .error error) :
      Stepped registry now group (.sent index outcome) (failureEffects now worker.agentId taskId)
        (failExecution registry now group index worker testCase testType taskId error).2
  | collected {index : Nat} {outcome : Except PyError (Option TestExecutionResult)}
      {nextTaskId : TaskId} {worker : Worker} {testCase : TestCase} {testType : String}
      {extraction : Extraction} {taskId : TaskId} {result : TestExecutionResult}
      (found : group.workers[index]? = some worker)
      (extracting : worker.phase = .extracting testCase testType extraction taskId)
      (returned : extractedSingleTest testCase extraction outcome = .ok result) :
      Stepped registry now group (.extracted index outcome nextTaskId) []
        (collectResult registry now group index worker result nextTaskId)
  | extractionFailed {index : Nat} {outcome : Except PyError (Option TestExecutionResult)}
      {nextTaskId : TaskId} {worker : Worker} {testCase : TestCase} {testType : String}
      {extraction : Extraction} {taskId : TaskId} {error : PyError}
      (found : group.workers[index]? = some worker)
      (extracting : worker.phase = .extracting testCase testType extraction taskId)
      (raised : extractedSingleTest testCase extraction outcome = .error error) :
      Stepped registry now group (.extracted index outcome nextTaskId)
        (failureEffects now worker.agentId taskId)
        (failExecution registry now group index worker testCase testType taskId error).2
  | joined (joining : group.phase = .joining) (finished : group.queue.unfinished = 0) :
      Stepped registry now group .joined []
        { group with
          queue := group.queue.putAll (group.workers.map fun _ => none)
          phase := .gathering }
  | gathered (gathering : group.phase = .gathering)
      (left : ∀ worker ∈ group.workers, worker.phase = .terminated) :
      Stepped registry now group .gathered [] { group with phase := .returned }

/-- Every step is one of the listed ones. -/
theorem TestGroup.stepped_of_step {registry : AgentRegistry} {now : Instant}
    {group next : TestGroup} {event : GroupEvent} {effects : List Effect}
    (step : group.step registry now event = some (effects, next)) :
    group.Stepped registry now event effects next := by
  cases event with
  | resume index nextTaskId =>
      simp only [TestGroup.step, TestGroup.resume, Option.map_eq_some_iff, Option.bind_eq_bind,
        Option.bind_eq_some_iff, Option.guard_eq_some', Option.pure_def, Option.some.injEq,
        Prod.mk.injEq, exists_const] at step
      obtain ⟨_, ⟨worker, found, atTop, rfl⟩, rfl, rfl⟩ := step
      exact .looped found atTop
  | take index nextTaskId =>
      simp only [TestGroup.step, TestGroup.take, Option.map_eq_some_iff, Option.bind_eq_bind,
        Option.bind_eq_some_iff, Option.guard_eq_some', Option.pure_def, Option.some.injEq,
        Prod.mk.injEq, exists_const] at step
      obtain ⟨_, ⟨worker, found, waiting, ready, rfl⟩, rfl, rfl⟩ := step
      exact .took found waiting ready
  | sent index outcome =>
      simp only [TestGroup.step, TestGroup.sent, Option.bind_eq_bind,
        Option.bind_eq_some_iff] at step
      obtain ⟨worker, found, rest⟩ := step
      split at rest
      · rename_i testCase testType startTimestamp taskId sending
        split at rest
        · rename_i extraction valid
          cases rest
          exact .answered found sending valid
        · rename_i error raised
          cases rest
          exact .sendFailed found sending raised
      · cases rest
  | extracted index outcome nextTaskId =>
      simp only [TestGroup.step, TestGroup.extracted, Option.bind_eq_bind,
        Option.bind_eq_some_iff] at step
      obtain ⟨worker, found, rest⟩ := step
      split at rest
      · rename_i testCase testType extraction taskId extracting
        split at rest
        · rename_i result returned
          cases rest
          exact .collected found extracting returned
        · rename_i error raised
          cases rest
          exact .extractionFailed found extracting raised
      · cases rest
  | joined =>
      simp only [TestGroup.step, TestGroup.joined, Option.map_eq_some_iff, Option.bind_eq_bind,
        Option.bind_eq_some_iff, Option.guard_eq_some', Option.pure_def, Option.some.injEq,
        Prod.mk.injEq, exists_const] at step
      obtain ⟨_, ⟨joining, finished, rfl⟩, rfl, rfl⟩ := step
      exact .joined joining finished
  | gathered =>
      simp only [TestGroup.step, TestGroup.gathered, Option.map_eq_some_iff, Option.bind_eq_bind,
        Option.bind_eq_some_iff, Option.guard_eq_some', Option.pure_def, Option.some.injEq,
        Prod.mk.injEq, exists_const] at step
      obtain ⟨_, ⟨gathering, left, rfl⟩, rfl, rfl⟩ := step
      exact .gathered gathering left

/-- The two points at which a broken agent can end its worker: the status check
at the top of the loop, and the handler of a failed execution. -/
inductive ExitPoint where
  | check (index : Nat) (agentId : AgentId)
  | handler (index : Nat) (agentId : AgentId)
deriving DecidableEq, Repr

/-- The exit point that a segment comes to, if any. -/
def TestGroup.exitPoint (registry : AgentRegistry) (now : Instant) (group : TestGroup) :
    GroupEvent → Option ExitPoint
  | .resume index _ => do
      let worker ← group.workers[index]?
      return .check index worker.agentId
  | .sent index outcome => do
      let worker ← group.workers[index]?
      match worker.phase with
      | .sending testCase testType startTimestamp _ =>
          match sentSingleTest (registry.getName worker.agentId) testCase testType
              startTimestamp now.iso outcome with
          | .ok _ => none
          | .error _ => return .handler index worker.agentId
      | _ => none
  | .extracted index outcome _ => do
      let worker ← group.workers[index]?
      match worker.phase with
      | .extracting testCase _ extraction _ =>
          match extractedSingleTest testCase extraction outcome with
          | .ok _ => return .check index worker.agentId
          | .error _ => return .handler index worker.agentId
      | _ => none
  | _ => none

def ExitPoint.index : ExitPoint → Nat
  | .check index _ => index
  | .handler index _ => index

/-- A segment touches the shared state only in a failure handler, for the agent of
the worker that runs it. -/
theorem TestGroup.Stepped.handler_cases {registry : AgentRegistry} {now : Instant}
    {group next : TestGroup} {event : GroupEvent} {effects : List Effect}
    (stepped : group.Stepped registry now event effects next) :
    (effects = [] ∧ ∀ index agentId,
        group.exitPoint registry now event ≠ some (.handler index agentId)) ∨
      ∃ index worker taskId, group.workers[index]? = some worker ∧
        worker.phase.task = some taskId ∧
        (worker.phase.awaits = some taskId → ∃ outcome, event = .sent index outcome) ∧
        group.exitPoint registry now event = some (.handler index worker.agentId) ∧
        effects = failureEffects now worker.agentId taskId := by
  cases stepped with
  | looped found atTop =>
      refine Or.inl ⟨rfl, ?_⟩
      intro index agentId reached
      simp [TestGroup.exitPoint, found] at reached
  | took found waiting ready => exact Or.inl ⟨rfl, nofun⟩
  | answered found sending valid =>
      refine Or.inl ⟨rfl, ?_⟩
      intro index agentId reached
      simp [TestGroup.exitPoint, found, sending, valid] at reached
  | sendFailed found sending raised =>
      rename_i index outcome worker testCase testType startTimestamp taskId error
      refine Or.inr ⟨index, worker, taskId, found, by rw [sending]; rfl, ?_, ?_, rfl⟩
      · intro _
        exact ⟨outcome, rfl⟩
      · simp [TestGroup.exitPoint, found, sending, raised]
  | collected found extracting returned =>
      refine Or.inl ⟨rfl, ?_⟩
      intro index agentId reached
      simp [TestGroup.exitPoint, found, extracting, returned] at reached
  | extractionFailed found extracting raised =>
      rename_i index outcome nextTaskId worker testCase testType extraction taskId error
      refine Or.inr ⟨index, worker, taskId, found, by rw [extracting]; rfl, ?_, ?_, rfl⟩
      · intro awaited
        rw [extracting] at awaited
        cases awaited
      · simp [TestGroup.exitPoint, found, extracting, raised]
  | joined joining finished => exact Or.inl ⟨rfl, nofun⟩
  | gathered gathering left => exact Or.inl ⟨rfl, nofun⟩

/-- The pool is fixed when the group starts. -/
theorem TestGroup.Stepped.poolAgentIds {registry : AgentRegistry} {now : Instant}
    {group next : TestGroup} {event : GroupEvent} {effects : List Effect}
    (stepped : group.Stepped registry now event effects next) :
    next.poolAgentIds = group.poolAgentIds := by
  cases stepped with
  | collected found extracting returned =>
      unfold collectResult
      split <;> rfl
  | _ => rfl

theorem takeItem_task (now : Instant) (taskId : TaskId) (queue : TestQueue) :
    (takeItem now taskId queue).1.task = (takeItem now taskId queue).1.awaits := by
  unfold takeItem
  split <;> rfl

/-- A turn of the loop ends with no test in hand, or waiting for its remote task. -/
theorem workerLoop_task (registry : AgentRegistry) (now : Instant) (taskId : TaskId)
    (agentId : AgentId) (queue : TestQueue) :
    (workerLoop registry now taskId agentId queue).1.task =
      (workerLoop registry now taskId agentId queue).1.awaits := by
  unfold workerLoop
  split
  · rfl
  · rfl
  · exact takeItem_task now taskId queue

/-- When one worker gets a new phase, a worker is an old one or that one, found at
its place. -/
theorem worker_cases_of_set {workers : List Worker} {event : GroupEvent} {index : Nat}
    {old worker : Worker} {phase : WorkerPhase} (found : workers[index]? = some old)
    (member : worker ∈ workers.set index { old with phase := phase })
    (resumed : event.worker = some index)
    (fate : phase.task = phase.awaits ∨
      (phase.task = old.phase.awaits ∧ ∃ outcome, event = .sent index outcome)) :
    worker ∈ workers ∨
      ∃ position before, event.worker = some position ∧ workers[position]? = some before ∧
        (workers.set index { old with phase := phase })[position]? = some worker ∧
        worker.agentId = before.agentId ∧
        (worker.phase.task = worker.phase.awaits ∨
          (worker.phase.task = before.phase.awaits ∧
            ∃ outcome, event = .sent position outcome)) := by
  rcases List.mem_or_eq_of_mem_set member with unmoved | rfl
  · exact Or.inl unmoved
  · have inRange : index < workers.length := (List.getElem?_eq_some_iff.mp found).1
    exact Or.inr ⟨index, old, resumed, found, List.getElem?_set_self inRange, rfl, fate⟩

/-- A worker after a segment is an old one, or the resumed one: with no test in
hand, waiting for the remote task it began, or done with the one it awaited. -/
theorem TestGroup.Stepped.worker_cases {registry : AgentRegistry} {now : Instant}
    {group next : TestGroup} {event : GroupEvent} {effects : List Effect}
    (stepped : group.Stepped registry now event effects next) {worker : Worker}
    (member : worker ∈ next.workers) :
    worker ∈ group.workers ∨
      ∃ index old, event.worker = some index ∧ group.workers[index]? = some old ∧
        next.workers[index]? = some worker ∧ worker.agentId = old.agentId ∧
        (worker.phase.task = worker.phase.awaits ∨
          (worker.phase.task = old.phase.awaits ∧ ∃ outcome, event = .sent index outcome)) := by
  cases stepped with
  | looped found atTop =>
      exact worker_cases_of_set found member rfl (Or.inl (workerLoop_task _ _ _ _ _))
  | took found waiting ready =>
      exact worker_cases_of_set found member rfl (Or.inl (takeItem_task _ _ _))
  | answered found sending valid =>
      refine worker_cases_of_set found member rfl (Or.inr ⟨?_, _, rfl⟩)
      rw [sending]
      rfl
  | sendFailed found sending raised =>
      exact worker_cases_of_set found member rfl (Or.inl rfl)
  | collected found extracting returned =>
      unfold collectResult at member ⊢
      split at member
      · exact worker_cases_of_set found member rfl (Or.inl rfl)
      · exact worker_cases_of_set found member rfl (Or.inl (workerLoop_task _ _ _ _ _))
  | extractionFailed found extracting raised =>
      exact worker_cases_of_set found member rfl (Or.inl rfl)
  | joined joining finished => exact Or.inl member
  | gathered gathering left => exact Or.inl member

end QuAIA.Orchestrator
