import QuAIA.Orchestrator.TestGroup.Conservation

/-!
Contract: when a group strands a test.

Owns: the stranded states, in which every worker has finished and a test is
still queued, so that `queue.join()` waits forever; the steps that lead into
them; and the equivalence of the two along every run.

Only the last running worker can strand a test, by leaving its loop because of
a broken agent: at the status check, or after its execution raised.
-/

set_option autoImplicit false

namespace QuAIA.Orchestrator

open QuAIA.Common
open QuAIA.Library

/-! ## Stranded groups and abandoning steps -/

/-- Every worker has finished while a test is queued. -/
def TestGroup.Stranded (group : TestGroup) : Prop :=
  (∀ worker ∈ group.workers, worker.phase = .terminated) ∧ queuedTests group.queue ≠ []

instance (group : TestGroup) : Decidable group.Stranded :=
  inferInstanceAs (Decidable ((∀ worker ∈ group.workers, worker.phase = .terminated) ∧ _))

/-- No worker besides the one at `index` is running. -/
def TestGroup.LastRunning (group : TestGroup) (index : Nat) : Prop :=
  ∀ worker ∈ group.workers.eraseIdx index, worker.phase = .terminated

instance (group : TestGroup) (index : Nat) : Decidable (group.LastRunning index) :=
  inferInstanceAs (Decidable (∀ worker ∈ group.workers.eraseIdx index, worker.phase = .terminated))

/-- At an exit point, the broken agent ends its worker and leaves a test behind:
the check while a test is queued, the handler also when it puts its own test
back. -/
def TestGroup.LeavesTest (registry : AgentRegistry) (group : TestGroup) : ExitPoint → Prop
  | .check _ agentId => registry.getStatus agentId = .broken ∧ queuedTests group.queue ≠ []
  | .handler _ agentId =>
      queuedTests group.queue ≠ [] ∨
        anyAgentsAlive (registry.updateStatus agentId .broken (some .taskStuck) none) agentId
          group.poolAgentIds = true

instance (registry : AgentRegistry) (group : TestGroup) :
    DecidablePred (group.LeavesTest registry)
  | .check _ _ => instDecidableAnd
  | .handler _ _ => instDecidableOr

/-- The last running worker leaves for a broken agent and a test stays behind. -/
def TestGroup.Abandons (registry : AgentRegistry) (now : Instant) (group : TestGroup)
    (event : GroupEvent) : Prop :=
  ∃ point ∈ group.exitPoint registry now event,
    group.LastRunning point.index ∧ group.LeavesTest registry point

def GroupWorld.Abandons (world : GroupWorld) : GroupWorldEvent → Prop
  | .group now event => world.group.Abandons world.shared.registry now event
  | .environment _ => False

instance (world : GroupWorld) : DecidablePred world.Abandons
  | .group now event =>
      inferInstanceAs (Decidable (∃ point ∈ world.group.exitPoint world.shared.registry now event,
        world.group.LastRunning point.index ∧ world.group.LeavesTest world.shared.registry point))
  | .environment _ => instDecidableFalse

/-! ## One step -/

section Steps

variable {testCases lost : List TestCase} {group next : TestGroup} {index : Nat}
  {worker : Worker}

theorem stranded_setPhase_iff (found : group.workers[index]? = some worker)
    (queue : TestQueue) (results : List TestExecutionResult) (phase : WorkerPhase) :
    ({ group with queue := queue, results := results }.setPhase index worker phase).Stranded ↔
      group.LastRunning index ∧ phase = .terminated ∧ queuedTests queue ≠ [] := by
  have split := forall_mem_set_iff found { worker with phase := phase }
    fun worker => worker.phase = .terminated
  simp only [TestGroup.Stranded, TestGroup.setPhase, split]
  constructor
  · rintro ⟨⟨left, others⟩, queued⟩
    exact ⟨others, left, queued⟩
  · rintro ⟨others, left, queued⟩
    exact ⟨⟨left, others⟩, queued⟩

/-- A sentinel is put only when no test is queued. -/
theorem Accounted.unmixed (accounted : Accounted testCases lost group)
    (sentinel : none ∈ group.queue.items) : queuedTests group.queue = [] := by
  by_contra queued
  have joining : group.phase = .joining := by
    by_contra closed
    exact queued (accounted.drained closed).1
  exact accounted.noSentinel joining sentinel

/-- Taking from the queue ends a worker only at a sentinel. -/
theorem takeItem_terminated {queue : TestQueue} (now : Instant) (taskId : TaskId)
    (unmixed : none ∈ queue.items → queuedTests queue = [])
    (left : (takeItem now taskId queue).1 = .terminated) :
    queuedTests (takeItem now taskId queue).2 = [] := by
  obtain ⟨items, unfinished⟩ := queue
  cases items with
  | nil => cases left
  | cons item rest =>
      cases item with
      | none =>
          have empty := unmixed List.mem_cons_self
          simpa [takeItem, AsyncQueue.getNowait] using empty
      | some test => cases left

theorem workerLoop_exits_iff {queue : TestQueue} (registry : AgentRegistry) (now : Instant)
    (taskId : TaskId) (agentId : AgentId)
    (unmixed : none ∈ queue.items → queuedTests queue = []) :
    ((workerLoop registry now taskId agentId queue).1 = .terminated ∧
        queuedTests (workerLoop registry now taskId agentId queue).2 ≠ []) ↔
      registry.getStatus agentId = .broken ∧ queuedTests queue ≠ [] := by
  unfold workerLoop
  cases registry.getStatus agentId with
  | broken => simp
  | busy => simp
  | available =>
      constructor
      · rintro ⟨left, queued⟩
        exact absurd (takeItem_terminated now taskId unmixed left) queued
      · rintro ⟨isBroken, -⟩
        cases isBroken

/-- The queue after a failure holds the queued tests, and the failed test when
it was put back. -/
theorem queuedTests_failTest (index : Nat) (registry : AgentRegistry) (now : Instant)
    (agentId : AgentId) (testCase : TestCase) (testType : String) (error : PyError)
    (group : TestGroup) :
    queuedTests (failTest registry now agentId testCase testType error group).1 ≠ [] ↔
      group.LeavesTest registry (.handler index agentId) := by
  unfold failTest TestGroup.LeavesTest
  dsimp only
  split
  · rename_i alive
    simp [alive]
  · rename_i alone
    split <;> simp [alone]

/-- A worker that starts another turn of its loop strands a test exactly when
its status check abandons one. -/
theorem stranded_loop_iff (found : group.workers[index]? = some worker)
    (registry : AgentRegistry) (now : Instant) (taskId : TaskId) (queue : TestQueue)
    (results : List TestExecutionResult)
    (unmixed : none ∈ queue.items → queuedTests queue = [])
    (same : queuedTests queue = queuedTests group.queue) :
    ({ group with results := results }.advance index worker
        (workerLoop registry now taskId worker.agentId queue)).Stranded ↔
      group.LastRunning index ∧ group.LeavesTest registry (.check index worker.agentId) := by
  have moved := stranded_setPhase_iff found
    (workerLoop registry now taskId worker.agentId queue).2 results
    (workerLoop registry now taskId worker.agentId queue).1
  rw [workerLoop_exits_iff registry now taskId worker.agentId unmixed, same] at moved
  exact moved

theorem stranded_failExecution_iff (found : group.workers[index]? = some worker)
    (registry : AgentRegistry) (now : Instant) (testCase : TestCase) (testType : String)
    (taskId : TaskId) (error : PyError) :
    (failExecution registry now group index worker testCase testType taskId error).2.Stranded ↔
      group.LastRunning index ∧ group.LeavesTest registry (.handler index worker.agentId) := by
  have moved := stranded_setPhase_iff found
    (failTest registry now worker.agentId testCase testType error group).1
    (failTest registry now worker.agentId testCase testType error group).2 .terminated
  rw [queuedTests_failTest index] at moved
  simp only [true_and] at moved
  exact moved

/-- An event that comes to an exit point abandons a test there or not at all. -/
theorem abandons_iff_of_exitPoint {registry : AgentRegistry} {now : Instant} {event : GroupEvent}
    {point : ExitPoint} (reached : group.exitPoint registry now event = some point) :
    group.Abandons registry now event ↔
      group.LastRunning point.index ∧ group.LeavesTest registry point := by
  simp [TestGroup.Abandons, reached]

theorem not_abandons_of_exitPoint {registry : AgentRegistry} {now : Instant}
    {event : GroupEvent} (unreached : group.exitPoint registry now event = none) :
    ¬group.Abandons registry now event := by
  simp [TestGroup.Abandons, unreached]

/-- **One step.** A group that is not stranded becomes so exactly in a step that
abandons a test. -/
theorem stranded_iff_abandons (accounted : Accounted testCases lost group)
    (notYet : ¬group.Stranded) {registry : AgentRegistry} {now : Instant} {event : GroupEvent}
    {effects : List Effect} (stepped : group.Stepped registry now event effects next) :
    next.Stranded ↔ group.Abandons registry now event := by
  cases stepped with
  | looped found atTop =>
      rename_i index nextTaskId worker
      have reached : group.exitPoint registry now (.resume index nextTaskId) =
          some (.check index worker.agentId) := by
        simp [TestGroup.exitPoint, found]
      rw [abandons_iff_of_exitPoint reached]
      exact stranded_loop_iff found registry now nextTaskId group.queue group.results
        accounted.unmixed rfl
  | took found waiting ready =>
      rename_i index nextTaskId worker
      refine iff_of_false ?_ (not_abandons_of_exitPoint rfl)
      intro stranded
      have moved := (stranded_setPhase_iff found (takeItem now nextTaskId group.queue).2
        group.results (takeItem now nextTaskId group.queue).1).mp stranded
      exact moved.2.2 (takeItem_terminated now nextTaskId accounted.unmixed moved.2.1)
  | answered found sending valid =>
      rename_i index outcome worker testCase testType startTimestamp taskId extraction
      have unreached : group.exitPoint registry now (.sent index outcome) = none := by
        simp [TestGroup.exitPoint, found, sending, valid]
      refine iff_of_false ?_ (not_abandons_of_exitPoint unreached)
      intro stranded
      have moved := (stranded_setPhase_iff found group.queue group.results _).mp stranded
      cases moved.2.1
  | sendFailed found sending raised =>
      rename_i index outcome worker testCase testType startTimestamp taskId error
      have reached : group.exitPoint registry now (.sent index outcome) =
          some (.handler index worker.agentId) := by
        simp [TestGroup.exitPoint, found, sending, raised]
      rw [abandons_iff_of_exitPoint reached]
      exact stranded_failExecution_iff found registry now testCase testType taskId error
  | collected found extracting returned =>
      rename_i index outcome nextTaskId worker testCase testType extraction taskId result
      have reached : group.exitPoint registry now (.extracted index outcome nextTaskId) =
          some (.check index worker.agentId) := by
        simp [TestGroup.exitPoint, found, extracting, returned]
      have held := congrArg WorkerPhase.heldTest extracting
      have positive := accounted.unfinished_pos found held
      rw [abandons_iff_of_exitPoint reached, collectResult,
        AsyncQueue.taskDone_of_pos positive]
      exact stranded_loop_iff found registry now nextTaskId _ _ accounted.unmixed rfl
  | extractionFailed found extracting raised =>
      rename_i index outcome nextTaskId worker testCase testType extraction taskId error
      have reached : group.exitPoint registry now (.extracted index outcome nextTaskId) =
          some (.handler index worker.agentId) := by
        simp [TestGroup.exitPoint, found, extracting, raised]
      rw [abandons_iff_of_exitPoint reached]
      exact stranded_failExecution_iff found registry now testCase testType taskId error
  | joined joining finished =>
      refine iff_of_false ?_ (not_abandons_of_exitPoint rfl)
      rintro ⟨left, queued⟩
      rw [queuedTests_putAll_none] at queued
      exact notYet ⟨left, queued⟩
  | gathered gathering left =>
      exact iff_of_false notYet (not_abandons_of_exitPoint rfl)

/-- A group starts with a running worker. -/
theorem executeTestGroup_not_stranded {registry : AgentRegistry} {testType : String}
    {agentIds : List AgentId}
    (started : executeTestGroup registry testType testCases agentIds = some group) :
    ¬group.Stranded := by
  unfold executeTestGroup at started
  dsimp only at started
  split at started
  · cases started
  · rename_i nonempty
    cases started
    rintro ⟨left, -⟩
    obtain ⟨agentId, member⟩ := List.exists_mem_of_ne_nil _
      (fun empty => nonempty (List.isEmpty_iff.mpr empty))
    have created := left ⟨agentId, .created⟩ (List.mem_map.mpr ⟨agentId, member, rfl⟩)
    cases created

end Steps

/-! ## Runs -/

/-- **No stranded test, exactly.** A run of a group visits no stranded state if
and only if none of its steps abandons a test. -/
theorem testGroup_neverStranded_iff {shared : Shared} {testType : String}
    {testCases : List TestCase} {agentIds : List AgentId} {group : TestGroup}
    {events : List GroupWorldEvent} {final : GroupWorld}
    (started : executeTestGroup shared.registry testType testCases agentIds = some group)
    (ran : StepSystem.run GroupWorld.step ⟨shared, group⟩ events = some final) :
    StepSystem.Throughout GroupWorld.step (fun world => ¬world.group.Stranded)
        ⟨shared, group⟩ events ↔
      StepSystem.Along GroupWorld.step (fun world event => ¬world.Abandons event)
        ⟨shared, group⟩ events := by
  have initially : ∃ lost, Accounted testCases lost group :=
    ⟨[], executeTestGroup_accounted started⟩
  refine StepSystem.throughout_iff_along (Accounted.worldStep testCases) ?_ initially
    (executeTestGroup_not_stranded started) ran
  rintro world event next ⟨lost, accounted⟩ notYet step
  apply not_congr
  cases event with
  | group now event =>
      obtain ⟨effects, stepped, -⟩ := stepped_of_worldStep step
      exact stranded_iff_abandons accounted notYet stepped
  | environment shared =>
      cases step
      exact iff_of_false notYet id

/-- One agent and two tests: the first execution raises, its worker leaves, and
the second test stays in the queue. -/
theorem testGroup_strands_second_test :
    ∃ group final,
      executeTestGroup (Shared.withAgents ["agent"]).registry "UI"
        [TestCase.named "T-1", TestCase.named "T-2"] ["agent"] = some group ∧
      StepSystem.run GroupWorld.step ⟨Shared.withAgents ["agent"], group⟩
        [.group ⟨0, "start"⟩ (.resume 0 "task"),
          .group ⟨9, "later"⟩ (.sent 0 (.error (.httpException 408 "timed out")))] =
        some final ∧
      final.group.Stranded :=
  ⟨_, _, rfl, rfl, by decide⟩

/-- In a run whose failed test another agent takes over, no step abandons a test
and so no state is stranded. -/
theorem testGroup_neverStranded_requeued :
    ∃ group ∈ executeTestGroup (Shared.withAgents ["agent-1", "agent-2"]).registry "UI"
        [TestCase.named "T-1"] ["agent-1", "agent-2"],
      StepSystem.Throughout GroupWorld.step (fun world => ¬world.group.Stranded)
        ⟨Shared.withAgents ["agent-1", "agent-2"], group⟩ requeueRun := by
  have finished : ∃ group ∈ executeTestGroup
      (Shared.withAgents ["agent-1", "agent-2"]).registry "UI" [TestCase.named "T-1"]
      ["agent-1", "agent-2"],
      (StepSystem.run GroupWorld.step
        ⟨Shared.withAgents ["agent-1", "agent-2"], group⟩ requeueRun).isSome ∧
      StepSystem.Along GroupWorld.step (fun world event => ¬world.Abandons event)
        ⟨Shared.withAgents ["agent-1", "agent-2"], group⟩ requeueRun := by decide
  obtain ⟨group, started, ends, along⟩ := finished
  obtain ⟨final, ran⟩ := Option.isSome_iff_exists.mp ends
  exact ⟨group, started, (testGroup_neverStranded_iff started ran).mpr along⟩

end QuAIA.Orchestrator
