import QuAIA.Orchestrator.TestGroup.Ledger

/-!
Contract: every run of a group conserves its tests.

Owns: the start of a group, the invariant along its runs, and the result for
tests that all have a key: nothing is lost, nothing is reported twice.
-/

set_option autoImplicit false

namespace QuAIA.Orchestrator

open QuAIA.Common
open QuAIA.Library

section

variable {testCases lost : List TestCase} {testType : String} {agentIds : List AgentId}
  {group : TestGroup}

/-- A started group holds its tests in the queue and nowhere else. -/
theorem executeTestGroup_accounted {registry : AgentRegistry}
    (started : executeTestGroup registry testType testCases agentIds = some group) :
    Accounted testCases [] group := by
  unfold executeTestGroup at started
  dsimp only at started
  split at started
  · cases started
  · cases started
    have queued : queuedTests (AsyncQueue.empty.putAll
        (testCases.map fun testCase => some (testCase, testType))) = testCases := by
      simp [queuedTests, AsyncQueue.putAll_eq, AsyncQueue.empty, List.filterMap_map]
    have held : heldTests ((agentIds.filter registry.contains).map fun agentId =>
        ⟨agentId, .created⟩) = [] := by
      simp [heldTests, WorkerPhase.heldTest]
    refine ⟨?_, ?_, ?_, ?_, fun closed => absurd rfl closed⟩
    · intro testCase isLost
      cases isLost
    · simp [TestGroup.ledger, queued, held, reportedBy]
    · intro _
      rw [queued, held]
      simp [AsyncQueue.putAll_eq, AsyncQueue.empty]
    · intro _
      simp [AsyncQueue.putAll_eq, AsyncQueue.empty]

theorem stepped_of_worldStep {world next : GroupWorld} {now : Instant} {event : GroupEvent}
    (step : world.step (.group now event) = some next) :
    ∃ effects, world.group.Stepped world.shared.registry now event effects next.group ∧
      next.shared = world.shared.applyAll effects := by
  simp only [GroupWorld.step, Option.map_eq_some_iff, Prod.exists] at step
  obtain ⟨effects, after, stepped, rfl⟩ := step
  exact ⟨effects, TestGroup.stepped_of_step stepped, rfl⟩

/-- The ledger balances among any other actors. -/
theorem Accounted.worldStep (testCases : List TestCase) (world : GroupWorld)
    (event : GroupWorldEvent) (next : GroupWorld)
    (accounted : ∃ lost, Accounted testCases lost world.group)
    (step : world.step event = some next) : ∃ lost, Accounted testCases lost next.group := by
  obtain ⟨lost, accounted⟩ := accounted
  cases event with
  | group now event =>
      obtain ⟨effects, stepped, -⟩ := stepped_of_worldStep step
      obtain ⟨gone, kept⟩ := accounted.step stepped
      exact ⟨lost ++ gone, kept⟩
  | environment shared =>
      cases step
      exact ⟨lost, accounted⟩

/-- When every test has a key, no test can be lost. -/
theorem Accounted.lost_eq_nil (accounted : Accounted testCases lost group)
    (keyed : ∀ testCase ∈ testCases, testCase.key ≠ none) : lost = [] := by
  apply List.eq_nil_iff_forall_not_mem.mpr
  intro testCase member
  have listed : some testCase ∈ entriesOf lost := by
    simpa [entriesOf] using member
  have inBalance : some testCase ∈ entriesOf testCases := by
    rw [← accounted.balance]
    exact Multiset.mem_add.mpr (Or.inr listed)
  have isTest : testCase ∈ testCases := by
    simpa [entriesOf] using inBalance
  exact keyed testCase isTest (accounted.lostKeyless testCase member)

/-- A group that has returned reports each of its tests once. -/
theorem Accounted.reported_of_returned (accounted : Accounted testCases lost group)
    (returned : group.phase = .returned) :
    (group.results.map (·.testCase)).Perm (testCases.map some) := by
  obtain ⟨noQueued, noHeld, rfl⟩ := accounted.drained (by rw [returned]; decide)
  have balance := accounted.balance
  rw [TestGroup.ledger, noQueued, noHeld, entriesOf_nil, add_zero, zero_add, zero_add] at balance
  exact Multiset.coe_eq_coe.mp balance

end

/-- **Test conservation.** Wherever a run of a group of tests with keys ends, the
queued, held and reported tests are the group's test cases, the queue counts
the tests that are queued or held, and a group that has returned reports each
test case exactly once. -/
theorem testGroup_conserves_tests {shared : Shared} {testType : String}
    {testCases : List TestCase} {agentIds : List AgentId} {group : TestGroup}
    {events : List GroupWorldEvent} {final : GroupWorld}
    (keyed : ∀ testCase ∈ testCases, testCase.key ≠ none)
    (started : executeTestGroup shared.registry testType testCases agentIds = some group)
    (ran : StepSystem.run GroupWorld.step ⟨shared, group⟩ events = some final) :
    final.group.ledger = entriesOf testCases ∧
      (final.group.phase = .joining → final.group.queue.unfinished =
        (queuedTests final.group.queue).length + (heldTests final.group.workers).length) ∧
      (final.group.phase = .returned →
        (final.group.results.map (·.testCase)).Perm (testCases.map some)) := by
  have initially : ∃ lost, Accounted testCases lost group :=
    ⟨[], executeTestGroup_accounted started⟩
  obtain ⟨lost, accounted⟩ :=
    StepSystem.invariant_of_step (Accounted.worldStep testCases) initially ran
  obtain rfl := accounted.lost_eq_nil keyed
  have balance : final.group.ledger = entriesOf testCases := by
    have balance := accounted.balance
    rwa [entriesOf_nil, add_zero] at balance
  exact ⟨balance, accounted.counted, accounted.reported_of_returned⟩

/-- A run of two agents on one test: the first execution raises, the test is put
back, and the second agent executes it. -/
def requeueRun : List GroupWorldEvent :=
  [.group ⟨0, "start"⟩ (.resume 0 "task-1"),
    .group ⟨9, "failed"⟩ (.sent 0 (.error (.httpException 408 "timed out"))),
    .group ⟨10, "retry"⟩ (.resume 1 "task-2"),
    .group ⟨19, "done"⟩ (.sent 1 (.ok (some ⟨"remote", ⟨.completed, "completed", ""⟩,
      [⟨"a-1", "agent_execution_result", [⟨.text "passed", "text/plain", ""⟩]⟩]⟩))),
    .group ⟨20, "extracted"⟩ (.extracted 1 (.ok none) "task-3"),
    .group ⟨21, "joined"⟩ .joined,
    .group ⟨21, "stop"⟩ (.take 1 "task-3"),
    .group ⟨22, "end"⟩ .gathered]

theorem testGroup_conserves_requeued_test :
    ∃ group ∈ executeTestGroup (Shared.withAgents ["agent-1", "agent-2"]).registry "UI"
        [TestCase.named "T-1"] ["agent-1", "agent-2"],
      ∃ final ∈ StepSystem.run GroupWorld.step
          ⟨Shared.withAgents ["agent-1", "agent-2"], group⟩ requeueRun,
        (final.group.results.map (·.testCase)).Perm [some (TestCase.named "T-1")] := by
  have finished : ∃ group ∈ executeTestGroup
      (Shared.withAgents ["agent-1", "agent-2"]).registry "UI" [TestCase.named "T-1"]
      ["agent-1", "agent-2"],
      ∃ final ∈ StepSystem.run GroupWorld.step
        ⟨Shared.withAgents ["agent-1", "agent-2"], group⟩ requeueRun,
        final.group.phase = .returned := by decide
  obtain ⟨group, started, final, ran, returned⟩ := finished
  have keyed : ∀ testCase ∈ [TestCase.named "T-1"], testCase.key ≠ none := by decide
  exact ⟨group, started, final, ran,
    (testGroup_conserves_tests keyed started ran).2.2 returned⟩

end QuAIA.Orchestrator
