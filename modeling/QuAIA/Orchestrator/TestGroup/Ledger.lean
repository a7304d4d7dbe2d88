import QuAIA.Library.ListReplace
import Mathlib.Tactic.Abel
import QuAIA.Orchestrator.TestGroup.Steps

/-!
Contract: where the tests of a group are, and that no segment loses track.

Owns: the queued, held and reported tests of a group; the invariant `Accounted`
that balances them against the group's test cases and against the queue's
counter; and its preservation by every step of the group.

A test without a key can leave the ledger: the last living agent cannot build
its error result, so its worker ends with the test neither reported nor done.
`Accounted` carries such tests in its `lost` argument.
-/

set_option autoImplicit false

namespace QuAIA.Orchestrator

open QuAIA.Common
open QuAIA.Library

/-! ## Where the tests are -/

def queuedTests (queue : TestQueue) : List TestCase :=
  queue.items.filterMap fun item => item.map Prod.fst

def WorkerPhase.heldTest : WorkerPhase → Option TestCase
  | .sending testCase _ _ _ => some testCase
  | .extracting testCase _ _ _ => some testCase
  | _ => none

def heldTests (workers : List Worker) : List TestCase :=
  workers.filterMap fun worker => worker.phase.heldTest

/-- Tests as members of the ledger. -/
def entriesOf (tests : List TestCase) : Multiset (Option TestCase) :=
  (tests.map some : List (Option TestCase))

/-- The test cases of collected results. A result without one shows up as
`none`. -/
def reportedBy (results : List TestExecutionResult) : Multiset (Option TestCase) :=
  (results.map (·.testCase) : List (Option TestCase))

/-- The tests in the queue, in a worker's hand and in the collected results. -/
def TestGroup.ledger (group : TestGroup) : Multiset (Option TestCase) :=
  entriesOf (queuedTests group.queue) + entriesOf (heldTests group.workers) +
    reportedBy group.results

/-- Every test of the group is queued, held, reported or lost, and until the
sentinels are put the queue counts the ones that are not reported. A group with a
lost test goes on waiting for it. -/
structure Accounted (testCases lost : List TestCase) (group : TestGroup) : Prop where
  lostKeyless : ∀ testCase ∈ lost, testCase.key = none
  balance : group.ledger + entriesOf lost = entriesOf testCases
  counted : group.phase = .joining → group.queue.unfinished =
    (queuedTests group.queue).length + (heldTests group.workers).length + lost.length
  noSentinel : group.phase = .joining → none ∉ group.queue.items
  drained : group.phase ≠ .joining →
    queuedTests group.queue = [] ∧ heldTests group.workers = [] ∧ lost = []

@[simp] theorem entriesOf_nil : entriesOf [] = 0 := rfl

@[simp] theorem entriesOf_append (left right : List TestCase) :
    entriesOf (left ++ right) = entriesOf left + entriesOf right := by
  simp [entriesOf]

@[simp] theorem entriesOf_singleton (testCase : TestCase) :
    entriesOf [testCase] = {some testCase} := rfl

@[simp] theorem card_entriesOf (tests : List TestCase) :
    (entriesOf tests).card = tests.length := by
  simp [entriesOf]

@[simp] theorem reportedBy_singleton (result : TestExecutionResult) :
    reportedBy [result] = {result.testCase} := rfl

@[simp] theorem reportedBy_append (left right : List TestExecutionResult) :
    reportedBy (left ++ right) = reportedBy left + reportedBy right := by
  simp [reportedBy]

/-! ## Segments -/

@[simp] theorem queuedTests_cons_test (testCase : TestCase) (testType : String)
    (rest : List (Option (TestCase × String))) (unfinished : Nat) :
    queuedTests ⟨some (testCase, testType) :: rest, unfinished⟩ =
      testCase :: queuedTests ⟨rest, unfinished⟩ := rfl

@[simp] theorem queuedTests_cons_sentinel (rest : List (Option (TestCase × String)))
    (unfinished : Nat) :
    queuedTests ⟨none :: rest, unfinished⟩ = queuedTests ⟨rest, unfinished⟩ := rfl

/-- The queued tests depend on the items alone. -/
theorem queuedTests_congr {left right : TestQueue} (same : left.items = right.items) :
    queuedTests left = queuedTests right := by
  unfold queuedTests
  rw [same]

@[simp] theorem queuedTests_taskDone (queue : TestQueue) :
    queuedTests (queue.taskDone.getD queue) = queuedTests queue :=
  queuedTests_congr queue.taskDone_getD_items

@[simp] theorem queuedTests_putNowait_test (queue : TestQueue) (testCase : TestCase)
    (testType : String) :
    queuedTests (queue.putNowait (some (testCase, testType))) =
      queuedTests queue ++ [testCase] := by
  simp [queuedTests]

/-- Taking from the queue: the head goes to the hand, and without sentinels the
counter stays. -/
structure Taken (before : TestQueue) (moved : WorkerPhase × TestQueue) : Prop where
  tests : queuedTests before = moved.1.heldTest.toList ++ queuedTests moved.2
  counter : none ∉ before.items → moved.2.unfinished = before.unfinished
  items : none ∉ before.items → none ∉ moved.2.items

theorem Taken.refl {queue : TestQueue} {phase : WorkerPhase} (empty : phase.heldTest = none) :
    Taken queue (phase, queue) where
  tests := by simp [empty]
  counter _ := rfl
  items absent := absent

theorem takeItem_taken (now : Instant) (taskId : TaskId) (queue : TestQueue) :
    Taken queue (takeItem now taskId queue) := by
  obtain ⟨items, unfinished⟩ := queue
  cases items with
  | nil => exact Taken.refl rfl
  | cons item rest =>
      cases item with
      | none =>
          refine ⟨?_, fun absent => absurd List.mem_cons_self absent,
            fun absent => absurd List.mem_cons_self absent⟩
          simp [takeItem, AsyncQueue.getNowait, WorkerPhase.heldTest]
      | some test =>
          exact ⟨rfl, fun _ => rfl, fun absent member => absent (List.mem_cons_of_mem _ member)⟩

theorem workerLoop_taken (registry : AgentRegistry) (now : Instant) (taskId : TaskId)
    (agentId : AgentId) (queue : TestQueue) :
    Taken queue (workerLoop registry now taskId agentId queue) := by
  unfold workerLoop
  cases registry.getStatus agentId with
  | broken => exact Taken.refl rfl
  | busy => exact Taken.refl rfl
  | available => exact takeItem_taken now taskId queue

/-- A worker that changes its phase trades the test it held. -/
theorem entriesOf_heldTests_set {workers : List Worker} {index : Nat} {worker : Worker}
    (found : workers[index]? = some worker) (phase : WorkerPhase) :
    entriesOf (heldTests (workers.set index { worker with phase := phase })) +
        entriesOf worker.phase.heldTest.toList =
      entriesOf (heldTests workers) + entriesOf phase.heldTest.toList := by
  have traded := coe_filterMap_set found { worker with phase := phase }
    fun worker => worker.phase.heldTest
  have mapped := congrArg (Multiset.map some) traded
  simp only [Multiset.map_add, Multiset.map_coe] at mapped
  exact mapped

theorem length_heldTests_set {workers : List Worker} {index : Nat} {worker : Worker}
    (found : workers[index]? = some worker) (phase : WorkerPhase) :
    (heldTests (workers.set index { worker with phase := phase })).length +
        worker.phase.heldTest.toList.length =
      (heldTests workers).length + phase.heldTest.toList.length := by
  have traded := congrArg Multiset.card (entriesOf_heldTests_set found phase)
  simpa only [Multiset.card_add, card_entriesOf] using traded

/-! ## Moves of the ledger -/

section Moves

variable {testCases lost : List TestCase} {group : TestGroup} {index : Nat} {worker : Worker}

/-- A worker that holds nothing takes from the queue, or leaves it as it is. -/
theorem Accounted.take (accounted : Accounted testCases lost group)
    (found : group.workers[index]? = some worker) (free : worker.phase.heldTest = none)
    {moved : WorkerPhase × TestQueue} (taken : Taken group.queue moved) :
    Accounted testCases lost (group.advance index worker moved) where
  lostKeyless := accounted.lostKeyless
  balance := by
    have hands := entriesOf_heldTests_set found moved.1
    rw [free, Option.toList_none, entriesOf_nil, add_zero] at hands
    have tests : entriesOf (queuedTests group.queue) =
        entriesOf moved.1.heldTest.toList + entriesOf (queuedTests moved.2) := by
      rw [taken.tests, entriesOf_append]
    rw [← accounted.balance]
    simp only [TestGroup.ledger, TestGroup.advance, TestGroup.setPhase, hands, tests]
    abel
  counted joining := by
    have hands := length_heldTests_set found moved.1
    rw [free, Option.toList_none, List.length_nil] at hands
    have tests := congrArg List.length taken.tests
    rw [List.length_append] at tests
    have counted := accounted.counted joining
    have kept := taken.counter (accounted.noSentinel joining)
    simp only [TestGroup.advance, TestGroup.setPhase]
    omega
  noSentinel joining := taken.items (accounted.noSentinel joining)
  drained closed := by
    obtain ⟨noQueued, noHeld, noneLost⟩ := accounted.drained closed
    have tests := taken.tests
    rw [noQueued, eq_comm, List.append_eq_nil_iff] at tests
    have hands := length_heldTests_set found moved.1
    rw [free, tests.1, noHeld] at hands
    exact ⟨tests.2, List.eq_nil_of_length_eq_zero hands, noneLost⟩

/-- A worker that holds a test keeps the group joining. -/
theorem Accounted.joining_of_held (accounted : Accounted testCases lost group)
    (found : group.workers[index]? = some worker) {testCase : TestCase}
    (held : worker.phase.heldTest = some testCase) : group.phase = .joining := by
  by_contra closed
  have empty := (accounted.drained closed).2.1
  have member : testCase ∈ heldTests group.workers :=
    List.mem_filterMap.mpr ⟨worker, List.mem_of_getElem? found, held⟩
  rw [empty] at member
  cases member

/-- While a test is held, the counter is positive. -/
theorem Accounted.unfinished_pos (accounted : Accounted testCases lost group)
    (found : group.workers[index]? = some worker) {testCase : TestCase}
    (held : worker.phase.heldTest = some testCase) : 0 < group.queue.unfinished := by
  have member : testCase ∈ heldTests group.workers :=
    List.mem_filterMap.mpr ⟨worker, List.mem_of_getElem? found, held⟩
  have positive := List.length_pos_of_mem member
  have counted := accounted.counted (accounted.joining_of_held found held)
  omega

/-- The worker keeps the test and only moves on with it. -/
theorem Accounted.keep (accounted : Accounted testCases lost group)
    (found : group.workers[index]? = some worker) {phase : WorkerPhase}
    (same : phase.heldTest = worker.phase.heldTest) :
    Accounted testCases lost (group.setPhase index worker phase) where
  lostKeyless := accounted.lostKeyless
  balance := by
    have hands := entriesOf_heldTests_set found phase
    rw [same, add_left_inj] at hands
    rw [← accounted.balance]
    simp only [TestGroup.ledger, TestGroup.setPhase, hands]
  counted joining := by
    have hands := length_heldTests_set found phase
    rw [same] at hands
    have counted := accounted.counted joining
    simp only [TestGroup.setPhase]
    omega
  noSentinel joining := accounted.noSentinel joining
  drained closed := by
    obtain ⟨noQueued, noHeld, noneLost⟩ := accounted.drained closed
    have hands := length_heldTests_set found phase
    rw [same, noHeld, List.length_nil] at hands
    have noneHeld : heldTests (group.setPhase index worker phase).workers = [] :=
      List.eq_nil_of_length_eq_zero (by simp only [TestGroup.setPhase]; omega)
    exact ⟨noQueued, noneHeld, noneLost⟩

/-- A held test leaves the hand: it is put back (`back`), reported or lost
(`gone`), and the counter follows. -/
theorem Accounted.release (accounted : Accounted testCases lost group)
    (found : group.workers[index]? = some worker) {testCase : TestCase}
    (held : worker.phase.heldTest = some testCase) {phase : WorkerPhase}
    (free : phase.heldTest = none) {queue : TestQueue} {results : List TestExecutionResult}
    (back gone : List TestCase)
    (queued : queuedTests queue = queuedTests group.queue ++ back)
    (clean : none ∉ group.queue.items → none ∉ queue.items)
    (counter : queue.unfinished + 1 = group.queue.unfinished + back.length + gone.length)
    (reports : reportedBy results + entriesOf back + entriesOf gone =
      reportedBy group.results + {some testCase})
    (keyless : ∀ test ∈ gone, test.key = none) :
    Accounted testCases (lost ++ gone)
      ({ group with queue := queue, results := results }.setPhase index worker phase) where
  lostKeyless test member := by
    rcases List.mem_append.mp member with inLost | inGone
    · exact accounted.lostKeyless test inLost
    · exact keyless test inGone
  balance := by
    have hands := entriesOf_heldTests_set found phase
    rw [free, held, Option.toList_none, Option.toList_some, entriesOf_nil, add_zero,
      entriesOf_singleton] at hands
    have regroup : ∀ before returned inHand answered earlier vanished : Multiset (Option TestCase),
        before + returned + inHand + answered + (earlier + vanished) =
          before + inHand + earlier + (answered + returned + vanished) := by
      intro before returned inHand answered earlier vanished
      abel
    rw [← accounted.balance]
    simp only [TestGroup.ledger, TestGroup.setPhase, ← hands, queued, entriesOf_append]
    rw [regroup, reports]
    abel
  counted joining := by
    have hands := length_heldTests_set found phase
    rw [free, held, Option.toList_none, Option.toList_some, List.length_nil,
      List.length_singleton] at hands
    have counted := accounted.counted joining
    have moved := congrArg List.length queued
    rw [List.length_append] at moved
    simp only [TestGroup.setPhase, List.length_append]
    omega
  noSentinel joining := clean (accounted.noSentinel joining)
  drained closed := absurd (accounted.joining_of_held found held) closed

/-! ## Segments of a worker keep the ledger -/

/-- Of two changes of the same worker the second one remains. -/
theorem advance_setPhase (group : TestGroup) (index : Nat) (worker : Worker)
    (between : WorkerPhase) (moved : WorkerPhase × TestQueue) :
    (group.setPhase index worker between).advance index { worker with phase := between } moved =
      group.advance index worker moved := by
  simp [TestGroup.advance, TestGroup.setPhase]

/-- A failed execution puts its test back, reports it, or loses it for want of
a key. -/
theorem Accounted.failExecution (accounted : Accounted testCases lost group)
    (found : group.workers[index]? = some worker) {testCase : TestCase}
    (held : worker.phase.heldTest = some testCase) (registry : AgentRegistry) (now : Instant)
    (testType : String) (taskId : TaskId) (error : PyError) :
    ∃ gone, Accounted testCases (lost ++ gone)
      (failExecution registry now group index worker testCase testType taskId error).2 := by
  have positive := accounted.unfinished_pos found held
  simp only [Orchestrator.failExecution, failTest]
  split
  · refine ⟨[], accounted.release found held rfl [testCase] [] ?_ ?_ ?_ ?_ (by simp)⟩
    · simp
    · simp [AsyncQueue.taskDone]
    · simp [AsyncQueue.taskDone]
    · simp
  · cases built : allAgentsFailed _ now testCase error with
    | ok failedResult =>
        have tested : failedResult.testCase = some testCase :=
          TestExecutionResult.error_testCase built
        refine ⟨[], accounted.release found held rfl [] [] ?_ ?_ ?_ ?_ (by simp)⟩
        · simp
        · simp [AsyncQueue.taskDone_of_pos positive]
        · simp only [AsyncQueue.taskDone_of_pos positive, Option.getD_some, List.length_nil]
          omega
        · simp [tested]
    | error failure =>
        have keyless : testCase.key = none := by
          by_contra keyed
          obtain ⟨result, isResult⟩ := TestExecutionResult.error_isOk keyed _ _ _ _
          rw [allAgentsFailed, isResult] at built
          cases built
        refine ⟨[testCase], accounted.release found held rfl [] [testCase] ?_ ?_ ?_ ?_ ?_⟩
        · simp
        · exact id
        · rfl
        · simp
        · simpa using keyless

/-- A returned execution reports its test, and the worker goes on. -/
theorem Accounted.collectResult (accounted : Accounted testCases lost group)
    (found : group.workers[index]? = some worker) {testCase : TestCase}
    (held : worker.phase.heldTest = some testCase) (registry : AgentRegistry) (now : Instant)
    {result : TestExecutionResult} (tested : result.testCase = some testCase)
    (nextTaskId : TaskId) :
    Accounted testCases lost
      (collectResult registry now group index worker result nextTaskId) := by
  have positive := accounted.unfinished_pos found held
  have inside := (List.getElem?_eq_some_iff.mp found).1
  simp only [Orchestrator.collectResult, AsyncQueue.taskDone_of_pos positive]
  -- The test is reported first, and the next turn of the loop then takes from the queue.
  have reported : Accounted testCases (lost ++ [])
      ({ group with
          queue := ⟨group.queue.items, group.queue.unfinished - 1⟩
          results := group.results ++ [result] }.setPhase index worker .sleeping) := by
    refine accounted.release found held rfl [] [] ?_ id ?_ ?_ (by simp)
    · simp [queuedTests]
    · simp only [List.length_nil]
      omega
    · simp [tested]
  rw [List.append_nil] at reported
  have foundAgain : (group.workers.set index { worker with phase := .sleeping })[index]? =
      some { worker with phase := .sleeping } := List.getElem?_set_self inside
  have continued := reported.take foundAgain rfl
    (workerLoop_taken registry now nextTaskId worker.agentId
      ⟨group.queue.items, group.queue.unfinished - 1⟩)
  rw [advance_setPhase] at continued
  exact continued

end Moves

/-! ## Steps of a group -/

theorem heldTest_eq_none_of_atTop {phase : WorkerPhase}
    (atTop : phase = .created ∨ phase = .sleeping) : phase.heldTest = none := by
  rcases atTop with rfl | rfl <;> rfl

/-- No sentinel is a test. -/
theorem queuedTests_putAll_none (queue : TestQueue) (workers : List Worker) :
    queuedTests (queue.putAll (workers.map fun _ => none)) = queuedTests queue := by
  simp [queuedTests, AsyncQueue.putAll_eq]

/-- **The ledger balances after every step**, up to tests without a key. -/
theorem Accounted.step {testCases lost : List TestCase} {group next : TestGroup}
    (accounted : Accounted testCases lost group) {registry : AgentRegistry} {now : Instant}
    {event : GroupEvent} {effects : List Effect}
    (stepped : group.Stepped registry now event effects next) :
    ∃ gone, Accounted testCases (lost ++ gone) next := by
  cases stepped with
  | looped found atTop =>
      have free := heldTest_eq_none_of_atTop atTop
      exact ⟨[], (List.append_nil lost).symm ▸
        accounted.take found free (workerLoop_taken registry now _ _ _)⟩
  | took found waiting ready =>
      have free : _ = none := congrArg WorkerPhase.heldTest waiting
      exact ⟨[], (List.append_nil lost).symm ▸
        accounted.take found free (takeItem_taken now _ _)⟩
  | answered found sending valid =>
      have same := (congrArg WorkerPhase.heldTest sending).symm
      exact ⟨[], (List.append_nil lost).symm ▸ accounted.keep found same⟩
  | sendFailed found sending raised =>
      have held := congrArg WorkerPhase.heldTest sending
      exact accounted.failExecution found held registry now _ _ _
  | collected found extracting returned =>
      have held := congrArg WorkerPhase.heldTest extracting
      have tested := extractedSingleTest_testCase returned
      exact ⟨[], (List.append_nil lost).symm ▸
        accounted.collectResult found held registry now tested _⟩
  | extractionFailed found extracting raised =>
      have held := congrArg WorkerPhase.heldTest extracting
      exact accounted.failExecution found held registry now _ _ _
  | joined joining finished =>
      have counted := accounted.counted joining
      have noQueued : queuedTests group.queue = [] := List.eq_nil_of_length_eq_zero (by omega)
      have noHeld : heldTests group.workers = [] := List.eq_nil_of_length_eq_zero (by omega)
      have noneLost : lost = [] := List.eq_nil_of_length_eq_zero (by omega)
      refine ⟨[], ?_⟩
      rw [List.append_nil]
      refine ⟨accounted.lostKeyless, ?_, nofun, nofun, ?_⟩
      · rw [TestGroup.ledger, queuedTests_putAll_none]
        exact accounted.balance
      · intro _
        rw [queuedTests_putAll_none]
        exact ⟨noQueued, noHeld, noneLost⟩
  | gathered gathering left =>
      have drained := accounted.drained (by rw [gathering]; decide)
      refine ⟨[], ?_⟩
      rw [List.append_nil]
      exact ⟨accounted.lostKeyless, accounted.balance, nofun, nofun, fun _ => drained⟩

end QuAIA.Orchestrator
