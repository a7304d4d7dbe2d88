import QuAIA.Orchestrator.Slots.Simulation

/-!
Contract: whether the slots of an agent cover the tasks in flight on it.

Owns: the releases for entries that stand for no slot, the condition under which
they touch no other task's slot, and the bound along every run whose releases
meet it.

A test worker whose execution raised puts an entry of its own beside the one of
the failed task, so one slot can be released twice.
-/

set_option autoImplicit false

namespace QuAIA.Orchestrator

open QuAIA.Common
open QuAIA.Library

/-- A release for an entry that stands for no slot finds a slot to release that no
running task and no failed one waiting for recovery stands for. -/
def System.CoversRelease (system : System) (event : SystemEvent) : Prop :=
  match event.action with
  | .recovery recoveryEvent =>
      recoveryEvent.releases = true → ∀ entry ∈ system.recovery.phase.entry,
        entry.kind ≠ .failedTask → ∀ agentId ∈ entry.agentId, (system.account agentId).Covered
  | _ => True

instance (system : System) : DecidablePred system.CoversRelease
  | ⟨_, .recovery recoveryEvent⟩ =>
      inferInstanceAs (Decidable (recoveryEvent.releases = true →
        ∀ entry ∈ system.recovery.phase.entry, entry.kind ≠ .failedTask →
          ∀ agentId ∈ entry.agentId, (system.account agentId).Covered))
  | ⟨_, .discovered _ _⟩ => instDecidableTrue
  | ⟨_, .beginTask _ _⟩ => instDecidableTrue
  | ⟨_, .task _ _⟩ => instDecidableTrue
  | ⟨_, .healthCheck⟩ => instDecidableTrue
  | ⟨_, .check _ _⟩ => instDecidableTrue
  | ⟨_, .startGroup _ _ _⟩ => instDecidableTrue
  | ⟨_, .group _ _⟩ => instDecidableTrue

/-- A state in which every running task of every agent has its slot. -/
def System.SlotsCoverTasks (config : OrchestratorConfig) (system : System) : Prop :=
  ∀ agentId, (inFlightOn system.sends agentId : Int) ≤ system.shared.registry.slots agentId ∧
    system.shared.registry.slots agentId ≤ config.maxSlotsPerAgent

/-- The invariant behind it: a consistent registry and bounded accounts. -/
structure System.SlotBound (config : OrchestratorConfig) (system : System) : Prop where
  consistent : system.shared.registry.Consistent
  bounded : ∀ agentId, (system.account agentId).Bounded config.maxSlotsPerAgent

theorem System.slotBound_initial (config : OrchestratorConfig) :
    System.initial.SlotBound config where
  consistent := AgentRegistry.consistent_empty
  bounded agentId := by
    rw [System.account_initial]
    exact ⟨fun _ => rfl, Int.natCast_nonneg _, le_refl _⟩

theorem System.slotBound_step (config : OrchestratorConfig) (system : System)
    (event : SystemEvent) (next : System) (bound : system.SlotBound config)
    (covers : system.CoversRelease event) (step : system.step config event = some next) :
    next.SlotBound config := by
  have stepped := System.stepped_of_step step
  refine ⟨System.consistent_step bound.consistent stepped, ?_⟩
  intro agentId
  have moved : (system.account agentId).Move config.maxSlotsPerAgent SlotAccount.Covered True
      (next.account agentId) := by
    apply System.account_moves bound.consistent stepped
    · intro recoveryEvent isRecovery releases entry held slotless mine
      unfold System.CoversRelease at covers
      rw [isRecovery] at covers
      exact covers releases entry held slotless agentId mine
    · intro _
      trivial
  exact (bound.bounded agentId).move moved

theorem System.SlotBound.coverTasks {config : OrchestratorConfig} {system : System}
    (bound : system.SlotBound config) : system.SlotsCoverTasks config := by
  intro agentId
  have room := (bound.bounded agentId).room
  have capped := (bound.bounded agentId).capped
  refine ⟨?_, capped⟩
  show ((system.account agentId).inFlight : Int) ≤ (system.account agentId).slots
  omega

/-- **No over-subscription.** In every state of a run whose slotless releases are
all covered, each agent has a slot for each task in flight on it, and no more
slots than allowed. -/
theorem slots_cover_tasks {config : OrchestratorConfig} {events : List SystemEvent}
    (covers : StepSystem.Along (System.step config) System.CoversRelease System.initial events) :
    StepSystem.Throughout (System.step config) (System.SlotsCoverTasks config) System.initial
      events := by
  have bounded := StepSystem.throughout_of_along (System.slotBound_step config)
    (System.slotBound_initial config) covers
  exact StepSystem.throughout_mono (fun _ bound => bound.coverTasks) bounded

/-! ## Concrete runs -/

/-- A test worker's task that is reserved on its agent. -/
def workerTaskReserved : List SystemEvent :=
  [(SystemAction.discovered "agent" ⟨"Agent", ["UI tests"], ["http://agent"]⟩).atTime 0,
    (SystemAction.startGroup "UI" [TestCase.named "T-1"] ["agent"]).atTime 1,
    (SystemAction.group 0 (.resume 0 "task-1")).atTime 1,
    (SystemAction.task "task-1" .lockAcquired).atTime 1,
    (SystemAction.task "task-1" (.selected (.ok "agent"))).atTime 2]

/-- That task times out, and the handler of its worker runs. -/
def workerTaskTimesOut : List SystemEvent :=
  [(SystemAction.task "task-1" .clientCreated).atTime 5,
    (SystemAction.task "task-1" .timedOut).atTime 7205,
    (SystemAction.task "task-1" (.closed none)).atTime 7206,
    (SystemAction.group 0 (.sent 0 (.error (.httpException 408
      ("Task 'Execution of test case T-1 (type: UI)' timed out while waiting for " ++
        "completion."))))).atTime 7206]

/-- The recovery worker finds the agent responsive for the task's entry, and again
for the entry of the test worker. -/
def bothEntriesRecovered : List SystemEvent :=
  [(SystemAction.recovery .taken).atTime 7207,
    (SystemAction.recovery (.fetched true)).atTime 7208,
    (SystemAction.recovery .taken).atTime 7209,
    (SystemAction.recovery (.fetched true)).atTime 7210]

/-- Without another task on the agent the second release finds no slot taken. -/
theorem slots_cover_tasks_workerTask :
    StepSystem.Throughout (System.step .default) (System.SlotsCoverTasks .default)
      System.initial (workerTaskReserved ++ workerTaskTimesOut ++ bothEntriesRecovered) :=
  slots_cover_tasks (by decide)

/-- With a second task on the agent, the one failure of the first task releases two
slots, and the second task is left without one. -/
theorem slot_released_twice :
    ∃ final ∈ StepSystem.run (System.step .default) System.initial
        (workerTaskReserved ++
          [(SystemAction.beginTask "task-2" "Review").atTime 3,
            (SystemAction.task "task-2" .lockAcquired).atTime 3,
            (SystemAction.task "task-2" (.selected (.ok "agent"))).atTime 4] ++
          workerTaskTimesOut ++ bothEntriesRecovered),
      ¬final.SlotsCoverTasks .default := by
  have ends : ∃ final ∈ StepSystem.run (System.step .default) System.initial
        (workerTaskReserved ++
          [(SystemAction.beginTask "task-2" "Review").atTime 3,
            (SystemAction.task "task-2" .lockAcquired).atTime 3,
            (SystemAction.task "task-2" (.selected (.ok "agent"))).atTime 4] ++
          workerTaskTimesOut ++ bothEntriesRecovered),
      inFlightOn final.sends "agent" = 1 ∧ final.shared.registry.slots "agent" = 0 := by
    decide
  obtain ⟨final, ran, running, noSlot⟩ := ends
  refine ⟨final, ran, ?_⟩
  intro covered
  have inFlight := (covered "agent").1
  rw [running, noSlot] at inFlight
  exact absurd inFlight (by decide)

end QuAIA.Orchestrator
