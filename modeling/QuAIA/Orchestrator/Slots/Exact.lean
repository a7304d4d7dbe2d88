import QuAIA.Orchestrator.Slots.Simulation

/-!
Contract: exact slot accounting of the dispatch and recovery core.

Owns: the events of the core, the invariant of its runs, and what the slots and
the status of a registered agent say in every state reached.

A broken agent need not have a recovery entry: its entry can have been given up,
or have been recovered while another task still holds a slot.
-/

set_option autoImplicit false

namespace QuAIA.Orchestrator

open QuAIA.Common
open QuAIA.Library

/-- Events of the dispatch and recovery core: no test workers, no exception in the
recovery worker, and cards with an interface. -/
def SystemEvent.Core (event : SystemEvent) : Prop :=
  match event.action with
  | .discovered _ card => card.supportedInterfaces ≠ []
  | .recovery recoveryEvent => recoveryEvent ≠ .raised
  | .startGroup _ _ _ => False
  | .group _ _ => False
  | _ => True

instance : DecidablePred SystemEvent.Core
  | ⟨_, .discovered _ card⟩ => inferInstanceAs (Decidable (card.supportedInterfaces ≠ []))
  | ⟨_, .recovery recoveryEvent⟩ => inferInstanceAs (Decidable (recoveryEvent ≠ .raised))
  | ⟨_, .startGroup _ _ _⟩ => instDecidableFalse
  | ⟨_, .group _ _⟩ => instDecidableFalse
  | ⟨_, .beginTask _ _⟩ => instDecidableTrue
  | ⟨_, .task _ _⟩ => instDecidableTrue
  | ⟨_, .healthCheck⟩ => instDecidableTrue
  | ⟨_, .check _ _⟩ => instDecidableTrue

/-- The invariant of core runs. -/
structure System.CoreInvariant (config : OrchestratorConfig) (system : System) : Prop where
  consistent : system.shared.registry.Consistent
  interfaces : ∀ agentId card, system.shared.registry.getCard agentId = some card →
    card.supportedInterfaces ≠ []
  cardInHand : ∀ card ∈ system.recovery.phase.card, card.supportedInterfaces ≠ []
  exact : ∀ agentId, (system.account agentId).Exact config.maxSlotsPerAgent

theorem System.coreInvariant_initial (config : OrchestratorConfig) :
    System.initial.CoreInvariant config where
  consistent := AgentRegistry.consistent_empty
  interfaces := nofun
  cardInHand := nofun
  exact agentId := by
    rw [System.account_initial]
    exact {
      unknown := fun _ => ⟨rfl, rfl⟩
      capped := Int.natCast_nonneg _
      balance := rfl
      noCrash := rfl
      probedOnce := Nat.zero_le _
      probed := fun probed => absurd probed (Nat.lt_irrefl 0)
      idle := fun _ => rfl
      broken := nofun }

/-- In a core run nothing faults. -/
theorem System.CoreInvariant.faultless {config : OrchestratorConfig} {system : System}
    (invariant : system.CoreInvariant config) {event : SystemEvent} (core : event.Core) :
    ¬system.Fault event.action := by
  intro fault
  obtain ⟨now, action⟩ := event
  cases action with
  | recovery recoveryEvent =>
      rcases fault with raised | ⟨agentId, card, known, noInterface⟩ |
        ⟨card, inHand, noInterface⟩
      · exact core raised
      · exact invariant.interfaces agentId card known noInterface
      · exact invariant.cardInHand card inHand noInterface
  | group index groupEvent => exact core
  | discovered agentId card => exact fault
  | beginTask taskId taskDescription => exact fault
  | task taskId taskEvent => exact fault
  | healthCheck => exact fault
  | check index checkEvent => exact fault
  | startGroup testType testCases agentIds => exact fault

/-- Cards are only added by discovery. -/
theorem System.getCard_step {config : OrchestratorConfig} {now : Instant}
    {system next : System} {action : SystemAction}
    (stepped : system.Stepped config now action next) (agentId : AgentId) (card : AgentCard)
    (known : next.shared.registry.getCard agentId = some card) :
    system.shared.registry.getCard agentId = some card ∨ action = .discovered agentId card := by
  cases stepped with
  | discovered fresh =>
      rw [AgentRegistry.getCard_register] at known
      split at known
      · rename_i same
        rw [Option.some.injEq] at known
        exact Or.inr (by rw [same, known])
      · exact Or.inl known
  | task found segment =>
      rw [AgentRegistry.getCard, Shared.applyAll_cards] at known
      exact Or.inl known
  | recovery moved =>
      rcases moved.registry_cases with same | ⟨agentId, status, reason, updated⟩
      · rw [same] at known
        exact Or.inl known
      · rw [updated, AgentRegistry.getCard, Shared.apply_cards] at known
        exact Or.inl known
  | check does =>
      rw [AgentRegistry.getCard, Shared.applyAll_cards] at known
      exact Or.inl known
  | group found delivers stepped begins =>
      rw [AgentRegistry.getCard, Shared.applyAll_cards] at known
      exact Or.inl known
  | groupBegan found delivers stepped begins fresh =>
      rw [AgentRegistry.getCard, Shared.applyAll_cards] at known
      exact Or.inl known
  | began fresh => exact Or.inl known
  | healthCheck => exact Or.inl known
  | startGroup started => exact Or.inl known

/-- A card in the recovery worker's hand was in its hand before, or comes from the
registry. -/
theorem System.cardInHand_step {config : OrchestratorConfig} {now : Instant}
    {system next : System} {action : SystemAction}
    (stepped : system.Stepped config now action next) (card : AgentCard)
    (inHand : card ∈ next.recovery.phase.card) :
    card ∈ system.recovery.phase.card ∨
      ∃ agentId, system.shared.registry.getCard agentId = some card := by
  cases stepped with
  | recovery moved =>
      cases moved with
      | took free queued held cardOf =>
          obtain ⟨agentId, -, known⟩ := Option.bind_eq_some_iff.mp (cardOf card inHand)
          exact Or.inr ⟨agentId, known⟩
      | kept same cardless =>
          rw [cardless] at inHand
          cases inHand
      | gaveUp free queued => exact Or.inl inHand
      | skipped free queued unknown => exact Or.inl inHand
      | tookUnreachable free queued known noInterface => cases inHand
      | lostContact held => cases inHand
      | recovered held succeeds => cases inHand
      | dropped held fault => cases inHand
      | requeued held => cases inHand
  | _ => exact Or.inl inHand

theorem System.coreInvariant_step (config : OrchestratorConfig) (system : System)
    (event : SystemEvent) (next : System) (invariant : system.CoreInvariant config)
    (core : event.Core) (step : system.step config event = some next) :
    next.CoreInvariant config := by
  have stepped := System.stepped_of_step step
  refine ⟨System.consistent_step invariant.consistent stepped, ?_, ?_, ?_⟩
  · intro agentId card known
    rcases System.getCard_step stepped agentId card known with before | discovered
    · exact invariant.interfaces agentId card before
    · unfold SystemEvent.Core at core
      rw [discovered] at core
      exact core
  · intro card inHand
    rcases System.cardInHand_step stepped card inHand with before | ⟨agentId, known⟩
    · exact invariant.cardInHand card before
    · exact invariant.interfaces agentId card known
  · intro agentId
    have moved : (system.account agentId).Move config.maxSlotsPerAgent (fun _ => True) False
        (next.account agentId) := by
      apply System.account_moves invariant.consistent stepped
      · intro _ _ _ _ _ _ _
        trivial
      · exact invariant.faultless core
    exact (invariant.exact agentId).move moved

/-- **Exact slot accounting.** Wherever a core run ends, the busy slots of a
registered agent are its tasks in flight and the entries of failed tasks that
wait, are processed or were given up, within the limit; an available agent has
none; and a broken agent has an entry that waits or is processed, an entry that
was given up, or a task in flight. -/
theorem slots_account_for_tasks {config : OrchestratorConfig} {events : List SystemEvent}
    {final : System} (core : ∀ event ∈ events, event.Core)
    (ran : StepSystem.run (System.step config) System.initial events = some final)
    {agentId : AgentId} (registered : final.shared.registry.contains agentId = true) :
    final.shared.registry.slots agentId =
        inFlightOn final.sends agentId +
          entryCounts (pendingEntries final.shared final.recovery) agentId .failedTask +
          entryCounts final.recovery.givenUp agentId .failedTask ∧
      final.shared.registry.slots agentId ≤ config.maxSlotsPerAgent ∧
      (final.shared.registry.getStatus agentId = .available →
        final.shared.registry.slots agentId = 0) ∧
      (final.shared.registry.getStatus agentId = .broken →
        (∃ entry ∈ pendingEntries final.shared final.recovery,
            entry.agentId = some agentId) ∨
          (∃ entry ∈ final.recovery.givenUp, entry.agentId = some agentId) ∨
          0 < inFlightOn final.sends agentId) := by
  have invariant := StepSystem.invariant_along (System.coreInvariant_step config)
    (System.coreInvariant_initial config)
    (StepSystem.along_of_forall_event System.initial core) ran
  have exact := invariant.exact agentId
  refine ⟨exact.balance, exact.capped, exact.idle, ?_⟩
  intro isBroken
  rcases exact.broken registered isBroken with running | ⟨kind, waits⟩ | ⟨kind, gaveUp⟩
  · exact Or.inr (Or.inr running)
  · obtain ⟨entry, member, mine, -⟩ := exists_entry_of_entryCounts waits
    exact Or.inl ⟨entry, member, mine⟩
  · obtain ⟨entry, member, mine, -⟩ := exists_entry_of_entryCounts gaveUp
    exact Or.inr (Or.inl ⟨entry, member, mine⟩)

/-! ## Concrete runs -/

/-- Two tasks on one agent: the first times out and its entry is recovered while
the second is still in flight. -/
def recoveredBesideRunningTask : List SystemEvent :=
  [(SystemAction.discovered "agent" ⟨"Agent", ["Review"], ["http://agent"]⟩).atTime 0,
    (SystemAction.beginTask "task-1" "Review").atTime 1,
    (SystemAction.task "task-1" .lockAcquired).atTime 1,
    (SystemAction.task "task-1" (.selected (.ok "agent"))).atTime 2,
    (SystemAction.beginTask "task-2" "Review").atTime 3,
    (SystemAction.task "task-2" .lockAcquired).atTime 3,
    (SystemAction.task "task-2" (.selected (.ok "agent"))).atTime 4,
    (SystemAction.task "task-1" .clientCreated).atTime 5,
    (SystemAction.task "task-1" .timedOut).atTime 7205,
    (SystemAction.recovery .taken).atTime 7206,
    (SystemAction.recovery (.fetched true)).atTime 7207]

/-- The health check finds the agent unreachable, and the recovery worker gives it
up a day later. -/
def unreachableGivenUp : List SystemEvent :=
  [(SystemAction.discovered "agent" ⟨"Agent", ["Review"], ["http://agent"]⟩).atTime 0,
    SystemAction.healthCheck.atTime 60,
    (SystemAction.check 0 .started).atTime 60,
    (SystemAction.check 0 (.probed false)).atTime 70,
    (SystemAction.recovery .taken).atTime 70,
    (SystemAction.recovery (.fetched false)).atTime 80,
    (SystemAction.recovery .slept).atTime 86471,
    (SystemAction.recovery .taken).atTime 86471]

theorem slots_account_for_running_task :
    ∃ final ∈ StepSystem.run (System.step .default) System.initial recoveredBesideRunningTask,
      final.shared.registry.slots "agent" =
        inFlightOn final.sends "agent" +
          entryCounts (pendingEntries final.shared final.recovery) "agent" .failedTask +
          entryCounts final.recovery.givenUp "agent" .failedTask := by
  have ends : ∃ final ∈ StepSystem.run (System.step .default) System.initial
      recoveredBesideRunningTask, final.shared.registry.contains "agent" = true := by
    decide
  obtain ⟨final, ran, registered⟩ := ends
  have core : ∀ event ∈ recoveredBesideRunningTask, event.Core := by decide
  exact ⟨final, ran, (slots_account_for_tasks core ran registered).1⟩

/-- Two core runs that end with a broken agent and no recovery entry that waits or
is processed: after one the agent was given up, after the other a task is in
flight. -/
theorem broken_without_pending_entry :
    (∀ event ∈ unreachableGivenUp ++ recoveredBesideRunningTask, event.Core) ∧
      (∃ final ∈ StepSystem.run (System.step .default) System.initial unreachableGivenUp,
        final.shared.registry.contains "agent" = true ∧
          final.shared.registry.getStatus "agent" = .broken ∧
          pendingEntries final.shared final.recovery = [] ∧
          inFlightOn final.sends "agent" = 0) ∧
      ∃ final ∈ StepSystem.run (System.step .default) System.initial recoveredBesideRunningTask,
        final.shared.registry.contains "agent" = true ∧
          final.shared.registry.getStatus "agent" = .broken ∧
          pendingEntries final.shared final.recovery = [] ∧ final.recovery.givenUp = [] := by
  decide

end QuAIA.Orchestrator
