import QuAIA.Orchestrator.Slots.Exact

/-!
Contract: what becomes of an agent that the recovery worker declares recovered.

Owns: the agent whose entry a segment of the worker consumes as recovered; what makes an agent
usable again; and the equivalence of the two with a bound on the slots taken, over every run of
the orchestrator.

The worker drops the entry in the same segment, so nothing but the end of the other tasks on the
agent changes its status afterwards.
-/

set_option autoImplicit false

namespace QuAIA.Orchestrator

open QuAIA.Library

/-- The agent has the status that its slots ask for, and is offered while one of them is free. -/
def AgentRegistry.UsableAgain (registry : AgentRegistry) (agentId : AgentId) : Prop :=
  registry.getStatus agentId = (if registry.slots agentId = 0 then .available else .busy) ∧
    ∀ maxSlots : Nat, registry.slots agentId < maxSlots →
      agentId ∈ registry.getAvailableAgents maxSlots

/-- A broken agent. An unknown one only reads as broken. -/
def AgentRegistry.IsBroken (registry : AgentRegistry) (agentId : AgentId) : Prop :=
  registry.contains agentId = true ∧ registry.getStatus agentId = .broken

instance (registry : AgentRegistry) : DecidablePred registry.IsBroken := fun agentId =>
  inferInstanceAs
    (Decidable (registry.contains agentId = true ∧ registry.getStatus agentId = .broken))

/-- The agent of the entry that a segment of the worker consumes as recovered. -/
def RecoveryWorker.recovers (worker : RecoveryWorker) : RecoveryEvent → Option AgentId
  | .cancelled true =>
      match worker.phase with
      | .cancelling entry _ _ => entry.agentId
      | _ => none
  | .fetched true =>
      match worker.phase with
      | .fetching entry _ => entry.agentId
      | _ => none
  | _ => none

def System.recovers (system : System) (event : SystemEvent) : Option AgentId :=
  match event.action with
  | .recovery recoveryEvent => system.recovery.recovers recoveryEvent
  | _ => none

/-- A broken agent that is declared recovered is usable again. -/
def System.RecoversUsable (config : OrchestratorConfig) (system : System) (event : SystemEvent) :
    Prop :=
  ∀ agentId ∈ system.recovers event, system.shared.registry.IsBroken agentId →
    ∀ next ∈ system.step config event, next.shared.registry.UsableAgain agentId

/-- A broken agent is declared recovered while at most one of its slots is taken. -/
def System.RecoversLastSlot (system : System) (event : SystemEvent) : Prop :=
  ∀ agentId ∈ system.recovers event, system.shared.registry.IsBroken agentId →
    system.shared.registry.slots agentId ≤ 1

/-! ## One release -/

/-- A release of a broken agent makes it usable again exactly if it was the last one. -/
theorem AgentRegistry.usableAgain_release_iff {registry : AgentRegistry} {agentId : AgentId}
    (isBroken : registry.IsBroken agentId) :
    (registry.updateStatus agentId .available none none).UsableAgain agentId ↔
      registry.slots agentId ≤ 1 := by
  obtain ⟨known, reads⟩ := isBroken
  have slots : (registry.updateStatus agentId .available none none).slots agentId =
      max 0 (registry.slots agentId - 1) := by
    rw [slots_updateStatus, if_pos ⟨rfl, known⟩, slotsAfter]
  have status : (registry.updateStatus agentId .available none none).getStatus agentId =
      if max 0 (registry.slots agentId - 1) = 0 then .available else .broken := by
    rw [getStatus_updateStatus, if_pos ⟨rfl, known⟩, statusAfter, slotsAfter, reads]
  constructor
  · rintro ⟨matchesSlots, -⟩
    by_contra more
    have taken : max 0 (registry.slots agentId - 1) ≠ 0 := by omega
    rw [status, slots, if_neg taken, if_neg taken] at matchesSlots
    cases matchesSlots
  · intro atMostOne
    have drained : max 0 (registry.slots agentId - 1) = 0 := by omega
    rw [drained] at slots
    rw [if_pos drained] at status
    constructor
    · rw [status, slots, if_pos rfl]
    · intro maxSlots free
      rw [mem_getAvailableAgents, status, contains_updateStatus]
      exact ⟨by decide, known, free⟩

/-- The segment that declares an agent recovered releases one slot of it. -/
theorem System.step_of_recovers (config : OrchestratorConfig) {system : System}
    {event : SystemEvent} {agentId : AgentId} (recovers : agentId ∈ system.recovers event) :
    ∃ next, system.step config event = some next ∧
      next.shared.registry = system.shared.registry.updateStatus agentId .available none none := by
  obtain ⟨now, action⟩ := event
  cases action with
  | recovery recoveryEvent =>
      have released : system.recovery.step system.shared now recoveryEvent =
          some (system.shared.apply (.updateStatus (some agentId) .available none none),
            { system.recovery with phase := .waiting }) := by
        simp only [System.recovers, RecoveryWorker.recovers] at recovers
        split at recovers
        · split at recovers
          · rename_i cancelling
            simp only [Option.mem_def] at recovers
            simp only [RecoveryWorker.step, cancelling, if_true, recovered, recovers]
          · cases recovers
        · split at recovers
          · rename_i fetching
            simp only [Option.mem_def] at recovers
            simp only [RecoveryWorker.step, fetching, if_true, recovered, recovers]
          · cases recovers
        · cases recovers
      refine ⟨{ system with
        shared := system.shared.apply (.updateStatus (some agentId) .available none none)
        recovery := { system.recovery with phase := .waiting } }, ?_, rfl⟩
      simp only [System.step, System.recover, released, Option.bind_eq_bind, Option.bind_some,
        Option.pure_def]
  | _ => cases recovers

/-! ## Over a run -/

theorem System.recoversUsable_iff (config : OrchestratorConfig) (system : System)
    (event : SystemEvent) :
    system.RecoversUsable config event ↔ system.RecoversLastSlot event := by
  unfold System.RecoversUsable System.RecoversLastSlot
  refine forall_congr' fun agentId => forall_congr' fun recovers => forall_congr' fun isBroken => ?_
  obtain ⟨next, step, released⟩ := System.step_of_recovers config recovers
  rw [← AgentRegistry.usableAgain_release_iff isBroken, ← released]
  constructor
  · intro every
    exact every next step
  · intro usable other otherStep
    rw [Option.mem_def, step, Option.some.injEq] at otherStep
    exact otherStep ▸ usable

/-- **Recovered agents.** Along every run, broken agents are usable again whenever they are
declared recovered, exactly if at most one of their slots is taken whenever that happens. -/
theorem recoversUsable_iff_lastSlot (config : OrchestratorConfig) (start : System)
    (events : List SystemEvent) :
    StepSystem.Along (System.step config) (System.RecoversUsable config) start events ↔
      StepSystem.Along (System.step config) System.RecoversLastSlot start events :=
  StepSystem.along_congr (System.recoversUsable_iff config) start events

/-- The agent of the first task is declared recovered beside the second one, and stays broken. -/
theorem recoveredBesideRunningTask_unusable :
    ¬∀ (config : OrchestratorConfig) (events : List SystemEvent),
      StepSystem.Along (System.step config) (System.RecoversUsable config) System.initial
        events := by
  intro usable
  have ends : ∃ before ∈ StepSystem.run (System.step .default) System.initial
        recoveredBesideRunningTask.dropLast,
      "agent" ∈ before.recovers ((SystemAction.recovery (.fetched true)).atTime 7207) ∧
        before.shared.registry.IsBroken "agent" ∧
        ∃ next ∈ before.step .default ((SystemAction.recovery (.fetched true)).atTime 7207),
          next.shared.registry.getStatus "agent" = .broken ∧
            next.shared.registry.slots "agent" = 1 := by
    decide
  obtain ⟨before, ran, recovers, isBroken, next, step, stillBroken, slots⟩ := ends
  have along : StepSystem.Along (System.step .default) (System.RecoversUsable .default)
      System.initial (recoveredBesideRunningTask.dropLast ++
        [(SystemAction.recovery (.fetched true)).atTime 7207]) := usable .default _
  obtain ⟨status, -⟩ := StepSystem.along_at along ran "agent" recovers isBroken next step
  rw [stillBroken, slots] at status
  cases status

end QuAIA.Orchestrator
