import QuAIA.Orchestrator.BrokenContext

/-!
Contract: the representation of the registry over every sequence of calls.

Owns: how the keys of the six maps relate; what the slot count, the reason and the stuck task
of an agent can be in each status; and that every call keeps this, if a current task is set for
registered agents only.

Does not own: that what is reported of a broken agent is what was given.
-/

set_option autoImplicit false

namespace QuAIA.Orchestrator.AgentRegistry

open QuAIA.Library

/-- The six parallel maps as one record: an agent has a status and a slot count exactly if it has
a card, and a reason, a stuck task or running tasks only then. -/
structure Represented (registry : AgentRegistry) : Prop where
  statusKeys : ∀ agentId, agentId ∈ registry.statuses.keys ↔ agentId ∈ registry.cards.keys
  slotKeys : ∀ agentId, agentId ∈ registry.busySlots.keys ↔ agentId ∈ registry.cards.keys
  reasonKeys : registry.brokenReasons.keys ⊆ registry.cards.keys
  stuckKeys : registry.stuckTaskIds.keys ⊆ registry.cards.keys
  taskKeys : registry.currentTasks.keys ⊆ registry.cards.keys
  slotsNonneg : ∀ agentId slots, registry.busySlots.get? agentId = some slots → 0 ≤ slots
  available : ∀ agentId, registry.statuses.get? agentId = some .available →
    registry.busySlots.get? agentId = some 0 ∧
      registry.brokenReasons.get? agentId = none ∧ registry.stuckTaskIds.get? agentId = none
  busy : ∀ agentId, registry.statuses.get? agentId = some .busy →
    ∃ slots, registry.busySlots.get? agentId = some slots ∧ 0 < slots

def callStep (registry : AgentRegistry) (registryCall : Call) : Option AgentRegistry :=
  some (registry.call registryCall)

/-- A current task is set or cleared for a registered agent only. -/
def TracksRegistered (registry : AgentRegistry) : Call → Prop
  | .setCurrentTask agentId _ => registry.contains agentId = true
  | _ => True

instance (registry : AgentRegistry) : DecidablePred (TracksRegistered registry)
  | .setCurrentTask agentId _ => inferInstanceAs (Decidable (registry.contains agentId = true))
  | .register _ _ => instDecidableTrue
  | .updateStatus _ _ _ _ => instDecidableTrue
  | .remove _ => instDecidableTrue

/-! ## The invariant -/

/-- The maps agree; what is not registered has no context and no running tasks; what is available
has no context. -/
structure Contained (registry : AgentRegistry) : Prop where
  consistent : registry.Consistent
  context : ∀ agentId, registry.contains agentId = false →
    registry.getBrokenContext agentId = (none, none)
  tasks : ∀ agentId, registry.contains agentId = false →
    registry.currentTasks.contains agentId = false
  available : ∀ agentId, registry.getStatus agentId = .available →
    registry.getBrokenContext agentId = (none, none)

theorem contained_empty : empty.Contained where
  consistent := consistent_empty
  context _ _ := rfl
  tasks _ _ := rfl
  available _ _ := rfl

section Calls

variable {registry : AgentRegistry} (contained : registry.Contained)

include contained

theorem Contained.register (agentId : AgentId) (card : AgentCard) :
    (registry.register agentId card).Contained where
  consistent := contained.consistent.register agentId card
  context other absent := by
    rw [contains_register, Bool.or_eq_false_iff] at absent
    rw [getBrokenContext_register]
    exact contained.context other absent.2
  tasks other absent := by
    have sameTasks : (registry.register agentId card).currentTasks = registry.currentTasks := by
      unfold AgentRegistry.register
      dsimp only
      split <;> rfl
    rw [contains_register, Bool.or_eq_false_iff] at absent
    rw [sameTasks]
    exact contained.tasks other absent.2
  available other isAvailable := by
    rw [contained.consistent.getStatus_register] at isAvailable
    rw [getBrokenContext_register]
    split at isAvailable
    · rename_i fresh
      exact contained.context other (fresh.1 ▸ fresh.2)
    · exact contained.available other isAvailable

/-- No update adds an agent to the running tasks. -/
theorem Contained.tasks_updateStatus (agentId : AgentId) (status : AgentStatus)
    (brokenReason : Option BrokenReason) (stuckTaskId : Option String) (other : AgentId)
    (absent : registry.contains other = false) :
    (registry.updateStatus agentId status brokenReason stuckTaskId).currentTasks.contains other =
      false := by
  have noTasks := contained.tasks other absent
  unfold AgentRegistry.updateStatus
  split
  · cases status with
    | busy => exact noTasks
    | available =>
        dsimp only
        split
        · rw [Dict.contains_pop, noTasks, Bool.and_false]
        · exact noTasks
    | broken =>
        obtain ⟨_, _, same⟩ := recordBroken_eq
          { registry with statuses := registry.statuses.set agentId .broken } agentId brokenReason
          stuckTaskId
        rw [same]
        exact noTasks
  · exact noTasks

theorem Contained.updateStatus (agentId : AgentId) (status : AgentStatus)
    (brokenReason : Option BrokenReason) (stuckTaskId : Option String) :
    (registry.updateStatus agentId status brokenReason stuckTaskId).Contained where
  consistent := contained.consistent.updateStatus agentId status brokenReason stuckTaskId
  context other absent := by
    rw [contains_updateStatus] at absent
    have unnamed : ¬(other = agentId ∧ registry.contains agentId = true) := by
      intro named
      rw [← named.1, absent] at named
      cases named.2
    rw [getBrokenContext_updateStatus, if_neg unnamed]
    exact contained.context other absent
  tasks other absent := by
    rw [contains_updateStatus] at absent
    exact contained.tasks_updateStatus agentId status brokenReason stuckTaskId other absent
  available other isAvailable := by
    rw [getStatus_updateStatus] at isAvailable
    rw [getBrokenContext_updateStatus]
    split at isAvailable
    · rename_i named
      rw [if_pos named]
      -- Only a release that leaves no slot taken ends available, and it clears the context.
      cases status with
      | busy => cases isAvailable
      | available =>
          simp only [statusAfter] at isAvailable
          simp only [contextAfter]
          split at isAvailable
          · rename_i drained
            rw [if_pos drained]
          · rename_i taken
            rw [if_neg taken]
            exact contained.available other isAvailable
      | broken => cases isAvailable
    · rename_i unnamed
      rw [if_neg unnamed]
      exact contained.available other isAvailable

theorem Contained.setCurrentTask {agentId : AgentId} (known : registry.contains agentId = true)
    (taskId : Option String) : (registry.setCurrentTask agentId taskId).Contained where
  consistent := contained.consistent.setCurrentTask agentId taskId
  context other absent := by
    rw [contains_setCurrentTask] at absent
    rw [getBrokenContext_setCurrentTask]
    exact contained.context other absent
  tasks other absent := by
    rw [contains_setCurrentTask] at absent
    have noTasks := contained.tasks other absent
    have different : other ≠ agentId := by
      rintro rfl
      rw [known] at absent
      cases absent
    unfold AgentRegistry.setCurrentTask
    split
    · simp [Dict.contains_pop, noTasks]
    · split
      · simp [Dict.contains_pop, noTasks]
      · simp [Dict.contains_set, noTasks, different]
  available other isAvailable := by
    rw [getStatus_setCurrentTask] at isAvailable
    rw [getBrokenContext_setCurrentTask]
    exact contained.available other isAvailable

theorem Contained.remove (agentId : AgentId) : (registry.remove agentId).Contained where
  consistent := contained.consistent.remove agentId
  context other absent := by
    rw [getBrokenContext_remove]
    split
    · rfl
    · rename_i kept
      rw [contains_call_remove, decide_eq_true kept, Bool.true_and] at absent
      exact contained.context other absent
  tasks other absent := by
    simp only [AgentRegistry.remove, Dict.contains_pop]
    by_cases same : other = agentId
    · simp [same]
    · rw [contains_call_remove, decide_eq_true same, Bool.true_and] at absent
      rw [contained.tasks other absent, Bool.and_false]
  available other isAvailable := by
    rw [getBrokenContext_remove]
    split
    · rfl
    · rename_i kept
      simp only [getStatus, AgentRegistry.remove, Dict.getD, Dict.get?_pop, if_neg kept]
        at isAvailable
      exact contained.available other isAvailable

theorem Contained.call {registryCall : Call} (tracks : TracksRegistered registry registryCall) :
    (registry.call registryCall).Contained := by
  cases registryCall with
  | register agentId card => exact contained.register agentId card
  | updateStatus agentId status brokenReason stuckTaskId =>
      exact contained.updateStatus agentId status brokenReason stuckTaskId
  | setCurrentTask agentId taskId => exact contained.setCurrentTask tracks taskId
  | remove agentId => exact contained.remove agentId

/-! ## What it says of the maps -/

theorem Contained.known_of_reason {agentId : AgentId}
    (hasReason : registry.brokenReasons.contains agentId = true) :
    registry.contains agentId = true := by
  by_contra unknown
  have noContext := contained.context agentId (Bool.eq_false_iff.mpr unknown)
  have noReason : registry.brokenReasons.get? agentId = none := congrArg Prod.fst noContext
  rw [Dict.contains, noReason] at hasReason
  cases hasReason

theorem Contained.known_of_stuck {agentId : AgentId}
    (hasStuck : registry.stuckTaskIds.contains agentId = true) :
    registry.contains agentId = true := by
  by_contra unknown
  have noContext := contained.context agentId (Bool.eq_false_iff.mpr unknown)
  have noStuck : registry.stuckTaskIds.get? agentId = none := congrArg Prod.snd noContext
  rw [Dict.contains, noStuck] at hasStuck
  cases hasStuck

/-- A registered agent has a slot count. -/
theorem Contained.stored_slots {agentId : AgentId} {status : AgentStatus}
    (stored : registry.statuses.get? agentId = some status) :
    registry.busySlots.get? agentId = some (registry.slots agentId) := by
  have hasStatus : registry.statuses.contains agentId = true := by rw [Dict.contains, stored]; rfl
  have hasSlots : registry.busySlots.contains agentId = true := by
    rw [contained.consistent.slotsKnown, ← contained.consistent.statusKnown, hasStatus]
  obtain ⟨slots, found⟩ := Option.isSome_iff_exists.mp hasSlots
  rw [AgentRegistry.slots, Dict.getD, found, Option.getD_some]

theorem Contained.represented : registry.Represented where
  statusKeys agentId := by
    rw [Dict.mem_keys_iff, Dict.mem_keys_iff, contained.consistent.statusKnown, contains]
  slotKeys agentId := by
    rw [Dict.mem_keys_iff, Dict.mem_keys_iff, contained.consistent.slotsKnown, contains]
  reasonKeys agentId member := by
    rw [Dict.mem_keys_iff] at member ⊢
    exact contained.known_of_reason member
  stuckKeys agentId member := by
    rw [Dict.mem_keys_iff] at member ⊢
    exact contained.known_of_stuck member
  taskKeys agentId member := by
    rw [Dict.mem_keys_iff] at member ⊢
    by_contra unknown
    have noTasks := contained.tasks agentId (Bool.eq_false_iff.mpr unknown)
    rw [member] at noTasks
    cases noTasks
  slotsNonneg agentId slots found := by
    have nonneg := contained.consistent.slotsNonneg agentId
    rwa [AgentRegistry.slots, Dict.getD, found, Option.getD_some] at nonneg
  available agentId stored := by
    have isAvailable : registry.getStatus agentId = .available := by
      rw [getStatus, Dict.getD, stored, Option.getD_some]
    have noContext := contained.available agentId isAvailable
    refine ⟨?_, congrArg Prod.fst noContext, congrArg Prod.snd noContext⟩
    rw [contained.stored_slots stored, contained.consistent.slotsOfAvailable agentId isAvailable]
  busy agentId stored := by
    have isBusy : registry.getStatus agentId = .busy := by
      rw [getStatus, Dict.getD, stored, Option.getD_some]
    exact ⟨_, contained.stored_slots stored, contained.consistent.slotsOfBusy agentId isBusy⟩

end Calls

/-- **Registry representation.** In every state of every sequence of calls that sets a current
task for registered agents only, the six maps agree. -/
theorem represented_throughout {calls : List Call}
    (tracks : StepSystem.Along callStep TracksRegistered empty calls) :
    StepSystem.Throughout callStep Represented empty calls := by
  have contained : StepSystem.Throughout callStep Contained empty calls := by
    refine StepSystem.throughout_of_along ?_ contained_empty tracks
    intro registry registryCall next here tracksHere step
    cases step
    exact here.call tracksHere
  exact StepSystem.throughout_mono (fun _ here => here.represented) contained

/-- An agent is removed while a task is stuck on it, and registered again. -/
theorem represented_reregistered :
    StepSystem.Throughout callStep Represented empty
      [.register "agent" ⟨"Reviewer", [], []⟩, .updateStatus "agent" .busy none none,
        .setCurrentTask "agent" (some "task-1"),
        .updateStatus "agent" .broken (some .taskStuck) (some "task-1"), .remove "agent",
        .register "agent" ⟨"Reviewer", [], []⟩] :=
  represented_throughout (by decide)

end QuAIA.Orchestrator.AgentRegistry
