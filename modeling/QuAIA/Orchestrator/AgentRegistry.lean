import Mathlib.Algebra.Order.Group.Int
import QuAIA.Library.Dict

/-!
Contract: the registry of agent cards, statuses and occupied slots.

Owns: `AgentRegistry` and its operations; what each status update does to each
parallel map; and the representation invariant `Consistent` that every
operation keeps.

Every operation holds the registry's own lock and never awaits under it, so an
operation is one indivisible transformation of the registry.
-/

set_option autoImplicit false

namespace QuAIA.Orchestrator

open QuAIA.Library

abbrev AgentId := String

/-- The parts of an agent card that the orchestrator reads: its name, the
descriptions of its skills and the URLs of its interfaces, primary first. -/
structure AgentCard where
  name : String
  skills : List String
  supportedInterfaces : List String
deriving DecidableEq, Repr

inductive AgentStatus where
  | available
  | busy
  | broken
deriving DecidableEq, Repr

/-- Why an agent is broken: unreachable, or reachable with a stuck task. -/
inductive BrokenReason where
  | offline
  | taskStuck
deriving DecidableEq, Repr

structure AgentRegistry where
  cards : Dict AgentId AgentCard
  statuses : Dict AgentId AgentStatus
  brokenReasons : Dict AgentId BrokenReason
  stuckTaskIds : Dict AgentId String
  currentTasks : Dict AgentId (List String)
  busySlots : Dict AgentId Int
deriving DecidableEq, Repr

namespace AgentRegistry

def empty : AgentRegistry :=
  ⟨.empty, .empty, .empty, .empty, .empty, .empty⟩

/-! ## Operations -/

def getCard (registry : AgentRegistry) (agentId : AgentId) : Option AgentCard :=
  registry.cards.get? agentId

def getName (registry : AgentRegistry) (agentId : AgentId) : String :=
  match registry.cards.get? agentId with
  | some card => card.name
  | none => "Unknown"

def register (registry : AgentRegistry) (agentId : AgentId) (card : AgentCard) :
    AgentRegistry :=
  let registered := { registry with cards := registry.cards.set agentId card }
  if registry.statuses.contains agentId then registered
  else { registered with
    statuses := registry.statuses.set agentId .available
    busySlots := registry.busySlots.set agentId 0 }

/-- `_busy_slots.get(agent_id, 0)`. -/
def slots (registry : AgentRegistry) (agentId : AgentId) : Int :=
  registry.busySlots.getD agentId 0

/-- Store the reason, and with it the stuck task id when it is not empty. -/
def recordBroken (registry : AgentRegistry) (agentId : AgentId)
    (brokenReason : Option BrokenReason) (stuckTaskId : Option String) : AgentRegistry :=
  match brokenReason with
  | none => registry
  | some reason =>
      let reasoned :=
        { registry with brokenReasons := registry.brokenReasons.set agentId reason }
      match stuckTaskId with
      | none => reasoned
      | some taskId =>
          if taskId = "" then reasoned
          else { reasoned with stuckTaskIds := registry.stuckTaskIds.set agentId taskId }

def updateStatus (registry : AgentRegistry) (agentId : AgentId) (status : AgentStatus)
    (brokenReason : Option BrokenReason) (stuckTaskId : Option String) : AgentRegistry :=
  if registry.cards.contains agentId then
    match status with
    | .busy =>
        { registry with
          busySlots := registry.busySlots.set agentId (registry.slots agentId + 1)
          statuses := registry.statuses.set agentId .busy }
    | .available =>
        let slots := max 0 (registry.slots agentId - 1)
        let released := { registry with busySlots := registry.busySlots.set agentId slots }
        if slots = 0 then
          { released with
            statuses := registry.statuses.set agentId .available
            brokenReasons := registry.brokenReasons.pop agentId
            stuckTaskIds := registry.stuckTaskIds.pop agentId
            currentTasks := registry.currentTasks.pop agentId }
        else released
    | .broken =>
        recordBroken { registry with statuses := registry.statuses.set agentId .broken }
          agentId brokenReason stuckTaskId
  else registry

def setCurrentTask (registry : AgentRegistry) (agentId : AgentId) (taskId : Option String) :
    AgentRegistry :=
  match taskId with
  | none => { registry with currentTasks := registry.currentTasks.pop agentId }
  | some taskId =>
      if taskId = "" then
        { registry with currentTasks := registry.currentTasks.pop agentId }
      else
        { registry with
          currentTasks := registry.currentTasks.set agentId
            (registry.currentTasks.getD agentId [] ++ [taskId]) }

/-- The most recently started task of the agent. -/
def getCurrentTask (registry : AgentRegistry) (agentId : AgentId) : Option String :=
  (registry.currentTasks.getD agentId []).getLast?

def getCurrentTasks (registry : AgentRegistry) (agentId : AgentId) : List String :=
  registry.currentTasks.getD agentId []

/-- An unknown agent reads as broken. -/
def getStatus (registry : AgentRegistry) (agentId : AgentId) : AgentStatus :=
  registry.statuses.getD agentId .broken

def getBrokenContext (registry : AgentRegistry) (agentId : AgentId) :
    Option BrokenReason × Option String :=
  (registry.brokenReasons.get? agentId, registry.stuckTaskIds.get? agentId)

def remove (registry : AgentRegistry) (agentId : AgentId) : AgentRegistry where
  cards := registry.cards.pop agentId
  statuses := registry.statuses.pop agentId
  brokenReasons := registry.brokenReasons.pop agentId
  stuckTaskIds := registry.stuckTaskIds.pop agentId
  currentTasks := registry.currentTasks.pop agentId
  busySlots := registry.busySlots.pop agentId

def isEmpty (registry : AgentRegistry) : Bool := registry.cards.entries.isEmpty

def contains (registry : AgentRegistry) (agentId : AgentId) : Bool :=
  registry.cards.contains agentId

/-- Agents that are not broken and have a free slot, in registration order. -/
def getAvailableAgents (registry : AgentRegistry) (maxSlots : Nat) : List AgentId :=
  (registry.statuses.entries.filter fun entry =>
    decide (entry.2 ≠ .broken) && registry.cards.contains entry.1 &&
      decide (registry.slots entry.1 < maxSlots)).map Prod.fst

/-- The first agent whose primary interface has the URL. -/
def getAgentIdByUrl (registry : AgentRegistry) (url : String) : Option AgentId :=
  (registry.cards.entries.find? fun entry =>
    decide (entry.2.supportedInterfaces.head? = some url)).map Prod.fst

/-- The calls that change the registry. -/
inductive Call where
  | register (agentId : AgentId) (card : AgentCard)
  | updateStatus (agentId : AgentId) (status : AgentStatus)
      (brokenReason : Option BrokenReason) (stuckTaskId : Option String)
  | setCurrentTask (agentId : AgentId) (taskId : Option String)
  | remove (agentId : AgentId)

def call (registry : AgentRegistry) : Call → AgentRegistry
  | .register agentId card => registry.register agentId card
  | .updateStatus agentId status brokenReason stuckTaskId =>
      registry.updateStatus agentId status brokenReason stuckTaskId
  | .setCurrentTask agentId taskId => registry.setCurrentTask agentId taskId
  | .remove agentId => registry.remove agentId

/-- The call registers a card. -/
def Call.registers : Call → Bool
  | .register _ _ => true
  | _ => false

/-- The call takes a slot. -/
def Call.takesSlot : Call → Bool
  | .updateStatus _ .busy _ _ => true
  | _ => false

/-! ## What an operation changes -/

@[simp] theorem contains_register (registry : AgentRegistry) (agentId : AgentId)
    (card : AgentCard) (other : AgentId) :
    (registry.register agentId card).contains other =
      (decide (other = agentId) || registry.contains other) := by
  unfold register contains
  split <;> simp [Dict.contains_set]

theorem getAgentIdByUrl_eq_none_iff {registry : AgentRegistry} {url : String} :
    registry.getAgentIdByUrl url = none ↔
      ∀ agentId card, registry.getCard agentId = some card →
        card.supportedInterfaces.head? ≠ some url := by
  unfold getAgentIdByUrl getCard
  rw [Option.map_eq_none_iff, List.find?_eq_none]
  constructor
  · intro others agentId card found
    have stored := others (agentId, card) ((Dict.mem_entries_iff _ _ _).mpr found)
    rwa [decide_eq_true_iff] at stored
  · intro others entry member
    have other := others entry.1 entry.2 ((Dict.mem_entries_iff _ _ _).mp member)
    rwa [decide_eq_true_iff]

theorem getCard_register (registry : AgentRegistry) (agentId : AgentId) (card : AgentCard)
    (other : AgentId) :
    (registry.register agentId card).getCard other =
      if other = agentId then some card else registry.getCard other := by
  unfold register getCard
  split <;> simp [Dict.get?_set]

/-- Only the context of a broken agent is recorded. -/
theorem recordBroken_eq (registry : AgentRegistry) (agentId : AgentId)
    (reason : Option BrokenReason) (stuck : Option String) :
    ∃ brokenReasons stuckTaskIds, registry.recordBroken agentId reason stuck =
      { registry with brokenReasons := brokenReasons, stuckTaskIds := stuckTaskIds } := by
  unfold recordBroken
  split
  · exact ⟨_, _, rfl⟩
  · split
    · exact ⟨_, _, rfl⟩
    · split <;> exact ⟨_, _, rfl⟩

@[simp] theorem recordBroken_cards (registry : AgentRegistry) (agentId : AgentId)
    (reason : Option BrokenReason) (stuck : Option String) :
    (registry.recordBroken agentId reason stuck).cards = registry.cards := by
  obtain ⟨_, _, same⟩ := registry.recordBroken_eq agentId reason stuck
  rw [same]

@[simp] theorem recordBroken_statuses (registry : AgentRegistry) (agentId : AgentId)
    (reason : Option BrokenReason) (stuck : Option String) :
    (registry.recordBroken agentId reason stuck).statuses = registry.statuses := by
  obtain ⟨_, _, same⟩ := registry.recordBroken_eq agentId reason stuck
  rw [same]

@[simp] theorem recordBroken_busySlots (registry : AgentRegistry) (agentId : AgentId)
    (reason : Option BrokenReason) (stuck : Option String) :
    (registry.recordBroken agentId reason stuck).busySlots = registry.busySlots := by
  obtain ⟨_, _, same⟩ := registry.recordBroken_eq agentId reason stuck
  rw [same]

@[simp] theorem updateStatus_cards (registry : AgentRegistry) (agentId : AgentId)
    (status : AgentStatus) (reason : Option BrokenReason) (stuck : Option String) :
    (registry.updateStatus agentId status reason stuck).cards = registry.cards := by
  unfold updateStatus
  split
  · cases status with
    | busy => rfl
    | available =>
        dsimp only
        split <;> rfl
    | broken => simp
  · rfl

@[simp] theorem contains_updateStatus (registry : AgentRegistry) (agentId : AgentId)
    (status : AgentStatus) (reason : Option BrokenReason) (stuck : Option String)
    (other : AgentId) :
    (registry.updateStatus agentId status reason stuck).contains other =
      registry.contains other := by
  simp [contains]

@[simp] theorem setCurrentTask_cards (registry : AgentRegistry) (agentId : AgentId)
    (taskId : Option String) :
    (registry.setCurrentTask agentId taskId).cards = registry.cards := by
  unfold setCurrentTask
  split
  · rfl
  · split <;> rfl

@[simp] theorem setCurrentTask_statuses (registry : AgentRegistry) (agentId : AgentId)
    (taskId : Option String) :
    (registry.setCurrentTask agentId taskId).statuses = registry.statuses := by
  unfold setCurrentTask
  split
  · rfl
  · split <;> rfl

@[simp] theorem setCurrentTask_busySlots (registry : AgentRegistry) (agentId : AgentId)
    (taskId : Option String) :
    (registry.setCurrentTask agentId taskId).busySlots = registry.busySlots := by
  unfold setCurrentTask
  split
  · rfl
  · split <;> rfl

/-- The slot count after an update of a registered agent. -/
def slotsAfter (status : AgentStatus) (slots : Int) : Int :=
  match status with
  | .busy => slots + 1
  | .available => max 0 (slots - 1)
  | .broken => slots

/-- The status after an update of a registered agent. -/
def statusAfter (status current : AgentStatus) (slots : Int) : AgentStatus :=
  match status with
  | .busy => .busy
  | .available => if slotsAfter .available slots = 0 then .available else current
  | .broken => .broken

/-- **Slots under an update.** Only the named agent's count moves. -/
theorem slots_updateStatus (registry : AgentRegistry) (agentId : AgentId)
    (status : AgentStatus) (reason : Option BrokenReason) (stuck : Option String)
    (other : AgentId) :
    (registry.updateStatus agentId status reason stuck).slots other =
      if other = agentId ∧ registry.contains agentId = true then
        slotsAfter status (registry.slots other)
      else registry.slots other := by
  unfold updateStatus contains
  by_cases known : registry.cards.contains agentId
  · by_cases same : other = agentId
    · subst same
      cases status with
      | busy => simp [known, slots, Dict.getD, slotsAfter]
      | available =>
          simp only [known, if_true, and_self, slotsAfter]
          split <;> simp [slots, Dict.getD]
      | broken => simp [known, slots, Dict.getD, slotsAfter]
    · cases status with
      | busy => simp [known, same, slots, Dict.getD, Dict.get?_set_other]
      | available =>
          simp only [known, if_true, same, false_and, if_false]
          split <;> simp [slots, Dict.getD, Dict.get?_set_other _ _ same]
      | broken => simp [known, same, slots, Dict.getD]
  · simp [known]

/-- **Status under an update.** Only the named agent's status moves. -/
theorem getStatus_updateStatus (registry : AgentRegistry) (agentId : AgentId)
    (status : AgentStatus) (reason : Option BrokenReason) (stuck : Option String)
    (other : AgentId) :
    (registry.updateStatus agentId status reason stuck).getStatus other =
      if other = agentId ∧ registry.contains agentId = true then
        statusAfter status (registry.getStatus other) (registry.slots other)
      else registry.getStatus other := by
  unfold updateStatus contains
  by_cases known : registry.cards.contains agentId
  · by_cases same : other = agentId
    · subst same
      cases status with
      | busy => simp [known, getStatus, Dict.getD, statusAfter]
      | available =>
          simp only [known, if_true, and_self, statusAfter, slotsAfter]
          by_cases drained : max 0 (registry.slots other - 1) = 0
          · simp [drained, getStatus, Dict.getD]
          · simp [drained, getStatus]
      | broken => simp [known, getStatus, Dict.getD, statusAfter]
    · cases status with
      | busy => simp [known, same, getStatus, Dict.getD, Dict.get?_set_other]
      | available =>
          simp only [known, if_true, same, false_and, if_false]
          split <;> simp [getStatus, Dict.getD, Dict.get?_set_other _ _ same]
      | broken => simp [known, same, getStatus, Dict.getD, Dict.get?_set_other]
  · simp [known]

@[simp] theorem slots_setCurrentTask (registry : AgentRegistry) (agentId : AgentId)
    (taskId : Option String) (other : AgentId) :
    (registry.setCurrentTask agentId taskId).slots other = registry.slots other := by
  simp [slots]

@[simp] theorem getStatus_setCurrentTask (registry : AgentRegistry) (agentId : AgentId)
    (taskId : Option String) (other : AgentId) :
    (registry.setCurrentTask agentId taskId).getStatus other = registry.getStatus other := by
  simp [getStatus]

@[simp] theorem contains_setCurrentTask (registry : AgentRegistry) (agentId : AgentId)
    (taskId : Option String) (other : AgentId) :
    (registry.setCurrentTask agentId taskId).contains other = registry.contains other := by
  simp [contains]

theorem getCurrentTasks_register (registry : AgentRegistry) (agentId : AgentId)
    (card : AgentCard) (other : AgentId) :
    (registry.register agentId card).getCurrentTasks other = registry.getCurrentTasks other := by
  unfold register
  dsimp only
  split <;> rfl

/-- **Running tasks under an update.** Only a release that leaves no slot taken clears the
list. -/
theorem getCurrentTasks_updateStatus (registry : AgentRegistry) (agentId : AgentId)
    (status : AgentStatus) (reason : Option BrokenReason) (stuck : Option String)
    (other : AgentId) :
    (registry.updateStatus agentId status reason stuck).getCurrentTasks other =
      if other = agentId ∧ registry.contains agentId = true ∧ status = .available ∧
          registry.slots agentId ≤ 1 then []
      else registry.getCurrentTasks other := by
  unfold updateStatus contains
  by_cases known : registry.cards.contains agentId
  · cases status with
    | busy => simp [known, getCurrentTasks]
    | available =>
        have drained : max 0 (registry.slots agentId - 1) = 0 ↔ registry.slots agentId ≤ 1 := by
          omega
        simp only [known, if_true, drained, true_and]
        by_cases last : registry.slots agentId ≤ 1
        · by_cases same : other = agentId
          · simp [last, same, getCurrentTasks, Dict.getD, Dict.get?_pop]
          · simp [last, same, getCurrentTasks, Dict.getD, Dict.get?_pop]
        · simp [last, getCurrentTasks]
    | broken =>
        simp only [known, if_true, recordBroken]
        cases reason with
        | none => simp [getCurrentTasks]
        | some reason =>
            cases stuck with
            | none => simp [getCurrentTasks]
            | some taskId =>
                dsimp only
                split <;> simp [getCurrentTasks]
  · simp [known]

/-- Ending one task removes all tasks of the agent from the list. -/
theorem getCurrentTasks_setCurrentTask_none (registry : AgentRegistry) (agentId : AgentId)
    (other : AgentId) :
    (registry.setCurrentTask agentId none).getCurrentTasks other =
      if other = agentId then [] else registry.getCurrentTasks other := by
  simp only [setCurrentTask, getCurrentTasks, Dict.getD, Dict.get?_pop]
  split <;> rfl

theorem getCurrentTasks_setCurrentTask_some (registry : AgentRegistry) (agentId : AgentId)
    {taskId : String} (named : taskId ≠ "") (other : AgentId) :
    (registry.setCurrentTask agentId (some taskId)).getCurrentTasks other =
      if other = agentId then registry.getCurrentTasks other ++ [taskId]
      else registry.getCurrentTasks other := by
  simp only [setCurrentTask, if_neg named, getCurrentTasks, Dict.getD, Dict.get?_set]
  split
  · rename_i same
    rw [same]
    rfl
  · rfl

theorem mem_getAvailableAgents {registry : AgentRegistry} {maxSlots : Nat}
    {agentId : AgentId} :
    agentId ∈ registry.getAvailableAgents maxSlots ↔
      registry.getStatus agentId ≠ .broken ∧ registry.contains agentId = true ∧
        registry.slots agentId < maxSlots := by
  unfold getAvailableAgents getStatus contains
  simp only [List.mem_map, List.mem_filter, Bool.and_eq_true, decide_eq_true_eq]
  constructor
  · rintro ⟨⟨other, status⟩, ⟨member, ⟨notBroken, known⟩, below⟩, rfl⟩
    have stored := (Dict.mem_entries_iff _ _ _).mp member
    exact ⟨by simpa [Dict.getD, stored] using notBroken, known, below⟩
  · rintro ⟨notBroken, known, below⟩
    cases stored : registry.statuses.get? agentId with
    | none => simp [Dict.getD, stored] at notBroken
    | some status =>
        refine ⟨(agentId, status), ⟨(Dict.mem_entries_iff _ _ _).mpr stored, ⟨?_, known⟩, below⟩,
          rfl⟩
        simpa [Dict.getD, stored] using notBroken

/-! ## Representation invariant -/

/-- The six parallel maps agree: statuses and slots are kept for exactly the
registered agents, the counts are never negative, and the count of an agent
matches its status. -/
structure Consistent (registry : AgentRegistry) : Prop where
  statusKnown : ∀ agentId, registry.statuses.contains agentId = registry.contains agentId
  slotsKnown : ∀ agentId, registry.busySlots.contains agentId = registry.contains agentId
  slotsNonneg : ∀ agentId, 0 ≤ registry.slots agentId
  slotsOfAvailable : ∀ agentId, registry.getStatus agentId = .available →
    registry.slots agentId = 0
  slotsOfBusy : ∀ agentId, registry.getStatus agentId = .busy → 0 < registry.slots agentId

theorem consistent_empty : empty.Consistent where
  statusKnown _ := rfl
  slotsKnown _ := rfl
  slotsNonneg _ := le_refl _
  slotsOfAvailable _ _ := rfl
  slotsOfBusy _ isBusy := by cases isBusy

/-- An unregistered agent holds no slot. -/
theorem Consistent.slots_of_not_contains {registry : AgentRegistry}
    (consistent : registry.Consistent) {agentId : AgentId}
    (absent : registry.contains agentId = false) : registry.slots agentId = 0 := by
  have known := consistent.slotsKnown agentId
  rw [absent, Dict.contains, Option.isSome_eq_false_iff, Option.isNone_iff_eq_none] at known
  simp [slots, Dict.getD, known]

/-- Registering an agent leaves every slot count as it was. -/
theorem Consistent.slots_register {registry : AgentRegistry}
    (consistent : registry.Consistent) (agentId : AgentId) (card : AgentCard)
    (other : AgentId) : (registry.register agentId card).slots other = registry.slots other := by
  unfold register
  by_cases known : registry.statuses.contains agentId
  · simp [known, slots]
  · have absent : registry.contains agentId = false := by
      rw [← consistent.statusKnown agentId]
      simpa using known
    by_cases same : other = agentId
    · subst same
      have zero := consistent.slots_of_not_contains absent
      simp only [known]
      simpa [slots, Dict.getD] using zero.symm
    · simp [known, slots, Dict.getD, Dict.get?_set_other _ _ same]

/-- A newly registered agent is available, and no other status moves. -/
theorem Consistent.getStatus_register {registry : AgentRegistry}
    (consistent : registry.Consistent) (agentId : AgentId) (card : AgentCard)
    (other : AgentId) :
    (registry.register agentId card).getStatus other =
      if other = agentId ∧ registry.contains agentId = false then .available
      else registry.getStatus other := by
  unfold register
  by_cases known : registry.statuses.contains agentId
  · have present : registry.contains agentId = true := by
      rw [← consistent.statusKnown agentId, known]
    simp [known, present, getStatus]
  · have absent : registry.contains agentId = false := by
      rw [← consistent.statusKnown agentId]
      simpa using known
    by_cases same : other = agentId
    · subst same
      simp [known, absent, getStatus, Dict.getD]
    · simp [known, same, getStatus, Dict.getD, Dict.get?_set_other _ _ same]

theorem Consistent.register {registry : AgentRegistry} (consistent : registry.Consistent)
    (agentId : AgentId) (card : AgentCard) : (registry.register agentId card).Consistent where
  statusKnown other := by
    rw [contains_register, ← consistent.statusKnown other]
    unfold AgentRegistry.register
    by_cases known : registry.statuses.contains agentId
    · by_cases same : other = agentId
      · simp [known, same]
      · simp [known, same]
    · simp [known, Dict.contains_set]
  slotsKnown other := by
    rw [contains_register, ← consistent.slotsKnown other]
    unfold AgentRegistry.register
    by_cases known : registry.statuses.contains agentId
    · by_cases same : other = agentId
      · have present : registry.busySlots.contains agentId = true := by
          rw [consistent.slotsKnown, ← consistent.statusKnown, known]
        simp [known, same, present]
      · simp [known, same]
    · simp [known, Dict.contains_set]
  slotsNonneg other := by
    rw [consistent.slots_register]
    exact consistent.slotsNonneg other
  slotsOfAvailable other isAvailable := by
    rw [consistent.slots_register]
    rw [consistent.getStatus_register] at isAvailable
    split at isAvailable
    · rename_i fresh
      exact consistent.slots_of_not_contains (fresh.1 ▸ fresh.2)
    · exact consistent.slotsOfAvailable other isAvailable
  slotsOfBusy other isBusy := by
    rw [consistent.slots_register]
    rw [consistent.getStatus_register] at isBusy
    split at isBusy
    · cases isBusy
    · exact consistent.slotsOfBusy other isBusy

private theorem contains_statuses_updateStatus {registry : AgentRegistry}
    (consistent : registry.Consistent) (agentId : AgentId) (status : AgentStatus)
    (reason : Option BrokenReason) (stuck : Option String) (other : AgentId) :
    (registry.updateStatus agentId status reason stuck).statuses.contains other =
      registry.contains other := by
  rw [← consistent.statusKnown other]
  by_cases known : registry.cards.contains agentId
  · have present : registry.statuses.contains agentId = true :=
      (consistent.statusKnown agentId).trans known
    have unmoved (written : AgentStatus) :
        (registry.statuses.set agentId written).contains other =
          registry.statuses.contains other :=
      Dict.contains_set_of_present present written other
    unfold updateStatus
    cases status with
    | busy => simp [known, unmoved]
    | available =>
        simp only [known, if_true]
        split
        · exact unmoved .available
        · rfl
    | broken => simp [known, unmoved]
  · simp [updateStatus, known]

private theorem contains_busySlots_updateStatus {registry : AgentRegistry}
    (consistent : registry.Consistent) (agentId : AgentId) (status : AgentStatus)
    (reason : Option BrokenReason) (stuck : Option String) (other : AgentId) :
    (registry.updateStatus agentId status reason stuck).busySlots.contains other =
      registry.contains other := by
  rw [← consistent.slotsKnown other]
  by_cases known : registry.cards.contains agentId
  · have present : registry.busySlots.contains agentId = true :=
      (consistent.slotsKnown agentId).trans known
    have unmoved (written : Int) :
        (registry.busySlots.set agentId written).contains other =
          registry.busySlots.contains other :=
      Dict.contains_set_of_present present written other
    unfold updateStatus
    cases status with
    | busy => simp [known, unmoved]
    | available =>
        simp only [known, if_true]
        split
        · exact unmoved _
        · exact unmoved _
    | broken => simp [known]
  · simp [updateStatus, known]

theorem Consistent.updateStatus {registry : AgentRegistry} (consistent : registry.Consistent)
    (agentId : AgentId) (status : AgentStatus) (reason : Option BrokenReason)
    (stuck : Option String) : (registry.updateStatus agentId status reason stuck).Consistent where
  statusKnown other := by
    rw [contains_updateStatus]
    exact contains_statuses_updateStatus consistent agentId status reason stuck other
  slotsKnown other := by
    rw [contains_updateStatus]
    exact contains_busySlots_updateStatus consistent agentId status reason stuck other
  slotsNonneg other := by
    have nonneg := consistent.slotsNonneg other
    rw [slots_updateStatus]
    split
    · cases status <;> simp only [slotsAfter] <;> omega
    · exact nonneg
  slotsOfAvailable other isAvailable := by
    rw [getStatus_updateStatus] at isAvailable
    rw [slots_updateStatus]
    split at isAvailable
    · rename_i named
      rw [if_pos named]
      cases status with
      | busy => cases isAvailable
      | available =>
          simp only [statusAfter] at isAvailable
          split at isAvailable
          · assumption
          · have zero := consistent.slotsOfAvailable other isAvailable
            simp [slotsAfter, zero]
      | broken => cases isAvailable
    · rename_i unnamed
      rw [if_neg unnamed]
      exact consistent.slotsOfAvailable other isAvailable
  slotsOfBusy other isBusy := by
    have nonneg := consistent.slotsNonneg other
    rw [getStatus_updateStatus] at isBusy
    rw [slots_updateStatus]
    split at isBusy
    · rename_i named
      rw [if_pos named]
      cases status with
      | busy => simp only [slotsAfter]; omega
      | available =>
          simp only [statusAfter] at isBusy
          split at isBusy
          · cases isBusy
          · rename_i kept
            simp only [slotsAfter] at kept ⊢
            omega
      | broken => cases isBusy
    · rename_i unnamed
      rw [if_neg unnamed]
      exact consistent.slotsOfBusy other isBusy

theorem Consistent.setCurrentTask {registry : AgentRegistry} (consistent : registry.Consistent)
    (agentId : AgentId) (taskId : Option String) :
    (registry.setCurrentTask agentId taskId).Consistent where
  statusKnown other := by
    rw [contains_setCurrentTask, setCurrentTask_statuses]
    exact consistent.statusKnown other
  slotsKnown other := by
    rw [contains_setCurrentTask, setCurrentTask_busySlots]
    exact consistent.slotsKnown other
  slotsNonneg other := by
    rw [slots_setCurrentTask]
    exact consistent.slotsNonneg other
  slotsOfAvailable other isAvailable := by
    rw [slots_setCurrentTask]
    exact consistent.slotsOfAvailable other (by simpa using isAvailable)
  slotsOfBusy other isBusy := by
    rw [slots_setCurrentTask]
    exact consistent.slotsOfBusy other (by simpa using isBusy)

end AgentRegistry

end QuAIA.Orchestrator
