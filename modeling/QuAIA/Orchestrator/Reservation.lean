import QuAIA.Library.StepSystem
import QuAIA.Orchestrator.SendTask

/-!
Contract: the reservation of an agent (`reserve_agent_waiting_if_needed`).

Owns: the reservation as a coroutine of its own, any number of them over one registry with
the selection lock between them, what each of their segments does to the registry, and the
bound on the occupied slots.

Does not own: what the caller does with the reserved agent. The last theorem says that a
remote task is this coroutine followed by that.
-/

set_option autoImplicit false

namespace QuAIA.Orchestrator

open QuAIA.Common
open QuAIA.Library

/-! ## The code -/

/-- Where a reservation is suspended, or what it returned or raised. -/
inductive ReservePhase where
  | waitingForLock (startTime : Int)
  | selecting (startTime : Int) (available : List AgentId)
  | sleeping (startTime : Int)
  | returned (outcome : Except PyError (AgentId × AgentCard))
deriving DecidableEq

structure Reserver where
  taskDescription : String
  phase : ReservePhase
deriving DecidableEq

/-- The loop condition, and what is raised after the loop. -/
def reserveAttempt (config : OrchestratorConfig) (now : Instant) (taskDescription : String)
    (startTime : Int) : ReservePhase :=
  if now.time - startTime < config.taskExecutionTimeout then .waitingForLock startTime
  else
    .returned (.error (.httpException 503
      (s!"Timeout waiting for an available agent to handle task '{taskDescription}'. " ++
        s!"All agents have been busy for {config.taskExecutionTimeoutText} seconds.")))

def beginReserve (config : OrchestratorConfig) (registry : AgentRegistry) (now : Instant)
    (taskDescription : String) : ReservePhase :=
  if registry.isEmpty then
    .returned (.error (.httpException 404 "Orchestrator has currently no registered agents."))
  else reserveAttempt config now taskDescription now.time

/-- Under the lock, up to the question to the routing model, which is shown the agents
with a free slot. -/
def askModel (config : OrchestratorConfig) (registry : AgentRegistry) (startTime : Int) :
    ReservePhase :=
  let available := registry.getAvailableAgents config.maxSlotsPerAgent
  if available.isEmpty ∨ (getAgentsInfo registry available).isEmpty then .sleeping startTime
  else .selecting startTime available

/-- From the answer to the end of the segment: the check made again, and the slot. -/
def modelAnswered (config : OrchestratorConfig) (registry : AgentRegistry) (startTime : Int)
    (available : List AgentId) : Except PyError AgentId → AgentRegistry × ReservePhase
  | .error error => (registry, .returned (.error error))
  | .ok answer =>
      match selectedAgent answer available with
      | none => (registry, .sleeping startTime)
      | some agentId =>
          if agentId ∈ registry.getAvailableAgents config.maxSlotsPerAgent then
            match registry.getCard agentId with
            | some agentCard =>
                (registry.updateStatus agentId .busy none none,
                  .returned (.ok (agentId, agentCard)))
            | none => (registry, .sleeping startTime)
          else (registry, .sleeping startTime)

/-- What a suspended reservation goes on with. An answer is any text, or an exception. -/
inductive Resumption where
  | lockAcquired
  | answered (answer : Except PyError AgentId)
  | slept

def Reserver.step (config : OrchestratorConfig) (registry : AgentRegistry) (now : Instant)
    (reserver : Reserver) : Resumption → Option (AgentRegistry × ReservePhase)
  | .lockAcquired =>
      match reserver.phase with
      | .waitingForLock startTime => some (registry, askModel config registry startTime)
      | _ => none
  | .answered answer =>
      match reserver.phase with
      | .selecting startTime available =>
          some (modelAnswered config registry startTime available answer)
      | _ => none
  | .slept =>
      match reserver.phase with
      | .sleeping startTime =>
          some (registry, reserveAttempt config now reserver.taskDescription startTime)
      | _ => none

structure ReserveWorld where
  registry : AgentRegistry
  selectionLock : Option TaskId
  reservers : Dict TaskId Reserver

/-- `other` is any registry call of another coroutine; only a reservation takes a slot. -/
inductive ReserveEvent where
  | begun (now : Instant) (taskId : TaskId) (taskDescription : String)
  | resumed (now : Instant) (taskId : TaskId) (resumption : Resumption)
  | other (call : AgentRegistry.Call)

namespace ReserveWorld

def initial : ReserveWorld := ⟨.empty, none, .empty⟩

/-- The lock is held while the model is asked. -/
def lockAfter (lock : Option TaskId) (taskId : TaskId) : ReservePhase → Option TaskId
  | .selecting _ _ => some taskId
  | _ => if lock = some taskId then none else lock

def step (config : OrchestratorConfig) (world : ReserveWorld) :
    ReserveEvent → Option ReserveWorld
  | .begun now taskId taskDescription =>
      if world.reservers.contains taskId then none
      else
        some { world with
          reservers := world.reservers.set taskId
            ⟨taskDescription, beginReserve config world.registry now taskDescription⟩ }
  | .resumed now taskId resumption => do
      let reserver ← world.reservers.get? taskId
      guard (resumption matches .lockAcquired → world.selectionLock = none)
      let (registry, phase) ← reserver.step config world.registry now resumption
      return {
        registry := registry
        selectionLock := lockAfter world.selectionLock taskId phase
        reservers := world.reservers.set taskId { reserver with phase := phase } }
  | .other call =>
      if call.takesSlot then none else some { world with registry := world.registry.call call }

def phase (world : ReserveWorld) (taskId : TaskId) : Option ReservePhase :=
  (world.reservers.get? taskId).map Reserver.phase

end ReserveWorld

/-- The reservation that an event is a segment of. -/
def ReserveEvent.reserver : ReserveEvent → Option TaskId
  | .begun _ taskId _ => some taskId
  | .resumed _ taskId _ => some taskId
  | .other _ => none

/-! ## One slot, or nothing -/

/-- The agent was registered, shown to the model, not broken and free, and now one more of
its slots is taken and its status says so. Nothing else has changed. -/
structure Reserves (config : OrchestratorConfig) (before : AgentRegistry)
    (available : List AgentId) (agentId : AgentId) (agentCard : AgentCard)
    (after : AgentRegistry) : Prop where
  registered : before.getCard agentId = some agentCard
  shown : agentId ∈ available
  notBroken : before.getStatus agentId ≠ .broken
  free : before.slots agentId < config.maxSlotsPerAgent
  taken : after = { before with
    busySlots := before.busySlots.set agentId (before.slots agentId + 1)
    statuses := before.statuses.set agentId .busy }

section Segments

variable {config : OrchestratorConfig} {registry next : AgentRegistry} {startTime : Int}
  {phase : ReservePhase}

theorem reserveAttempt_failed {now : Instant} {taskDescription : String}
    (reserved : AgentId × AgentCard) :
    reserveAttempt config now taskDescription startTime ≠ .returned (.ok reserved) := by
  unfold reserveAttempt
  split <;> simp

theorem beginReserve_failed {now : Instant} {taskDescription : String}
    (reserved : AgentId × AgentCard) :
    beginReserve config registry now taskDescription ≠ .returned (.ok reserved) := by
  unfold beginReserve
  split
  · simp
  · exact reserveAttempt_failed reserved

theorem askModel_failed (reserved : AgentId × AgentCard) :
    askModel config registry startTime ≠ .returned (.ok reserved) := by
  unfold askModel
  dsimp only
  split <;> simp

theorem mem_of_selectedAgent {answer agentId : AgentId} {available : List AgentId}
    (selected : selectedAgent answer available = some agentId) : agentId ∈ available := by
  unfold selectedAgent at selected
  split at selected
  · rename_i listed
    cases selected
    exact listed.2
  · cases selected

/-- What an answer does: one reservation, or nothing. -/
theorem modelAnswered_cases {available : List AgentId} {answer : Except PyError AgentId}
    (answered : modelAnswered config registry startTime available answer = (next, phase)) :
    (∃ agentId agentCard, phase = .returned (.ok (agentId, agentCard)) ∧
        Reserves config registry available agentId agentCard next) ∨
      (next = registry ∧ ∀ reserved, phase ≠ .returned (.ok reserved)) := by
  cases answer with
  | error error =>
      cases answered
      exact Or.inr ⟨rfl, by simp⟩
  | ok answer =>
      rw [modelAnswered] at answered
      split at answered
      · cases answered
        exact Or.inr ⟨rfl, by simp⟩
      · rename_i agentId selected
        split at answered
        · rename_i free
          split at answered
          · rename_i agentCard registered
            cases answered
            obtain ⟨notBroken, known, below⟩ := AgentRegistry.mem_getAvailableAgents.mp free
            refine Or.inl ⟨agentId, agentCard, rfl, registered, mem_of_selectedAgent selected,
              notBroken, below, ?_⟩
            exact if_pos known
          · cases answered
            exact Or.inr ⟨rfl, by simp⟩
        · cases answered
          exact Or.inr ⟨rfl, by simp⟩

/-- Only the answer to the model's question reserves, and only of the agents it was shown. -/
theorem Reserver.step_cases {now : Instant} {reserver : Reserver} {resumption : Resumption}
    (stepped : reserver.step config registry now resumption = some (next, phase)) :
    (∃ startTime available agentId agentCard, reserver.phase = .selecting startTime available ∧
        phase = .returned (.ok (agentId, agentCard)) ∧
        Reserves config registry available agentId agentCard next) ∨
      (next = registry ∧ ∀ reserved, phase ≠ .returned (.ok reserved)) := by
  cases resumption with
  | lockAcquired =>
      simp only [Reserver.step] at stepped
      split at stepped
      · cases stepped
        exact Or.inr ⟨rfl, askModel_failed⟩
      · cases stepped
  | answered answer =>
      simp only [Reserver.step] at stepped
      split at stepped
      · rename_i startTime available selecting
        rcases modelAnswered_cases (Option.some.inj stepped) with
          ⟨agentId, agentCard, returned, reserves⟩ | nothing
        · exact Or.inl ⟨startTime, available, agentId, agentCard, selecting, returned, reserves⟩
        · exact Or.inr nothing
      · cases stepped
  | slept =>
      simp only [Reserver.step] at stepped
      split at stepped
      · cases stepped
        exact Or.inr ⟨rfl, reserveAttempt_failed⟩
      · cases stepped

end Segments

/-! ## Any number of reservations -/

namespace AgentRegistry

/-- No agent has more slots taken than it has. -/
def WithinSlots (registry : AgentRegistry) (maxSlots : Nat) : Prop :=
  ∀ agentId, registry.slots agentId ≤ maxSlots

variable {registry : AgentRegistry} {maxSlots : Nat}

theorem slots_set (registry : AgentRegistry) (agentId : AgentId) (slots : Int)
    (statuses : Dict AgentId AgentStatus) (other : AgentId) :
    { registry with
      busySlots := registry.busySlots.set agentId slots, statuses := statuses }.slots other =
      if other = agentId then slots else registry.slots other := by
  simp only [AgentRegistry.slots, Dict.getD, Dict.get?_set]
  split <;> rfl

/-- Calls of other coroutines take no slot. -/
theorem WithinSlots.call (within : registry.WithinSlots maxSlots) {call : Call}
    (takesSlot : call.takesSlot = false) : (registry.call call).WithinSlots maxSlots := by
  intro agentId
  have before := within agentId
  cases call with
  | register newAgentId card =>
      unfold AgentRegistry.call AgentRegistry.register
      dsimp only
      split
      · exact before
      · rw [slots_set { registry with cards := registry.cards.set newAgentId card }]
        split
        · exact Int.natCast_nonneg maxSlots
        · exact before
  | updateStatus updated status reason stuck =>
      rw [AgentRegistry.call, slots_updateStatus]
      split
      · cases status with
        | busy => cases takesSlot
        | available =>
            rw [slotsAfter]
            omega
        | broken => exact before
      · exact before
  | setCurrentTask updated taskId =>
      rw [AgentRegistry.call, slots_setCurrentTask]
      exact before
  | remove removed =>
      simp only [AgentRegistry.call, remove, slots, Dict.getD, Dict.get?_pop]
      split
      · exact Int.natCast_nonneg maxSlots
      · exact before

end AgentRegistry

theorem Reserves.within {config : OrchestratorConfig} {before after : AgentRegistry}
    {available : List AgentId} {agentId : AgentId} {agentCard : AgentCard}
    (reserves : Reserves config before available agentId agentCard after)
    (within : before.WithinSlots config.maxSlotsPerAgent) :
    after.WithinSlots config.maxSlotsPerAgent := by
  intro other
  rw [reserves.taken, AgentRegistry.slots_set]
  split
  · have free := reserves.free
    omega
  · exact within other

namespace ReserveWorld

variable {config : OrchestratorConfig}

/-- A segment of a reservation returns the agent of which it took a slot, or it does not
return an agent and changes nothing. -/
def Atomic (config : OrchestratorConfig) (world : ReserveWorld) (event : ReserveEvent) : Prop :=
  ∀ taskId next, event.reserver = some taskId → world.step config event = some next →
    (∃ startTime available agentId agentCard,
        world.phase taskId = some (.selecting startTime available) ∧
        next.phase taskId = some (.returned (.ok (agentId, agentCard))) ∧
        Reserves config world.registry available agentId agentCard next.registry) ∨
      (next.registry = world.registry ∧
        ∀ reserved, next.phase taskId ≠ some (.returned (.ok reserved)))

theorem phase_set (world : ReserveWorld) (taskId : TaskId) (reserver : Reserver) :
    { world with reservers := world.reservers.set taskId reserver }.phase taskId =
      some reserver.phase := by
  rw [phase, Dict.get?_set, if_pos rfl, Option.map_some]

theorem resumed_eq_some {world next : ReserveWorld} {now : Instant} {taskId : TaskId}
    {resumption : Resumption} (stepped : world.step config (.resumed now taskId resumption) =
      some next) :
    ∃ reserver registry phase, world.reservers.get? taskId = some reserver ∧
      reserver.step config world.registry now resumption = some (registry, phase) ∧
      next = {
        registry := registry
        selectionLock := lockAfter world.selectionLock taskId phase
        reservers := world.reservers.set taskId { reserver with phase := phase } } := by
  simp only [step, Option.bind_eq_bind, Option.bind_eq_some_iff, Option.pure_def,
    Option.some.injEq] at stepped
  obtain ⟨reserver, found, _, -, ⟨registry, phase⟩, segment, rfl⟩ := stepped
  exact ⟨reserver, registry, phase, found, segment, rfl⟩

theorem atomic (world : ReserveWorld) (event : ReserveEvent) : world.Atomic config event := by
  intro taskId next isReserver stepped
  cases event with
  | begun now begunId taskDescription =>
      obtain rfl := Option.some.inj isReserver
      simp only [step] at stepped
      split at stepped
      · cases stepped
      · obtain rfl := Option.some.inj stepped
        refine Or.inr ⟨rfl, fun reserved returned => ?_⟩
        rw [phase_set, Option.some.injEq] at returned
        exact beginReserve_failed reserved returned
  | resumed now resumedId resumption =>
      obtain rfl := Option.some.inj isReserver
      obtain ⟨reserver, registry, phase, found, segment, rfl⟩ := resumed_eq_some stepped
      rw [ReserveWorld.phase, found, Option.map_some]
      rw [ReserveWorld.phase, Dict.get?_set, if_pos rfl, Option.map_some]
      rcases Reserver.step_cases segment with
        ⟨startTime, available, agentId, agentCard, selecting, returned, reserves⟩ |
          ⟨unchanged, failed⟩
      · exact Or.inl ⟨startTime, available, agentId, agentCard, congrArg some selecting,
          congrArg some returned, reserves⟩
      · refine Or.inr ⟨unchanged, fun reserved returned => ?_⟩
        exact failed reserved (Option.some.inj returned)
  | other call => cases isReserver

theorem within_step (world : ReserveWorld) (event : ReserveEvent) (next : ReserveWorld)
    (within : world.registry.WithinSlots config.maxSlotsPerAgent)
    (stepped : world.step config event = some next) :
    next.registry.WithinSlots config.maxSlotsPerAgent := by
  cases reserver : event.reserver with
  | some taskId =>
      rcases atomic world event taskId next reserver stepped with
        ⟨_, _, _, _, -, -, reserves⟩ | ⟨unchanged, -⟩
      · exact reserves.within within
      · rw [unchanged]
        exact within
  | none =>
      cases event with
      | begun now taskId taskDescription => cases reserver
      | resumed now taskId resumption => cases reserver
      | other call =>
          simp only [step] at stepped
          split at stepped
          · cases stepped
          · rename_i takesSlot
            obtain rfl := Option.some.inj stepped
            exact within.call (Bool.eq_false_iff.mpr takesSlot)

/-- **Atomic reservations.** In every run of any number of reservations, beside any other
use of the registry, each segment reserves the agent that it returns or changes nothing, and
no agent ever has more slots taken than it has. -/
theorem reservations_atomic (config : OrchestratorConfig) (events : List ReserveEvent) :
    StepSystem.Along (step config) (Atomic config) initial events ∧
      StepSystem.Throughout (step config)
        (fun world => world.registry.WithinSlots config.maxSlotsPerAgent) initial events := by
  have nothingTaken : initial.registry.WithinSlots config.maxSlotsPerAgent :=
    fun _ => Int.natCast_nonneg config.maxSlotsPerAgent
  have always : StepSystem.Along (step config) (fun _ _ => True) initial events :=
    StepSystem.along_of_forall (fun _ _ => trivial) initial events
  constructor
  · exact StepSystem.along_of_forall atomic initial events
  · exact StepSystem.throughout_of_along
      (fun world event next within _ stepped => within_step world event next within stepped)
      nothingTaken always

/-- A reservation changes more than the count of slots: an idle agent becomes busy. -/
theorem reservation_sets_status :
    ∃ world next, StepSystem.run (step .default) initial
        [.other (.register "a" ⟨"Web", ["web tests"], ["http://a"]⟩),
          .begun ⟨0, ""⟩ "t" "login", .resumed ⟨0, ""⟩ "t" .lockAcquired] = some world ∧
      world.step .default (.resumed ⟨1, ""⟩ "t" (.answered (.ok "a"))) = some next ∧
      next.phase "t" = some (.returned (.ok ("a", ⟨"Web", ["web tests"], ["http://a"]⟩))) ∧
      next.registry ≠ { world.registry with
        busySlots := world.registry.busySlots.set "a" (world.registry.slots "a" + 1) } :=
  ⟨_, _, rfl, rfl, by decide, by decide⟩

end ReserveWorld

/-! ## The remote task that reserves -/

/-- What the caller makes of it: it goes on with the client, or passes the exception on. -/
def ReservePhase.send : ReservePhase → SendPhase
  | .waitingForLock startTime => .waitingForLock startTime
  | .selecting startTime available => .selecting startTime available
  | .sleeping startTime => .sleeping startTime
  | .returned (.ok (agentId, _)) => .creatingClient agentId
  | .returned (.error error) => .returned none (.error error)

def Resumption.send : Resumption → SendEvent
  | .lockAcquired => .lockAcquired
  | .answered answer => .selected answer
  | .slept => .slept

/-- What the caller does to the registry in the segment in which it gets its agent. -/
def ReservePhase.resumeCaller (taskId : TaskId) (registry : AgentRegistry) :
    ReservePhase → AgentRegistry
  | .returned (.ok (agentId, _)) => registry.setCurrentTask agentId (some taskId)
  | _ => registry

theorem beginReserve_send (config : OrchestratorConfig) (registry : AgentRegistry)
    (now : Instant) (taskDescription : String) :
    (beginReserve config registry now taskDescription).send =
      beginSend config registry now taskDescription := by
  unfold beginReserve beginSend reserveAttempt reserveLoop
  split
  · rfl
  · split <;> rfl

theorem modelAnswered_send {config : OrchestratorConfig} {shared : Shared} {now : Instant}
    {taskId : TaskId} {startTime : Int} {available : List AgentId}
    {answer : Except PyError AgentId} {registry : AgentRegistry} {phase : ReservePhase}
    (answered : modelAnswered config shared.registry startTime available answer =
      (registry, phase)) :
    ∃ effects, agentSelected config shared.registry now taskId startTime available answer =
        (effects, phase.send) ∧
      (shared.applyAll effects).registry = phase.resumeCaller taskId registry := by
  cases answer with
  | error error =>
      cases answered
      cases error with
      | httpException statusCode detail => exact ⟨_, rfl, rfl⟩
      | _ => exact ⟨_, rfl, rfl⟩
  | ok answer =>
      rw [modelAnswered] at answered
      rw [agentSelected]
      cases selected : selectedAgent answer available with
      | none =>
          rw [selected] at answered
          cases answered
          exact ⟨[], rfl, rfl⟩
      | some agentId =>
          rw [selected] at answered
          dsimp only at answered ⊢
          by_cases free : agentId ∈ shared.registry.getAvailableAgents config.maxSlotsPerAgent
          · cases registered : shared.registry.getCard agentId with
            | none =>
                simp only [free, registered, if_true] at answered
                cases answered
                exact ⟨[], by simp [ReservePhase.send], rfl⟩
            | some agentCard =>
                simp only [free, registered, if_true] at answered
                cases answered
                exact ⟨_, if_pos ⟨free, rfl⟩, rfl⟩
          · rw [if_neg free] at answered
            cases answered
            exact ⟨[], if_neg (fun both => free both.1), rfl⟩

/-- **A remote task reserves as modelled here.** Each segment of a reservation is one of the
remote task that waits for it, followed by what the caller does in the same segment. -/
theorem Reserver.step_send {config : OrchestratorConfig} {shared : Shared} {now : Instant}
    {taskId : TaskId} {reserver : Reserver} {resumption : Resumption} {registry : AgentRegistry}
    {phase : ReservePhase}
    (stepped : reserver.step config shared.registry now resumption = some (registry, phase)) :
    ∃ effects, SendTask.step config shared.registry now taskId
        ⟨reserver.taskDescription, reserver.phase.send⟩ resumption.send =
          some (effects, phase.send) ∧
      (shared.applyAll effects).registry = phase.resumeCaller taskId registry := by
  obtain ⟨taskDescription, before⟩ := reserver
  cases resumption with
  | lockAcquired =>
      cases before with
      | waitingForLock startTime =>
          cases stepped
          refine ⟨[], ?_⟩
          unfold Resumption.send ReservePhase.send SendTask.step lockAcquired askModel
          dsimp only
          split
          · exact ⟨rfl, rfl⟩
          · exact ⟨rfl, rfl⟩
      | _ => cases stepped
  | answered answer =>
      cases before with
      | selecting startTime available =>
          obtain ⟨effects, segment, applied⟩ :=
            modelAnswered_send (Option.some.inj stepped)
          exact ⟨effects, congrArg some segment, applied⟩
      | _ => cases stepped
  | slept =>
      cases before with
      | sleeping startTime =>
          cases stepped
          refine ⟨[], ?_⟩
          unfold Resumption.send ReservePhase.send SendTask.step reserveAttempt reserveLoop
          dsimp only
          split
          · exact ⟨rfl, rfl⟩
          · exact ⟨rfl, rfl⟩
      | _ => cases stepped

end QuAIA.Orchestrator
