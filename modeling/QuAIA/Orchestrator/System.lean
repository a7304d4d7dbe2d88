import QuAIA.Orchestrator.Recovery
import QuAIA.Orchestrator.SendTask
import QuAIA.Orchestrator.TestGroup.Steps

/-!
Contract: the orchestrator as one step system over all its coroutines.

Owns: the whole state, with every running task, the recovery worker, the checks
of the health check and the test groups; one step for each segment of each of
them; and the inversion of a step.

A worker that begins a test begins its remote task in the same step, and goes
on only with the outcome that this task returned. Task ids are fresh. Where a
segment calls or leaves a coroutine it is cut in two, so every interleaving of
the source is a run here.
-/

set_option autoImplicit false

namespace QuAIA.Orchestrator

open QuAIA.Common
open QuAIA.Library

structure System where
  shared : Shared
  selectionLock : Option TaskId
  sends : Dict TaskId SendTask
  recovery : RecoveryWorker
  checks : List HealthCheck
  groups : List TestGroup
deriving DecidableEq

/-- The orchestrator after start, before any agent is discovered. -/
def System.initial : System where
  shared := Shared.empty
  selectionLock := none
  sends := .empty
  recovery := ⟨.waiting, []⟩
  checks := []
  groups := []

/-- The coroutine that runs next. -/
inductive SystemAction where
  | discovered (agentId : AgentId) (card : AgentCard)
  | beginTask (taskId : TaskId) (taskDescription : String)
  | task (taskId : TaskId) (event : SendEvent)
  | recovery (event : RecoveryEvent)
  | healthCheck
  | check (index : Nat) (event : HealthCheckEvent)
  | startGroup (testType : String) (testCases : List TestCase) (agentIds : List AgentId)
  | group (index : Nat) (event : GroupEvent)

structure SystemEvent where
  now : Instant
  action : SystemAction

/-- The segment of a coroutine that runs at a time. -/
def SystemAction.atTime (action : SystemAction) (time : Int) : SystemEvent :=
  ⟨⟨time, ""⟩, action⟩

/-! ## Tasks -/

/-- Begin a remote task under a fresh id. -/
def System.begin (config : OrchestratorConfig) (now : Instant) (system : System)
    (taskId : TaskId) (taskDescription : String) : Option System :=
  if system.sends.contains taskId then none
  else some { system with
    sends := system.sends.set taskId
      ⟨taskDescription, beginSend config system.shared.registry now taskDescription⟩ }

/-- The lock is taken by the task that asks its routing model, and is free when
that task goes on. -/
def lockAfter (lock : Option TaskId) (taskId : TaskId) : SendPhase → Option TaskId
  | .selecting _ _ => some taskId
  | _ => if lock = some taskId then none else lock

/-- A suspended task goes on; it acquires the selection lock only when nobody
holds it. -/
def System.task (config : OrchestratorConfig) (now : Instant) (system : System)
    (taskId : TaskId) (event : SendEvent) : Option System := do
  let task ← system.sends.get? taskId
  guard (event matches .lockAcquired → system.selectionLock = none)
  let (effects, phase) ← task.step config system.shared.registry now taskId event
  return { system with
    shared := system.shared.applyAll effects
    selectionLock := lockAfter system.selectionLock taskId phase
    sends := system.sends.set taskId { task with phase := phase } }

/-! ## Background tasks -/

def System.recover (now : Instant) (system : System) (event : RecoveryEvent) :
    Option System := do
  let (shared, worker) ← system.recovery.step system.shared now event
  return { system with shared := shared, recovery := worker }

def System.check (now : Instant) (system : System) (index : Nat) (event : HealthCheckEvent) :
    Option System := do
  let check ← system.checks[index]?
  let (effects, next) ← check.step system.shared.registry now event
  return { system with
    shared := system.shared.applyAll effects
    checks :=
      match next with
      | some next => system.checks.set index next
      | none => system.checks.eraseIdx index }

/-! ## Groups -/

def SendPhase.outcome : SendPhase → Option SendOutcome
  | .returned _ outcome => some outcome
  | _ => none

/-- The outcome a worker is resumed with is the one its remote task returned. -/
def System.Delivers (system : System) (group : TestGroup) : GroupEvent → Prop
  | .sent index outcome =>
      ∃ worker ∈ group.workers[index]?, ∃ taskId ∈ worker.phase.awaits,
        ∃ task ∈ system.sends.get? taskId, task.phase.outcome = some outcome
  | _ => True

instance (system : System) (group : TestGroup) : DecidablePred (system.Delivers group)
  | .sent index outcome =>
      inferInstanceAs (Decidable (∃ worker ∈ group.workers[index]?,
        ∃ taskId ∈ worker.phase.awaits, ∃ task ∈ system.sends.get? taskId,
          task.phase.outcome = some outcome))
  | .resume _ _ => instDecidableTrue
  | .take _ _ => instDecidableTrue
  | .extracted _ _ _ => instDecidableTrue
  | .joined => instDecidableTrue
  | .gathered => instDecidableTrue

/-- The remote task that a worker begins in a segment: its id and description. -/
def beginsTask (next : TestGroup) (event : GroupEvent) : Option (TaskId × String) := do
  let index ← event.worker
  let worker ← next.workers[index]?
  match worker.phase with
  | .sending testCase testType _ taskId => return (taskId, singleTestDescription testCase testType)
  | _ => none

def System.group (config : OrchestratorConfig) (now : Instant) (system : System) (index : Nat)
    (event : GroupEvent) : Option System := do
  let group ← system.groups[index]?
  guard (system.Delivers group event)
  let (effects, next) ← group.step system.shared.registry now event
  let moved := { system with
    shared := system.shared.applyAll effects
    groups := system.groups.set index next }
  match beginsTask next event with
  | none => return moved
  | some (taskId, taskDescription) => moved.begin config now taskId taskDescription

/-! ## Steps -/

def System.step (config : OrchestratorConfig) (system : System) (event : SystemEvent) :
    Option System :=
  match event.action with
  | .discovered agentId card =>
      if system.shared.registry.contains agentId then none
      else some { system with
        shared := { system.shared with
          registry := system.shared.registry.register agentId card } }
  | .beginTask taskId taskDescription =>
      system.begin config event.now taskId taskDescription
  | .task taskId taskEvent => system.task config event.now taskId taskEvent
  | .recovery recoveryEvent => system.recover event.now recoveryEvent
  | .healthCheck =>
      some { system with
        checks := system.checks ++ healthCheckAgents system.shared.registry }
  | .check index checkEvent => system.check event.now index checkEvent
  | .startGroup testType testCases agentIds =>
      (executeTestGroup system.shared.registry testType testCases agentIds).map fun group =>
        { system with groups := system.groups ++ [group] }
  | .group index groupEvent => system.group config event.now index groupEvent

/-- The steps of the orchestrator, one constructor for each coroutine. -/
inductive System.Stepped (config : OrchestratorConfig) (system : System) (now : Instant) :
    SystemAction → System → Prop
  | discovered {agentId : AgentId} {card : AgentCard}
      (fresh : system.shared.registry.contains agentId = false) :
      Stepped config system now (.discovered agentId card)
        { system with
          shared := { system.shared with
            registry := system.shared.registry.register agentId card } }
  | began {taskId : TaskId} {taskDescription : String}
      (fresh : system.sends.contains taskId = false) :
      Stepped config system now (.beginTask taskId taskDescription)
        { system with
          sends := system.sends.set taskId
            ⟨taskDescription, beginSend config system.shared.registry now taskDescription⟩ }
  | task {taskId : TaskId} {event : SendEvent} {task : SendTask} {effects : List Effect}
      {phase : SendPhase} (found : system.sends.get? taskId = some task)
      (segment : task.step config system.shared.registry now taskId event =
        some (effects, phase)) :
      Stepped config system now (.task taskId event)
        { system with
          shared := system.shared.applyAll effects
          selectionLock := lockAfter system.selectionLock taskId phase
          sends := system.sends.set taskId { task with phase := phase } }
  | recovery {event : RecoveryEvent} {shared : Shared} {worker : RecoveryWorker}
      (moved : system.recovery.Moved system.shared event shared worker) :
      Stepped config system now (.recovery event)
        { system with shared := shared, recovery := worker }
  | healthCheck :
      Stepped config system now .healthCheck
        { system with
          checks := system.checks ++ healthCheckAgents system.shared.registry }
  | check {index : Nat} {event : HealthCheckEvent} {effects : List Effect}
      {checks : List HealthCheck}
      (does : effects = [] ∨ ∃ agentId, system.shared.registry.getStatus agentId = .available ∧
        effects = [.updateStatus (some agentId) .broken (some .offline) none,
          .putRecovery ⟨some agentId, now.time, .healthCheck⟩]) :
      Stepped config system now (.check index event)
        { system with shared := system.shared.applyAll effects, checks := checks }
  | startGroup {testType : String} {testCases : List TestCase} {agentIds : List AgentId}
      {group : TestGroup}
      (started : executeTestGroup system.shared.registry testType testCases agentIds =
        some group) :
      Stepped config system now (.startGroup testType testCases agentIds)
        { system with groups := system.groups ++ [group] }
  | group {index : Nat} {event : GroupEvent} {group next : TestGroup} {effects : List Effect}
      (found : system.groups[index]? = some group) (delivers : system.Delivers group event)
      (stepped : group.Stepped system.shared.registry now event effects next)
      (begins : beginsTask next event = none) :
      Stepped config system now (.group index event)
        { system with
          shared := system.shared.applyAll effects
          groups := system.groups.set index next }
  | groupBegan {index : Nat} {event : GroupEvent} {group next : TestGroup}
      {effects : List Effect} {taskId : TaskId} {taskDescription : String}
      (found : system.groups[index]? = some group) (delivers : system.Delivers group event)
      (stepped : group.Stepped system.shared.registry now event effects next)
      (begins : beginsTask next event = some (taskId, taskDescription))
      (fresh : system.sends.contains taskId = false) :
      Stepped config system now (.group index event)
        { system with
          shared := system.shared.applyAll effects
          sends := system.sends.set taskId
            ⟨taskDescription,
              beginSend config (system.shared.applyAll effects).registry now taskDescription⟩
          groups := system.groups.set index next }

section Inversion

variable {config : OrchestratorConfig} {now : Instant} {system next : System}

theorem System.begin_eq_some {taskId : TaskId} {taskDescription : String}
    (begun : system.begin config now taskId taskDescription = some next) :
    system.sends.contains taskId = false ∧
      next = { system with
        sends := system.sends.set taskId
          ⟨taskDescription, beginSend config system.shared.registry now taskDescription⟩ } := by
  unfold System.begin at begun
  split at begun
  · cases begun
  · rename_i fresh
    cases begun
    exact ⟨Bool.eq_false_iff.mpr fresh, rfl⟩

theorem System.stepped_of_group {index : Nat} {event : GroupEvent}
    (step : system.group config now index event = some next) :
    system.Stepped config now (.group index event) next := by
  simp only [System.group, Option.bind_eq_bind, Option.bind_eq_some_iff,
    Option.guard_eq_some', exists_const, Prod.exists] at step
  obtain ⟨group, found, delivers, effects, nextGroup, stepped, rest⟩ := step
  have segment := TestGroup.stepped_of_step stepped
  split at rest
  · rename_i begins
    cases rest
    exact .group found delivers segment begins
  · rename_i taskId taskDescription begins
    obtain ⟨fresh, rfl⟩ := System.begin_eq_some rest
    exact .groupBegan found delivers segment begins fresh

/-- Every step is one of the listed ones. -/
theorem System.stepped_of_step {event : SystemEvent}
    (step : system.step config event = some next) :
    system.Stepped config event.now event.action next := by
  obtain ⟨now, action⟩ := event
  cases action with
  | discovered agentId card =>
      simp only [System.step] at step
      split at step
      · cases step
      · rename_i fresh
        cases step
        exact .discovered (Bool.eq_false_iff.mpr fresh)
  | beginTask taskId taskDescription =>
      obtain ⟨fresh, rfl⟩ := System.begin_eq_some step
      exact .began fresh
  | task taskId taskEvent =>
      simp only [System.step, System.task, Option.bind_eq_bind, Option.bind_eq_some_iff,
        Option.guard_eq_some', exists_const, Prod.exists, Option.pure_def,
        Option.some.injEq] at step
      obtain ⟨task, found, -, effects, phase, stepped, rfl⟩ := step
      exact .task found stepped
  | recovery recoveryEvent =>
      simp only [System.step, System.recover, Option.bind_eq_bind, Option.bind_eq_some_iff,
        Prod.exists, Option.pure_def, Option.some.injEq] at step
      obtain ⟨shared, worker, stepped, rfl⟩ := step
      exact .recovery (RecoveryWorker.moved_of_step stepped)
  | healthCheck =>
      cases step
      exact .healthCheck
  | check index checkEvent =>
      simp only [System.step, System.check, Option.bind_eq_bind, Option.bind_eq_some_iff,
        Prod.exists, Option.pure_def, Option.some.injEq] at step
      obtain ⟨check, -, effects, left, stepped, rfl⟩ := step
      exact .check (HealthCheck.effects_of_step stepped)
  | startGroup testType testCases agentIds =>
      simp only [System.step, Option.map_eq_some_iff] at step
      obtain ⟨group, started, rfl⟩ := step
      exact .startGroup started
  | group index groupEvent => exact System.stepped_of_group step

end Inversion

end QuAIA.Orchestrator
