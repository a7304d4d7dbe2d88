import QuAIA.Orchestrator.System

/-!
Contract: on which agent a worker's test runs, and which agent is blamed when it
fails.

Owns: the states in which every test is reserved on the agent of the worker that
holds it and every recovery entry names the agent that its task reserved; the
steps that keep this; and the equivalence of the two along every run.

The agent of a worker is not an argument of the dispatch: the routing model
chooses among all registered agents, and the failure handler of the worker
blames its own agent.
-/

set_option autoImplicit false

namespace QuAIA.Orchestrator

open QuAIA.Common
open QuAIA.Library

/-! ## Attribution -/

def System.workers (system : System) : List Worker := system.groups.flatMap TestGroup.workers

/-- Every worker works for an agent of its group's pool. -/
def System.Pooled (system : System) : Prop :=
  ∀ group ∈ system.groups, ∀ worker ∈ group.workers, worker.agentId ∈ group.poolAgentIds

/-- Every test in a worker's hand is reserved on the worker's agent or not yet, and
every agent handed to the recovery worker because of a task is the one that the
task reserved. -/
structure System.Attributed (system : System) : Prop where
  pooled : system.Pooled
  reserved : ∀ worker ∈ system.workers, ∀ taskId ∈ worker.phase.task,
    ∀ task ∈ system.sends.get? taskId, ∀ agentId ∈ task.phase.agentId,
      agentId = worker.agentId
  blamed : ∀ entry ∈ system.shared.recoveryLog, ∀ taskId ∈ entry.origin.task,
    ∃ task ∈ system.sends.get? taskId, entry.agentId = task.phase.agentId

/-- The routing model, asked for a worker's test, names the worker's agent or none
that is still free. -/
def System.RoutesToOwner (config : OrchestratorConfig) (system : System) (taskId : TaskId)
    (event : SendEvent) : Prop :=
  ∀ worker ∈ system.workers, worker.phase.task = some taskId →
    ∀ task ∈ system.sends.get? taskId, ∀ answer ∈ task.routed event,
      answer ∈ system.shared.registry.getAvailableAgents config.maxSlotsPerAgent →
        (system.shared.registry.getCard answer).isSome → answer = worker.agentId

/-- A worker's execution raises only after its task reserved an agent. -/
def System.FailsReserved (now : Instant) (system : System) (group : TestGroup)
    (event : GroupEvent) : Prop :=
  ∀ point ∈ group.exitPoint system.shared.registry now event,
    match point with
    | .check _ _ => True
    | .handler index _ =>
        ∀ worker ∈ group.workers[index]?, ∀ taskId ∈ worker.phase.task,
          ∃ task ∈ system.sends.get? taskId, task.phase.agentId ≠ none

def System.KeepsAttribution (config : OrchestratorConfig) (system : System)
    (event : SystemEvent) : Prop :=
  match event.action with
  | .task taskId taskEvent => system.RoutesToOwner config taskId taskEvent
  | .group index groupEvent =>
      ∀ group ∈ system.groups[index]?, system.FailsReserved event.now group groupEvent
  | _ => True

/-- The task of every test in a worker's hand exists, and has finished when the
worker no longer waits for it or a recovery entry was put for it. -/
structure System.TasksKnown (system : System) : Prop where
  held : ∀ worker ∈ system.workers, ∀ taskId ∈ worker.phase.task,
    ∃ task ∈ system.sends.get? taskId,
      worker.phase.awaits = none → task.phase.finished = true
  logged : ∀ entry ∈ system.shared.recoveryLog, ∀ taskId ∈ entry.origin.task,
    ∃ task ∈ system.sends.get? taskId, task.phase.finished = true

/-- A worker's test is reserved on the worker's agent also where the tasks have only
grown. -/
theorem System.Attributed.reserved_of_grows {system : System} (attributed : system.Attributed)
    (known : system.TasksKnown) {sends : Dict TaskId SendTask}
    (grows : ∀ taskId task, system.sends.get? taskId = some task → sends.get? taskId = some task)
    {worker : Worker} (member : worker ∈ system.workers) {taskId : TaskId}
    (holds : worker.phase.task = some taskId) {task : SendTask}
    (isTask : sends.get? taskId = some task) {agentId : AgentId}
    (isReserved : task.phase.agentId = some agentId) : agentId = worker.agentId := by
  obtain ⟨before, isBefore, -⟩ := known.held worker member taskId holds
  obtain rfl : before = task :=
    Option.some.inj ((grows taskId before isBefore).symm.trans isTask)
  exact attributed.reserved worker member taskId holds before isBefore agentId isReserved

/-! ## Segments of a task -/

section Tasks

variable {config : OrchestratorConfig} {now : Instant} {system : System} {taskId : TaskId}
  {task : SendTask} {chosen : Option AgentId} {effects : List Effect} {phase : SendPhase}

/-- The state after a segment of a task. -/
def System.afterTask (system : System) (taskId : TaskId) (task : SendTask)
    (effects : List Effect) (phase : SendPhase) : System :=
  { system with
    shared := system.shared.applyAll effects
    selectionLock := lockAfter system.selectionLock taskId phase
    sends := system.sends.set taskId { task with phase := phase } }

theorem System.TasksKnown.segment (known : system.TasksKnown)
    (found : system.sends.get? taskId = some task)
    (moved : task.phase.Moved config system.shared.registry now taskId chosen effects phase) :
    (system.afterTask taskId task effects phase).TasksKnown where
  held worker member other holds := by
    obtain ⟨held, isHeld, settled⟩ := known.held worker member other holds
    by_cases same : other = taskId
    · subst same
      obtain rfl : task = held := Option.some.inj (found.symm.trans isHeld)
      refine ⟨_, Dict.get?_set_self _ _ _, ?_⟩
      intro done
      exact moved.finished (settled done)
    · exact ⟨held, (Dict.get?_set_other _ _ same).trans isHeld, settled⟩
  logged entry member other isFor := by
    simp only [System.afterTask, Shared.applyAll_recoveryLog] at member
    rcases List.mem_append.mp member with earlier | put
    · obtain ⟨logged, isLogged, settled⟩ := known.logged entry earlier other isFor
      by_cases same : other = taskId
      · subst same
        obtain rfl : task = logged := Option.some.inj (found.symm.trans isLogged)
        exact ⟨_, Dict.get?_set_self _ _ _, moved.finished settled⟩
      · exact ⟨logged, (Dict.get?_set_other _ _ same).trans isLogged, settled⟩
    · obtain ⟨origin, -, settled⟩ := moved.entries put
      obtain rfl : taskId = other := by
        rw [origin] at isFor
        exact Option.some.inj isFor
      exact ⟨_, Dict.get?_set_self _ _ _, settled⟩

/-- A task for which an entry was put reserves no more. -/
theorem agentId_of_logged
    (moved : task.phase.Moved config system.shared.registry now taskId chosen effects phase)
    (settled : task.phase.finished = true) : phase.agentId = task.phase.agentId := by
  rw [moved.agentId]
  cases chosen with
  | none => rfl
  | some agentId =>
      have unreserved := moved.unreserved_of_chosen
      cases isPhase : task.phase with
      | closing agentId outcome =>
          rw [isPhase] at unreserved
          cases unreserved
      | returned agentId outcome =>
          rw [isPhase] at unreserved
          cases unreserved
      | _ =>
          rw [isPhase] at settled
          cases settled

theorem System.RoutesToOwner.of_reserves {event : SendEvent} {worker : Worker}
    {agentId : AgentId} (owner : system.RoutesToOwner config taskId event)
    (member : worker ∈ system.workers) (holds : worker.phase.task = some taskId)
    (found : system.sends.get? taskId = some task)
    (reserved : task.reserves config system.shared.registry event = some agentId) :
    agentId = worker.agentId := by
  obtain ⟨routed, free⟩ := Option.filter_eq_some_iff.mp reserved
  obtain ⟨isFree, hasCard⟩ := of_decide_eq_true free
  exact owner worker member holds task found agentId routed isFree hasCard

/-- Where the attribution is kept, the reservation went to the worker's agent. -/
theorem System.Attributed.routesToOwner {event : SendEvent}
    (after : (system.afterTask taskId task effects phase).Attributed)
    (found : system.sends.get? taskId = some task)
    (moved : task.phase.Moved config system.shared.registry now taskId
      (task.reserves config system.shared.registry event) effects phase) :
    system.RoutesToOwner config taskId event := by
  intro worker member holds other isTask agentId routed free hasCard
  obtain rfl : task = other := Option.some.inj (found.symm.trans isTask)
  have chosen : task.reserves config system.shared.registry event = some agentId :=
    Option.filter_eq_some_iff.mpr ⟨routed, decide_eq_true ⟨free, hasCard⟩⟩
  have reserved : phase.agentId = some agentId := by
    rw [moved.agentId, chosen]
    rfl
  exact after.reserved worker member taskId holds _ (Dict.get?_set_self _ _ _) agentId reserved

/-- A reservation for a worker's test that goes to the worker's agent keeps the
attribution. -/
theorem System.Attributed.segment (known : system.TasksKnown) (attributed : system.Attributed)
    {event : SendEvent} (found : system.sends.get? taskId = some task)
    (moved : task.phase.Moved config system.shared.registry now taskId
      (task.reserves config system.shared.registry event) effects phase)
    (owner : system.RoutesToOwner config taskId event) :
    (system.afterTask taskId task effects phase).Attributed where
  pooled := attributed.pooled
  reserved worker member other holds after isAfter agentId reserved := by
    by_cases same : other = taskId
    · subst same
      obtain rfl : { task with phase := phase } = after :=
        Option.some.inj ((Dict.get?_set_self _ _ _).symm.trans isAfter)
      have reservedAfter : phase.agentId = some agentId := reserved
      rw [moved.agentId] at reservedAfter
      cases chosen : task.reserves config system.shared.registry event with
      | none =>
          rw [chosen] at reservedAfter
          exact attributed.reserved worker member other holds task found agentId reservedAfter
      | some picked =>
          rw [chosen] at reservedAfter
          obtain rfl : picked = agentId := Option.some.inj reservedAfter
          exact owner.of_reserves member holds found chosen
    · have before := (Dict.get?_set_other _ _ same).symm.trans isAfter
      exact attributed.reserved worker member other holds after before agentId reserved
  blamed entry member other isFor := by
    simp only [System.afterTask, Shared.applyAll_recoveryLog] at member
    rcases List.mem_append.mp member with earlier | put
    · obtain ⟨logged, isLogged, named⟩ := attributed.blamed entry earlier other isFor
      by_cases same : other = taskId
      · subst same
        obtain ⟨settledTask, isSettled, settled⟩ := known.logged entry earlier other isFor
        obtain rfl : task = logged := Option.some.inj (found.symm.trans isLogged)
        obtain rfl : task = settledTask := Option.some.inj (found.symm.trans isSettled)
        refine ⟨_, Dict.get?_set_self _ _ _, ?_⟩
        rw [named]
        exact (agentId_of_logged moved settled).symm
      · exact ⟨logged, (Dict.get?_set_other _ _ same).trans isLogged, named⟩
    · obtain ⟨origin, named, -⟩ := moved.entries put
      obtain rfl : taskId = other := by
        rw [origin] at isFor
        exact Option.some.inj isFor
      exact ⟨_, Dict.get?_set_self _ _ _, named⟩

/-- **A segment of a task** keeps the attribution exactly when a reservation for a
worker's test goes to the worker's agent. -/
theorem attributed_task_iff (known : system.TasksKnown) (attributed : system.Attributed)
    {event : SendEvent} (found : system.sends.get? taskId = some task)
    (moved : task.phase.Moved config system.shared.registry now taskId
      (task.reserves config system.shared.registry event) effects phase) :
    (system.afterTask taskId task effects phase).Attributed ↔
      system.RoutesToOwner config taskId event :=
  ⟨fun after => after.routesToOwner found moved, attributed.segment known found moved⟩

end Tasks

/-! ## Segments of a group -/

section Groups

variable {config : OrchestratorConfig} {now : Instant} {system : System} {index : Nat}
  {group next : TestGroup} {event : GroupEvent} {effects : List Effect}

/-- The state after a segment of a group. -/
def System.afterGroup (system : System) (index : Nat) (next : TestGroup)
    (effects : List Effect) (sends : Dict TaskId SendTask) : System :=
  { system with
    shared := system.shared.applyAll effects
    sends := sends
    groups := system.groups.set index next }

theorem mem_workers_set {worker : Worker}
    (member : worker ∈ (system.groups.set index next).flatMap TestGroup.workers) :
    worker ∈ system.workers ∨ worker ∈ next.workers := by
  obtain ⟨holder, inGroups, inHolder⟩ := List.mem_flatMap.mp member
  rcases List.mem_or_eq_of_mem_set inGroups with earlier | rfl
  · exact Or.inl (List.mem_flatMap.mpr ⟨holder, earlier, inHolder⟩)
  · exact Or.inr inHolder

theorem mem_workers_of_group (found : system.groups[index]? = some group) {worker : Worker}
    (member : worker ∈ group.workers) : worker ∈ system.workers :=
  List.mem_flatMap.mpr ⟨group, List.mem_of_getElem? found, member⟩

/-- A segment of a group keeps its workers in its pool. -/
theorem pooled_set (found : system.groups[index]? = some group)
    (stepped : group.Stepped system.shared.registry now event effects next)
    (pooled : system.Pooled) :
    ∀ group ∈ system.groups.set index next, ∀ worker ∈ group.workers,
      worker.agentId ∈ group.poolAgentIds := by
  intro other inGroups worker member
  rcases List.mem_or_eq_of_mem_set inGroups with earlier | rfl
  · exact pooled other earlier worker member
  · have inPool := pooled group (List.mem_of_getElem? found)
    rw [stepped.poolAgentIds]
    rcases stepped.worker_cases member with unmoved | ⟨position, old, -, wasOld, -, sameAgent, -⟩
    · exact inPool worker unmoved
    · rw [sameAgent]
      exact inPool old (List.mem_of_getElem? wasOld)

/-- A resumed worker that waits for a task has begun it. -/
theorem beginsTask_of_awaits {worker : Worker} {position : Nat} {taskId : TaskId}
    (resumed : event.worker = some position) (after : next.workers[position]? = some worker)
    (awaits : worker.phase.awaits = some taskId) :
    ∃ taskDescription, beginsTask next event = some (taskId, taskDescription) := by
  cases isPhase : worker.phase with
  | sending testCase testType startTimestamp sent =>
      rw [isPhase] at awaits
      obtain rfl : sent = taskId := Option.some.inj awaits
      exact ⟨singleTestDescription testCase testType,
        by simp [beginsTask, resumed, after, isPhase]⟩
  | _ =>
      rw [isPhase] at awaits
      cases awaits

/-- A worker is resumed with an outcome only when its task has finished. -/
theorem finished_of_delivers {worker : Worker} {position : Nat} {taskId : TaskId}
    {outcome : SendOutcome} (delivers : system.Delivers group (.sent position outcome))
    (found : group.workers[position]? = some worker)
    (awaits : worker.phase.awaits = some taskId) :
    ∃ task ∈ system.sends.get? taskId, task.phase.finished = true := by
  obtain ⟨resumed, isResumed, sent, isSent, task, isTask, hasOutcome⟩ := delivers
  obtain rfl : worker = resumed := Option.some.inj (found.symm.trans isResumed)
  obtain rfl : taskId = sent := Option.some.inj (awaits.symm.trans isSent)
  refine ⟨task, isTask, ?_⟩
  cases isPhase : task.phase with
  | returned agentId result => rfl
  | _ =>
      rw [isPhase] at hasOutcome
      cases hasOutcome

/-- How the tasks change in a segment of a group: none is touched, and the one that
a worker begins has no agent yet. -/
structure TasksBegun (system : System) (next : TestGroup) (event : GroupEvent)
    (sends : Dict TaskId SendTask) : Prop where
  grows : ∀ taskId task, system.sends.get? taskId = some task → sends.get? taskId = some task
  begun : ∀ taskId taskDescription, beginsTask next event = some (taskId, taskDescription) →
    ∃ task ∈ sends.get? taskId, task.phase.agentId = none

/-- The entries put in a segment of a group, for a test in a worker's hand. -/
theorem entry_of_group (stepped : group.Stepped system.shared.registry now event effects next)
    {entry : RecoveryEntry} (put : entry ∈ effects.filterMap Effect.entry) :
    ∃ position worker taskId, group.workers[position]? = some worker ∧
      worker.phase.task = some taskId ∧
      (worker.phase.awaits = some taskId → ∃ outcome, event = .sent position outcome) ∧
      group.exitPoint system.shared.registry now event =
        some (.handler position worker.agentId) ∧
      entry.agentId = some worker.agentId ∧ entry.origin = .worker taskId := by
  rcases stepped.handler_cases with
    ⟨rfl, -⟩ | ⟨position, worker, taskId, found, holds, sent, reached, rfl⟩
  · cases put
  · obtain rfl : entry = _ := List.mem_singleton.mp put
    exact ⟨position, worker, taskId, found, holds, sent, reached, rfl, rfl⟩

/-- A worker holds the task of its test while it waits for it. -/
theorem task_of_awaits {phase : WorkerPhase} {taskId : TaskId}
    (awaits : phase.awaits = some taskId) : phase.task = some taskId := by
  cases phase with
  | sending testCase testType startTimestamp sent => exact awaits
  | _ => cases awaits

theorem awaits_none_or_task {phase : WorkerPhase} {taskId : TaskId}
    (holds : phase.task = some taskId) : phase.awaits = none ∨ phase.awaits = some taskId := by
  cases phase with
  | sending testCase testType startTimestamp sent => exact Or.inr holds
  | extracting testCase testType extraction sent => exact Or.inl rfl
  | _ => cases holds

theorem System.TasksKnown.groupSegment (known : system.TasksKnown)
    (found : system.groups[index]? = some group) (delivers : system.Delivers group event)
    (stepped : group.Stepped system.shared.registry now event effects next)
    {sends : Dict TaskId SendTask} (tasks : TasksBegun system next event sends) :
    (system.afterGroup index next effects sends).TasksKnown where
  held worker member taskId holds := by
    rcases mem_workers_set member with earlier | inNext
    · obtain ⟨task, isTask, settled⟩ := known.held worker earlier taskId holds
      exact ⟨task, tasks.grows taskId task isTask, settled⟩
    · rcases stepped.worker_cases inNext with
        unmoved | ⟨position, old, resumed, before, after, -, isAwaited | ⟨wasAwaited, sent⟩⟩
      · obtain ⟨task, isTask, settled⟩ :=
          known.held worker (mem_workers_of_group found unmoved) taskId holds
        exact ⟨task, tasks.grows taskId task isTask, settled⟩
      · have awaits : worker.phase.awaits = some taskId := isAwaited.symm.trans holds
        obtain ⟨taskDescription, begins⟩ := beginsTask_of_awaits resumed after awaits
        obtain ⟨task, isTask, -⟩ := tasks.begun taskId taskDescription begins
        refine ⟨task, isTask, ?_⟩
        intro notWaiting
        rw [awaits] at notWaiting
        cases notWaiting
      · obtain ⟨outcome, rfl⟩ := sent
        have awaited : old.phase.awaits = some taskId := wasAwaited.symm.trans holds
        obtain ⟨task, isTask, settled⟩ := finished_of_delivers delivers before awaited
        exact ⟨task, tasks.grows taskId task isTask, fun _ => settled⟩
  logged entry member taskId isFor := by
    simp only [System.afterGroup, Shared.applyAll_recoveryLog] at member
    rcases List.mem_append.mp member with earlier | put
    · obtain ⟨task, isTask, settled⟩ := known.logged entry earlier taskId isFor
      exact ⟨task, tasks.grows taskId task isTask, settled⟩
    · obtain ⟨position, worker, blamed, before, holds, sent, -, -, origin⟩ :=
        entry_of_group stepped put
      obtain rfl : blamed = taskId := by
        rw [origin] at isFor
        exact Option.some.inj isFor
      have member := mem_workers_of_group found (List.mem_of_getElem? before)
      rcases awaits_none_or_task holds with done | awaits
      · obtain ⟨task, isTask, settled⟩ := known.held worker member blamed holds
        exact ⟨task, tasks.grows blamed task isTask, settled done⟩
      · obtain ⟨outcome, rfl⟩ := sent awaits
        obtain ⟨task, isTask, settled⟩ := finished_of_delivers delivers before awaits
        exact ⟨task, tasks.grows blamed task isTask, settled⟩

/-- Where the attribution is kept, a failure handler ran for a reserved test. -/
theorem System.Attributed.failsReserved {sends : Dict TaskId SendTask}
    (after : (system.afterGroup index next effects sends).Attributed) (known : system.TasksKnown)
    (found : system.groups[index]? = some group)
    (stepped : group.Stepped system.shared.registry now event effects next)
    (tasks : TasksBegun system next event sends) : system.FailsReserved now group event := by
  intro point reached
  cases point with
  | check position agentId => trivial
  | handler position agentId =>
      rcases stepped.handler_cases with
        ⟨-, unreached⟩ | ⟨failed, worker, blamed, before, holds, -, failedAt, rfl⟩
      · exact absurd reached (unreached position agentId)
      · obtain ⟨rfl, rfl⟩ : failed = position ∧ worker.agentId = agentId := by
          have same := failedAt.symm.trans reached
          simpa using same
        intro other isOther taskId isHeld
        obtain rfl : worker = other := Option.some.inj (before.symm.trans isOther)
        obtain rfl : blamed = taskId := Option.some.inj (holds.symm.trans isHeld)
        have member := mem_workers_of_group found (List.mem_of_getElem? before)
        obtain ⟨task, isTask, -⟩ := known.held worker member blamed holds
        have inLog : (⟨some worker.agentId, now.time, .worker blamed⟩ : RecoveryEntry) ∈
            (system.shared.applyAll (failureEffects now worker.agentId blamed)).recoveryLog := by
          rw [Shared.applyAll_recoveryLog]
          exact List.mem_append_right _ (List.mem_singleton.mpr rfl)
        obtain ⟨executed, isExecuted, named⟩ := after.blamed _ inLog blamed rfl
        obtain rfl : task = executed :=
          Option.some.inj ((tasks.grows blamed task isTask).symm.trans isExecuted)
        refine ⟨task, isTask, ?_⟩
        rw [← named]
        exact nofun

/-- A segment whose failure handler runs only for a reserved test keeps the
attribution. -/
theorem System.Attributed.groupSegment (known : system.TasksKnown)
    (attributed : system.Attributed) (found : system.groups[index]? = some group)
    (stepped : group.Stepped system.shared.registry now event effects next)
    {sends : Dict TaskId SendTask} (tasks : TasksBegun system next event sends)
    (reserved : system.FailsReserved now group event) :
    (system.afterGroup index next effects sends).Attributed where
  pooled := pooled_set found stepped attributed.pooled
  reserved worker member taskId holds task isTask agentId isReserved := by
    have ofHeld {owner : Worker} (member : owner ∈ system.workers)
        (held : owner.phase.task = some taskId) : agentId = owner.agentId :=
      attributed.reserved_of_grows known tasks.grows member held isTask isReserved
    rcases mem_workers_set member with earlier | inNext
    · exact ofHeld earlier holds
    · rcases stepped.worker_cases inNext with
        unmoved | ⟨position, old, resumed, wasOld, after, sameAgent,
          isAwaited | ⟨wasAwaited, sent⟩⟩
      · exact ofHeld (mem_workers_of_group found unmoved) holds
      · -- the task that the worker has just begun has no agent
        have awaits : worker.phase.awaits = some taskId := isAwaited.symm.trans holds
        obtain ⟨taskDescription, begins⟩ := beginsTask_of_awaits resumed after awaits
        obtain ⟨fresh, isFresh, unreserved⟩ := tasks.begun taskId taskDescription begins
        obtain rfl : fresh = task := Option.some.inj (isFresh.symm.trans isTask)
        have noAgent := unreserved.symm.trans isReserved
        cases noAgent
      · have member := mem_workers_of_group found (List.mem_of_getElem? wasOld)
        rw [sameAgent]
        exact ofHeld member (task_of_awaits (wasAwaited.symm.trans holds))
  blamed entry member taskId isFor := by
    simp only [System.afterGroup, Shared.applyAll_recoveryLog] at member
    rcases List.mem_append.mp member with earlier | put
    · obtain ⟨task, isTask, named⟩ := attributed.blamed entry earlier taskId isFor
      exact ⟨task, tasks.grows taskId task isTask, named⟩
    · obtain ⟨position, worker, blamed, before, holds, -, reached, named, origin⟩ :=
        entry_of_group stepped put
      obtain rfl : blamed = taskId := by
        rw [origin] at isFor
        exact Option.some.inj isFor
      obtain ⟨task, isTask, hasAgent⟩ := reserved _ reached worker before blamed holds
      refine ⟨task, tasks.grows blamed task isTask, ?_⟩
      obtain ⟨agentId, isAgent⟩ := Option.ne_none_iff_exists'.mp hasAgent
      have member := mem_workers_of_group found (List.mem_of_getElem? before)
      have same := attributed.reserved worker member blamed holds task isTask agentId isAgent
      rw [named, isAgent, same]

/-- **A segment of a group** keeps the attribution exactly when a failure handler
runs only for a test that was reserved. -/
theorem attributed_group_iff (known : system.TasksKnown) (attributed : system.Attributed)
    (found : system.groups[index]? = some group)
    (stepped : group.Stepped system.shared.registry now event effects next)
    {sends : Dict TaskId SendTask} (tasks : TasksBegun system next event sends) :
    (system.afterGroup index next effects sends).Attributed ↔
      system.FailsReserved now group event :=
  ⟨fun after => after.failsReserved known found stepped tasks,
    attributed.groupSegment known found stepped tasks⟩

end Groups

/-! ## Steps and runs -/

section Runs

variable {config : OrchestratorConfig}

/-- A group that has just started has one worker for each agent of its pool, without
a test. -/
theorem idle_of_started {registry : AgentRegistry} {testType : String}
    {testCases : List TestCase} {agentIds : List AgentId} {group : TestGroup}
    (started : executeTestGroup registry testType testCases agentIds = some group)
    {worker : Worker} (member : worker ∈ group.workers) :
    worker.phase.task = none ∧ worker.agentId ∈ group.poolAgentIds := by
  unfold executeTestGroup at started
  dsimp only at started
  split at started
  · cases started
  · cases started
    obtain ⟨agentId, inPool, rfl⟩ := List.mem_map.mp member
    exact ⟨rfl, inPool⟩

theorem tasksBegun_refl {system : System} {next : TestGroup} {event : GroupEvent}
    (begins : beginsTask next event = none) : TasksBegun system next event system.sends where
  grows _ _ isTask := isTask
  begun taskId taskDescription begun := by
    rw [begins] at begun
    cases begun

theorem tasksBegun_set {system : System} {next : TestGroup} {event : GroupEvent}
    {taskId : TaskId} {taskDescription : String} (registry : AgentRegistry) (now : Instant)
    (begins : beginsTask next event = some (taskId, taskDescription))
    (fresh : system.sends.contains taskId = false) :
    TasksBegun system next event (system.sends.set taskId
      ⟨taskDescription, beginSend config registry now taskDescription⟩) where
  grows _ _ isTask := Dict.get?_set_of_fresh fresh isTask _
  begun begunId description begun := by
    obtain ⟨rfl, rfl⟩ : taskId = begunId ∧ taskDescription = description := by
      have same := begins.symm.trans begun
      simpa using same
    exact ⟨_, Dict.get?_set_self _ _ _, beginSend_agentId taskDescription⟩

theorem System.tasksKnown_initial : System.initial.TasksKnown where
  held := nofun
  logged := nofun

theorem System.attributed_initial : System.initial.Attributed where
  pooled := nofun
  reserved := nofun
  blamed := nofun

/-- A step that resumes neither a task nor a worker: no test is taken, no task
changes, no entry is put for a task. -/
structure AttributionFrame (system next : System) : Prop where
  pooled : system.Pooled → next.Pooled
  workers : ∀ worker ∈ next.workers, ∀ taskId ∈ worker.phase.task, worker ∈ system.workers
  sends : ∀ taskId task, system.sends.get? taskId = some task →
    next.sends.get? taskId = some task
  entries : ∀ entry ∈ next.shared.recoveryLog, ∀ taskId ∈ entry.origin.task,
    entry ∈ system.shared.recoveryLog

theorem AttributionFrame.known {system next : System} (frame : AttributionFrame system next)
    (known : system.TasksKnown) : next.TasksKnown where
  held worker member taskId holds := by
    have earlier := frame.workers worker member taskId holds
    obtain ⟨task, isTask, settled⟩ := known.held worker earlier taskId holds
    exact ⟨task, frame.sends taskId task isTask, settled⟩
  logged entry member taskId isFor := by
    have earlier := frame.entries entry member taskId isFor
    obtain ⟨task, isTask, settled⟩ := known.logged entry earlier taskId isFor
    exact ⟨task, frame.sends taskId task isTask, settled⟩

theorem AttributionFrame.attributed {system next : System}
    (frame : AttributionFrame system next) (known : system.TasksKnown)
    (attributed : system.Attributed) : next.Attributed where
  pooled := frame.pooled attributed.pooled
  reserved worker member taskId holds task isTask agentId isReserved := by
    have earlier := frame.workers worker member taskId holds
    exact attributed.reserved_of_grows known frame.sends earlier holds isTask isReserved
  blamed entry member taskId isFor := by
    have earlier := frame.entries entry member taskId isFor
    obtain ⟨task, isTask, named⟩ := attributed.blamed entry earlier taskId isFor
    exact ⟨task, frame.sends taskId task isTask, named⟩

/-- Every step but those of tasks and groups leaves the attribution alone. -/
theorem System.Stepped.frame {now : Instant} {system next : System} {action : SystemAction}
    (stepped : system.Stepped config now action next)
    (noTask : ∀ taskId event, action ≠ .task taskId event)
    (noGroup : ∀ index event, action ≠ .group index event) : AttributionFrame system next := by
  cases stepped with
  | task found segment => exact absurd rfl (noTask _ _)
  | group found delivers stepped begins => exact absurd rfl (noGroup _ _)
  | groupBegan found delivers stepped begins fresh => exact absurd rfl (noGroup _ _)
  | discovered fresh =>
      exact ⟨id, fun _ member _ _ => member, fun _ _ isTask => isTask, fun _ member _ _ => member⟩
  | healthCheck =>
      exact ⟨id, fun _ member _ _ => member, fun _ _ isTask => isTask, fun _ member _ _ => member⟩
  | began fresh =>
      exact ⟨id, fun _ member _ _ => member,
        fun _ _ isTask => Dict.get?_set_of_fresh fresh isTask _, fun _ member _ _ => member⟩
  | recovery moved =>
      refine ⟨id, fun _ member _ _ => member, fun _ _ isTask => isTask, ?_⟩
      intro entry member taskId isFor
      rw [moved.recoveryLog] at member
      exact member
  | check does =>
      refine ⟨id, fun _ member _ _ => member, fun _ _ isTask => isTask, ?_⟩
      intro entry member taskId isFor
      simp only [Shared.applyAll_recoveryLog] at member
      rcases List.mem_append.mp member with earlier | put
      · exact earlier
      · rcases does with rfl | ⟨agentId, -, rfl⟩
        · cases put
        · obtain rfl : entry = _ := List.mem_singleton.mp put
          cases isFor
  | startGroup started =>
      refine ⟨?_, ?_, fun _ _ isTask => isTask, fun _ member _ _ => member⟩
      · intro pooled group member worker inGroup
        rcases List.mem_append.mp member with earlier | new
        · exact pooled group earlier worker inGroup
        · obtain rfl := List.mem_singleton.mp new
          exact (idle_of_started started inGroup).2
      intro worker member taskId holds
      simp only [System.workers, List.flatMap_append, List.mem_append] at member
      rcases member with earlier | inGroup
      · exact earlier
      · have idle := (idle_of_started started (by simpa using inGroup)).1
        have none_held := idle.symm.trans holds
        cases none_held

theorem System.tasksKnown_step (system : System) (event : SystemEvent) (next : System)
    (known : system.TasksKnown) (step : system.step config event = some next) :
    next.TasksKnown := by
  have stepped := System.stepped_of_step step
  obtain ⟨now, action⟩ := event
  cases action with
  | task taskId taskEvent =>
      cases stepped with
      | task found segment => exact known.segment found (SendTask.moved_of_step segment)
  | group index groupEvent =>
      cases stepped with
      | group found delivers stepped begins =>
          exact known.groupSegment found delivers stepped (tasksBegun_refl begins)
      | groupBegan found delivers stepped begins fresh =>
          exact known.groupSegment found delivers stepped (tasksBegun_set _ now begins fresh)
  | _ =>
      have frame := stepped.frame (by intro _ _ same; cases same) (by intro _ _ same; cases same)
      exact frame.known known

/-- **Step lemma.** A step keeps the attribution exactly when the routing model and
the failures of the workers do. -/
theorem System.attributed_step_iff (system : System) (event : SystemEvent) (next : System)
    (known : system.TasksKnown) (attributed : system.Attributed)
    (step : system.step config event = some next) :
    next.Attributed ↔ system.KeepsAttribution config event := by
  have stepped := System.stepped_of_step step
  obtain ⟨now, action⟩ := event
  cases action with
  | task taskId taskEvent =>
      cases stepped with
      | task found segment =>
          exact attributed_task_iff known attributed found (SendTask.moved_of_step segment)
  | group index groupEvent =>
      have onlyGroup {group : TestGroup} (found : system.groups[index]? = some group) :
          system.KeepsAttribution config ⟨now, .group index groupEvent⟩ ↔
            system.FailsReserved now group groupEvent := by
        simp [System.KeepsAttribution, found]
      cases stepped with
      | group found delivers stepped begins =>
          rw [onlyGroup found]
          exact attributed_group_iff known attributed found stepped (tasksBegun_refl begins)
      | groupBegan found delivers stepped begins fresh =>
          rw [onlyGroup found]
          exact attributed_group_iff known attributed found stepped
            (tasksBegun_set _ now begins fresh)
  | _ =>
      have frame := stepped.frame (by intro _ _ same; cases same) (by intro _ _ same; cases same)
      exact ⟨fun _ => trivial, fun _ => frame.attributed known attributed⟩

/-! ## Marks -/

/-- The agents that a task or a worker marks as broken are those that it hands to the
recovery worker. -/
def System.MarksWithEntry (config : OrchestratorConfig) (system : System)
    (event : SystemEvent) : Prop :=
  match event.action with
  | .task _ _ | .group _ _ =>
      ∀ next ∈ system.step config event, ∀ agentId,
        system.shared.registry.getStatus agentId ≠ .broken →
        next.shared.registry.getStatus agentId = .broken →
          ∃ entry ∈ next.shared.recoveryLog.drop system.shared.recoveryLog.length,
            entry.agentId = some agentId
  | _ => True

/-- Every mark in a list of effects comes with an entry for the marked agent. -/
def MarksMatched (effects : List Effect) : Prop :=
  ∀ agentId reason stuck, Effect.updateStatus (some agentId) .broken reason stuck ∈ effects →
    ∃ entry ∈ effects.filterMap Effect.entry, entry.agentId = some agentId

theorem entry_of_mark {shared : Shared} {effects : List Effect} {agentId : AgentId}
    (matched : MarksMatched effects) (before : shared.registry.getStatus agentId ≠ .broken)
    (after : (shared.applyAll effects).registry.getStatus agentId = .broken) :
    ∃ entry ∈ (shared.applyAll effects).recoveryLog.drop shared.recoveryLog.length,
      entry.agentId = some agentId := by
  obtain ⟨reason, stuck, marked⟩ := Shared.marked_of_applyAll before after
  rw [Shared.applyAll_recoveryLog, List.drop_left]
  exact matched agentId reason stuck marked

theorem SendPhase.Moved.marksMatched {registry : AgentRegistry} {now : Instant}
    {taskId : TaskId} {before after : SendPhase} {chosen : Option AgentId}
    {effects : List Effect}
    (moved : before.Moved config registry now taskId chosen effects after) :
    MarksMatched effects := by
  intro agentId reason stuck marked
  cases moved with
  | timedOut held =>
      simp [taskTimedOut] at marked
      simp [taskTimedOut, Effect.entry, marked]
  | failed held =>
      simp [communicationFailed] at marked
      simp [communicationFailed, Effect.entry, marked]
  | selectionFailed unreserved => simp [communicationFailed] at marked
  | released held => simp [releaseAgent] at marked
  | reserved unreserved free => simp at marked
  | _ => cases marked

theorem TestGroup.Stepped.marksMatched {registry : AgentRegistry} {now : Instant}
    {group next : TestGroup} {event : GroupEvent} {effects : List Effect}
    (stepped : group.Stepped registry now event effects next) : MarksMatched effects := by
  intro agentId reason stuck marked
  rcases stepped.handler_cases with ⟨rfl, -⟩ | ⟨position, worker, taskId, -, -, -, -, rfl⟩
  · cases marked
  · simp [failureEffects] at marked
    simp [failureEffects, Effect.entry, marked]

theorem System.marksWithEntry (system : System) (event : SystemEvent) :
    system.MarksWithEntry config event := by
  obtain ⟨now, action⟩ := event
  cases action with
  | task taskId taskEvent =>
      intro next step agentId before after
      have stepped := System.stepped_of_step step
      cases stepped with
      | task found segment =>
          exact entry_of_mark (SendTask.moved_of_step segment).marksMatched before after
  | group index groupEvent =>
      intro next step agentId before after
      have stepped := System.stepped_of_step step
      cases stepped with
      | group found delivers stepped begins =>
          exact entry_of_mark stepped.marksMatched before after
      | groupBegan found delivers stepped begins fresh =>
          exact entry_of_mark stepped.marksMatched before after
  | _ => trivial

/-! ## Worker attribution -/

instance (system : System) (taskId : TaskId) (event : SendEvent) :
    Decidable (system.RoutesToOwner config taskId event) :=
  inferInstanceAs (Decidable (∀ worker ∈ system.workers, worker.phase.task = some taskId →
    ∀ task ∈ system.sends.get? taskId, ∀ answer ∈ task.routed event,
      answer ∈ system.shared.registry.getAvailableAgents config.maxSlotsPerAgent →
        (system.shared.registry.getCard answer).isSome → answer = worker.agentId))

instance (now : Instant) (system : System) (group : TestGroup) (event : GroupEvent) :
    Decidable (system.FailsReserved now group event) :=
  haveI (point : ExitPoint) : Decidable
      (match point with
      | .check _ _ => True
      | .handler index _ =>
          ∀ worker ∈ group.workers[index]?, ∀ taskId ∈ worker.phase.task,
            ∃ task ∈ system.sends.get? taskId, task.phase.agentId ≠ none) :=
    match point with
    | .check _ _ => instDecidableTrue
    | .handler index _ =>
        inferInstanceAs (Decidable (∀ worker ∈ group.workers[index]?,
          ∀ taskId ∈ worker.phase.task,
            ∃ task ∈ system.sends.get? taskId, task.phase.agentId ≠ none))
  inferInstanceAs (Decidable (∀ point ∈ group.exitPoint system.shared.registry now event, _))

instance (system : System) : DecidablePred (system.KeepsAttribution config)
  | ⟨_, .task taskId event⟩ =>
      inferInstanceAs (Decidable (system.RoutesToOwner config taskId event))
  | ⟨now, .group index event⟩ =>
      inferInstanceAs (Decidable (∀ group ∈ system.groups[index]?,
        system.FailsReserved now group event))
  | ⟨_, .discovered _ _⟩ => instDecidableTrue
  | ⟨_, .beginTask _ _⟩ => instDecidableTrue
  | ⟨_, .recovery _⟩ => instDecidableTrue
  | ⟨_, .healthCheck⟩ => instDecidableTrue
  | ⟨_, .check _ _⟩ => instDecidableTrue
  | ⟨_, .startGroup _ _ _⟩ => instDecidableTrue

/-- **Worker attribution, exactly.** In every run, all tests run on the agent of the
worker that holds them, and all failures are blamed on the agent that executed
the test, if and only if the routing model names no other free agent for a
worker's test and no handler of a worker runs for a test that was never
reserved. -/
theorem worker_attribution_iff {events : List SystemEvent} {final : System}
    (ran : StepSystem.run (System.step config) System.initial events = some final) :
    (StepSystem.Throughout (System.step config) System.Attributed System.initial events ∧
        StepSystem.Along (System.step config) (System.MarksWithEntry config)
          System.initial events) ↔
      StepSystem.Along (System.step config) (System.KeepsAttribution config)
        System.initial events := by
  have sameStep : ∀ (system : System) (event : SystemEvent) (next : System),
      system.TasksKnown → system.Attributed → system.step config event = some next →
        (next.Attributed ↔ system.KeepsAttribution config event) :=
    System.attributed_step_iff
  have exactRun := StepSystem.throughout_iff_along System.tasksKnown_step sameStep
    System.tasksKnown_initial System.attributed_initial ran
  constructor
  · rintro ⟨attributed, -⟩
    exact exactRun.mp attributed
  · intro kept
    exact ⟨exactRun.mpr kept, StepSystem.along_of_forall System.marksWithEntry _ _⟩

/-- A group with one agent in its pool, next to another registered agent; the routing
model names `routed` for the group's test, and the execution fails. -/
def routedRun (routed : AgentId) : List SystemEvent :=
  [(SystemAction.discovered "agent-1" ⟨"One", ["UI tests"], ["http://one"]⟩).atTime 0,
    (SystemAction.discovered "agent-2" ⟨"Two", ["UI tests"], ["http://two"]⟩).atTime 0,
    (SystemAction.startGroup "UI" [TestCase.named "T-1"] ["agent-1"]).atTime 1,
    (SystemAction.group 0 (.resume 0 "task-1")).atTime 1,
    (SystemAction.task "task-1" .lockAcquired).atTime 1,
    (SystemAction.task "task-1" (.selected (.ok routed))).atTime 2,
    (SystemAction.task "task-1" (.clientFailed "unreachable")).atTime 3,
    (SystemAction.task "task-1" (.closed none)).atTime 4,
    (SystemAction.group 0 (.sent 0 (.error (.exception "unreachable")))).atTime 4]

/-- The test of the worker of `agent-1` ran on `agent-2`, and when it failed there the
worker handed its own agent to the recovery worker. -/
theorem test_runs_on_other_agent :
    ∃ final ∈ StepSystem.run (System.step .default) System.initial (routedRun "agent-2"),
      (∃ task ∈ final.sends.get? "task-1", task.phase.agentId = some "agent-2") ∧
      (∃ entry ∈ final.shared.recoveryLog,
        entry.agentId = some "agent-1" ∧ entry.origin = .worker "task-1") ∧
      ¬final.Attributed := by
  have ends : ∃ final ∈ StepSystem.run (System.step .default) System.initial
        (routedRun "agent-2"),
      (∃ task ∈ final.sends.get? "task-1", task.phase.agentId = some "agent-2") ∧
      (∃ entry ∈ final.shared.recoveryLog,
        entry.agentId = some "agent-1" ∧ entry.origin = .worker "task-1") := by
    decide
  obtain ⟨final, ran, executed, blamed⟩ := ends
  refine ⟨final, ran, executed, blamed, ?_⟩
  intro attributed
  obtain ⟨task, isTask, onOther⟩ := executed
  obtain ⟨entry, logged, onOwn, origin⟩ := blamed
  obtain ⟨same, isSame, named⟩ :=
    attributed.blamed entry logged "task-1" (by rw [origin]; rfl)
  obtain rfl : task = same := Option.some.inj (isTask.symm.trans isSame)
  rw [onOwn, onOther] at named
  exact absurd named (by decide)

/-- When the routing model names the worker's agent, the failed test is attributed
to it throughout. -/
theorem worker_attribution_routed :
    StepSystem.Throughout (System.step .default) System.Attributed System.initial
      (routedRun "agent-1") := by
  have kept : (StepSystem.run (System.step .default) System.initial
        (routedRun "agent-1")).isSome ∧
      StepSystem.Along (System.step .default) (System.KeepsAttribution .default)
        System.initial (routedRun "agent-1") := by
    decide
  obtain ⟨final, ran⟩ := Option.isSome_iff_exists.mp kept.1
  exact ((worker_attribution_iff ran).mpr kept.2).1

end Runs

end QuAIA.Orchestrator
