import QuAIA.Orchestrator.Attribution

/-!
Contract: the list of running tasks that the registry keeps for each agent.

Owns: the ledger of the tasks that were started and have not finished, in start order; the
states in which the registry lists exactly these; and the equivalence with a condition on
every step of the run.

The list is written under the agent, not under the task: whatever ends one task removes all
tasks of its agent.
-/

set_option autoImplicit false

namespace QuAIA.Orchestrator

open QuAIA.Common
open QuAIA.Library

/-! ## The ledger -/

/-- The tasks in flight with their agents, in start order. -/
abbrev RunningTasks := List (AgentId × TaskId)

def RunningTasks.on (running : RunningTasks) (agentId : AgentId) : List TaskId :=
  (running.filter fun entry => entry.1 = agentId).map Prod.snd

/-- The agent on which a task is in flight. -/
def System.agentOf (system : System) (taskId : TaskId) : Option AgentId :=
  (system.sends.get? taskId).bind fun task => task.phase.busyOn

/-- A task starts when it reserves an agent, and finishes when it leaves the chunk loop. -/
def RunningTasks.move (running : RunningTasks) (taskId : TaskId) :
    Option AgentId → Option AgentId → RunningTasks
  | none, some agentId => running ++ [(agentId, taskId)]
  | some _, none => running.filter fun entry => entry.2 ≠ taskId
  | _, _ => running

def RunningTasks.record (system : System) (event : SystemEvent) (next : System)
    (running : RunningTasks) : RunningTasks :=
  match event.action with
  | .task taskId _ => running.move taskId (system.agentOf taskId) (next.agentOf taskId)
  | _ => running

/-- The system beside its ledger. -/
def runningStep (config : OrchestratorConfig) :
    System × RunningTasks → SystemEvent → Option (System × RunningTasks) :=
  StepSystem.observed (System.step config) RunningTasks.record

def AgentRegistry.Lists (registry : AgentRegistry) (running : RunningTasks) : Prop :=
  ∀ agentId, registry.getCurrentTasks agentId = running.on agentId ∧
    registry.getCurrentTask agentId = (running.on agentId).getLast?

/-- The registry lists exactly the tasks that run on each agent, and names the one that was
started last. -/
def ListsRunning (state : System × RunningTasks) : Prop :=
  state.1.shared.registry.Lists state.2

/-- Task ids are not empty. -/
def SystemEvent.NamesTask (event : SystemEvent) : Prop :=
  match event.action with
  | .task taskId _ => taskId ≠ ""
  | _ => True

/-- A task finishes while no other task runs on its agent, and the recovery worker releases
the last slot of an agent while no task runs on it. -/
def FinishesAlone (config : OrchestratorConfig) (state : System × RunningTasks)
    (event : SystemEvent) : Prop :=
  match event.action with
  | .task taskId _ =>
      ∀ next ∈ state.1.step config event, next.agentOf taskId = none →
        ∀ agentId ∈ state.1.agentOf taskId, ∀ other ∈ state.2.on agentId, other = taskId
  | .recovery recoveryEvent =>
      recoveryEvent.releases = true →
        ∀ entry ∈ state.1.recovery.phase.entry, ∀ agentId ∈ entry.agentId,
          state.1.shared.registry.contains agentId = true →
          state.1.shared.registry.slots agentId ≤ 1 → state.2.on agentId = []
  | _ => True

/-- The ledger names the agents of the tasks in flight. -/
def RunningTasks.Tracks (running : RunningTasks) (system : System) : Prop :=
  ∀ agentId taskId, (agentId, taskId) ∈ running ↔ system.agentOf taskId = some agentId

/-! ## Lists -/

section Lists

variable {registry after : AgentRegistry} {running : RunningTasks} {agentId other : AgentId}
  {taskId : TaskId}

theorem lists_iff :
    registry.Lists running ↔
      ∀ agentId, registry.getCurrentTasks agentId = running.on agentId := by
  constructor
  · intro lists agentId
    exact (lists agentId).1
  · intro same agentId
    refine ⟨same agentId, ?_⟩
    rw [← same agentId]
    rfl

theorem mem_on : taskId ∈ running.on agentId ↔ (agentId, taskId) ∈ running := by
  simp [RunningTasks.on]

theorem on_started :
    RunningTasks.on (running ++ [(agentId, taskId)]) other =
      if other = agentId then running.on other ++ [taskId] else running.on other := by
  by_cases same : other = agentId
  · simp [RunningTasks.on, same]
  · simp [RunningTasks.on, same, Ne.symm same]

theorem on_finished :
    RunningTasks.on (running.filter fun entry => entry.2 ≠ taskId) other =
      (running.on other).filter fun entry => entry ≠ taskId := by
  simp only [RunningTasks.on, List.filter_filter, List.filter_map, Function.comp_def, Bool.and_comm]

/-- A list in which no task starts or finishes stays right where the registry's does not
change. -/
theorem AgentRegistry.Lists.congr (lists : registry.Lists running)
    (same : ∀ agentId, after.getCurrentTasks agentId = registry.getCurrentTasks agentId) :
    after.Lists running := by
  rw [lists_iff] at lists ⊢
  intro agentId
  rw [same, lists]

/-- Where the list of one agent is cleared and the other lists are right, all are right exactly
when no task runs on this agent. -/
theorem AgentRegistry.Lists.cleared {left : RunningTasks} (lists : registry.Lists running)
    (cleared : ∀ other, after.getCurrentTasks other =
      if other = agentId then [] else registry.getCurrentTasks other)
    (others : ∀ other, other ≠ agentId → RunningTasks.on left other = running.on other) :
    after.Lists left ↔ left.on agentId = [] := by
  rw [lists_iff] at lists ⊢
  constructor
  · intro right
    rw [← right agentId, cleared, if_pos rfl]
  · intro noneRuns other
    rw [cleared]
    split
    · rename_i same
      rw [same, noneRuns]
    · rename_i different
      rw [others other different, lists]

end Lists

/-! ## Effects on the lists -/

/-- The effects that can change a list. -/
def Effect.listsTasks : Effect → Bool
  | .updateStatus (some _) .available _ _ => true
  | .setCurrentTask (some _) _ => true
  | _ => false

theorem Shared.getCurrentTasks_apply {shared : Shared} {effect : Effect}
    (silent : effect.listsTasks = false) (agentId : AgentId) :
    (shared.apply effect).registry.getCurrentTasks agentId =
      shared.registry.getCurrentTasks agentId := by
  cases effect with
  | updateStatus updated status reason stuck =>
      cases updated with
      | none => rfl
      | some updated =>
          have notReleased : status ≠ .available := by
            rintro rfl
            cases silent
          simp only [Shared.apply, AgentRegistry.getCurrentTasks_updateStatus, notReleased,
            false_and, and_false, if_false]
  | setCurrentTask updated taskId =>
      cases updated with
      | none => rfl
      | some updated => cases silent
  | putRecovery entry => rfl

theorem Shared.getCurrentTasks_applyAll {shared : Shared} {effects : List Effect}
    (silent : ∀ effect ∈ effects, effect.listsTasks = false) (agentId : AgentId) :
    (shared.applyAll effects).registry.getCurrentTasks agentId =
      shared.registry.getCurrentTasks agentId := by
  induction effects generalizing shared with
  | nil => rfl
  | cons effect rest inductionHypothesis =>
      rw [Shared.applyAll_cons,
        inductionHypothesis (fun other member => silent other (by simp [member]))]
      exact Shared.getCurrentTasks_apply (silent effect (by simp)) agentId

/-- The ways a segment of a task can change the list of its agent. -/
inductive SendPhase.Listed (taskId : TaskId) (before : SendPhase) (effects : List Effect)
    (after : SendPhase) : Prop
  | unchanged (same : after.busyOn = before.busyOn)
      (silent : ∀ effect ∈ effects, effect.listsTasks = false)
  | started {agentId : AgentId} (idle : before.busyOn = none)
      (starts : after.busyOn = some agentId)
      (lists : effects = [.updateStatus (some agentId) .busy none none,
        .setCurrentTask (some agentId) (some taskId)])
  | finished {agentId : AgentId} (held : before.busyOn = some agentId)
      (ends : after.busyOn = none)
      (clears : ∀ (shared : Shared) (other : AgentId),
        (shared.applyAll effects).registry.getCurrentTasks other =
          if other = agentId then [] else shared.registry.getCurrentTasks other)

theorem releaseAgent_clears (shared : Shared) (agentId other : AgentId) :
    (shared.applyAll (releaseAgent agentId)).registry.getCurrentTasks other =
      if other = agentId then [] else shared.registry.getCurrentTasks other := by
  show ((shared.registry.updateStatus agentId .available none none).setCurrentTask agentId
    none).getCurrentTasks other = _
  rw [AgentRegistry.getCurrentTasks_setCurrentTask_none,
    AgentRegistry.getCurrentTasks_updateStatus]
  by_cases same : other = agentId
  · simp only [same, if_true]
  · simp only [same, false_and, if_false]

/-- Every exit that hands the agent to the recovery worker removes the tasks of the agent. -/
theorem broken_clears (shared : Shared) (agentId other : AgentId) (reason : BrokenReason)
    (stuckTaskId : Option String) (entry : RecoveryEntry) :
    (shared.applyAll [.updateStatus (some agentId) .broken (some reason) stuckTaskId,
      .setCurrentTask (some agentId) none, .putRecovery entry]).registry.getCurrentTasks other =
      if other = agentId then [] else shared.registry.getCurrentTasks other := by
  show ((shared.registry.updateStatus agentId .broken (some reason) stuckTaskId).setCurrentTask
    agentId none).getCurrentTasks other = _
  rw [AgentRegistry.getCurrentTasks_setCurrentTask_none,
    AgentRegistry.getCurrentTasks_updateStatus]
  have notReleased : AgentStatus.broken ≠ .available := by
    intro same
    cases same
  simp only [notReleased, false_and, and_false, if_false]

theorem SendPhase.Moved.listed {config : OrchestratorConfig} {registry : AgentRegistry}
    {now : Instant} {taskId : TaskId} {before after : SendPhase} {chosen : Option AgentId}
    {effects : List Effect}
    (moved : before.Moved config registry now taskId chosen effects after) :
    before.Listed taskId effects after := by
  have noEffect : ∀ effect ∈ ([] : List Effect), effect.listsTasks = false := by
    intro effect member
    cases member
  cases moved with
  | waited unreserved still =>
      have idle := busyOn_of_agentId_none (agentId_of_unreserved unreserved)
      exact .unchanged ((busyOn_of_agentId_none still).trans idle.symm) noEffect
  | reserved unreserved free =>
      exact .started (busyOn_of_agentId_none (agentId_of_unreserved unreserved)) rfl rfl
  | selectionFailed unreserved =>
      have idle := busyOn_of_agentId_none (agentId_of_unreserved unreserved)
      refine .unchanged idle.symm ?_
      intro effect member
      simp only [communicationFailed, List.mem_cons, List.not_mem_nil, or_false] at member
      rcases member with rfl | rfl | rfl <;> rfl
  | continued held => exact .unchanged held.symm noEffect
  | released held => exact .finished held rfl fun shared => releaseAgent_clears shared _
  | timedOut held => exact .finished held rfl fun shared other => broken_clears shared _ other _ _ _
  | failed held => exact .finished held rfl fun shared other => broken_clears shared _ other _ _ _
  | closed wasClosing =>
      refine .unchanged ?_ noEffect
      rw [wasClosing]
      rfl

/-! ## Steps -/

section Steps

variable {config : OrchestratorConfig} {now : Instant} {system next : System}
  {running : RunningTasks}

/-- A release of the recovery worker marks the agent of the entry in its hand as available. -/
theorem RecoveryWorker.recovered_of_step {shared after : Shared} {worker done : RecoveryWorker}
    {event : RecoveryEvent} (step : worker.step shared now event = some (after, done))
    (releases : event.releases = true) :
    ∃ entry, worker.phase.entry = some entry ∧
      after = shared.apply (.updateStatus entry.agentId .available none none) := by
  cases event with
  | cancelled success =>
      obtain rfl : success = true := releases
      simp only [RecoveryWorker.step] at step
      split at step
      · rename_i entry card stuckTaskId cancelling
        cases step
        exact ⟨entry, by rw [cancelling]; rfl, rfl⟩
      · cases step
  | fetched found =>
      obtain rfl : found = true := releases
      simp only [RecoveryWorker.step] at step
      split at step
      · rename_i entry cancellationFailed fetching
        cases step
        exact ⟨entry, by rw [fetching]; rfl, rfl⟩
      · cases step
  | _ => cases releases

/-- Every other segment of the recovery worker leaves the lists alone. -/
theorem RecoveryWorker.Moved.getCurrentTasks {shared after : Shared}
    {worker done : RecoveryWorker} {event : RecoveryEvent}
    (moved : worker.Moved shared event after done) (keeps : event.releases = false)
    (agentId : AgentId) :
    after.registry.getCurrentTasks agentId = shared.registry.getCurrentTasks agentId := by
  cases moved with
  | recovered held succeeds =>
      rw [keeps] at succeeds
      cases succeeds
  | lostContact held =>
      have silent : ∀ updated, Effect.listsTasks
          (.updateStatus updated .broken (some .offline) none) = false := by
        intro updated
        cases updated <;> rfl
      exact Shared.getCurrentTasks_apply (silent _) agentId
  | _ => rfl

/-- Only a task's own segments change where it is in flight. -/
theorem System.Stepped.agentOf {action : SystemAction}
    (stepped : system.Stepped config now action next)
    (noTask : ∀ taskId event, action ≠ .task taskId event) (taskId : TaskId) :
    next.agentOf taskId = system.agentOf taskId := by
  have begun : ∀ (begunId : TaskId) (taskDescription : String) (registry : AgentRegistry),
      system.sends.contains begunId = false →
      ((system.sends.set begunId ⟨taskDescription,
        beginSend config registry now taskDescription⟩).get? taskId).bind
          (fun task => task.phase.busyOn) =
        (system.sends.get? taskId).bind fun task => task.phase.busyOn := by
    intro begunId taskDescription registry fresh
    rw [Dict.get?_set]
    split
    · rename_i same
      subst same
      have absent : system.sends.get? taskId = none := by
        simpa [Dict.contains] using fresh
      rw [absent]
      exact busyOn_of_agentId_none (beginSend_agentId taskDescription)
    · rfl
  cases stepped with
  | task found segment => exact absurd rfl (noTask _ _)
  | began fresh => exact begun _ _ _ fresh
  | groupBegan found delivers stepped begins fresh => exact begun _ _ _ fresh
  | _ => rfl

theorem System.agentOf_afterTask {taskId : TaskId} {task : SendTask} {effects : List Effect}
    {phase : SendPhase} (other : TaskId) :
    (system.afterTask taskId task effects phase).agentOf other =
      if other = taskId then phase.busyOn else system.agentOf other := by
  simp only [System.agentOf, System.afterTask, Dict.get?_set]
  split <;> rfl

theorem RunningTasks.move_self (running : RunningTasks) (taskId : TaskId)
    (held : Option AgentId) : running.move taskId held held = running := by
  cases held <;> rfl

section Segment

variable {taskId : TaskId} {task : SendTask} {effects : List Effect} {phase : SendPhase}

/-- The ledger after a segment of a task. -/
theorem RunningTasks.Tracks.moved (tracks : running.Tracks system)
    (found : system.sends.get? taskId = some task)
    (listed : task.phase.Listed taskId effects phase) :
    (running.move taskId task.phase.busyOn phase.busyOn).Tracks
      (system.afterTask taskId task effects phase) := by
  have before : system.agentOf taskId = task.phase.busyOn := by
    simp only [System.agentOf, found, Option.bind_some]
  intro agentId other
  rw [System.agentOf_afterTask]
  have earlier := tracks agentId other
  cases listed with
  | unchanged still silent =>
      rw [still, RunningTasks.move_self, earlier]
      split
      · rename_i same
        rw [same, before]
      · rfl
  | started idle starts lists =>
      rename_i started
      rw [idle, starts]
      show (agentId, other) ∈ running ++ [(started, taskId)] ↔ _
      rw [List.mem_append, List.mem_singleton, Prod.mk.injEq, earlier]
      split
      · rename_i same
        rw [same, before, idle, Option.some.injEq]
        constructor
        · rintro (held | ⟨isStarted, -⟩)
          · cases held
          · exact isStarted.symm
        · intro isStarted
          exact Or.inr ⟨isStarted.symm, rfl⟩
      · rename_i different
        exact or_iff_left fun both => different both.2
  | finished held ends clears =>
      rw [held, ends]
      show (agentId, other) ∈ running.filter (fun entry => entry.2 ≠ taskId) ↔ _
      rw [List.mem_filter, earlier, decide_eq_true_eq]
      split
      · rename_i same
        constructor
        · rintro ⟨-, different⟩
          exact absurd same different
        · intro runs
          cases runs
      · rename_i different
        exact and_iff_left different

/-- **Lists after a segment of a task.** They stay right unless the task ends beside another
one on its agent. -/
theorem lists_segment_iff (named : taskId ≠ "")
    (lists : system.shared.registry.Lists running) (tracks : running.Tracks system)
    (found : system.sends.get? taskId = some task)
    (listed : task.phase.Listed taskId effects phase) :
    (system.shared.applyAll effects).registry.Lists
        (running.move taskId task.phase.busyOn phase.busyOn) ↔
      (phase.busyOn = none → ∀ agentId ∈ task.phase.busyOn,
        ∀ other ∈ running.on agentId, other = taskId) := by
  cases listed with
  | unchanged still silent =>
      rw [still, RunningTasks.move_self]
      refine ⟨?_, fun _ => lists.congr (Shared.getCurrentTasks_applyAll silent)⟩
      intro _ idle agentId held
      rw [idle] at held
      cases held
  | started idle starts added =>
      rename_i started
      refine ⟨fun _ ends => ?_, fun _ => ?_⟩
      · rw [starts] at ends
        cases ends
      · rw [idle, starts, added]
        rw [lists_iff] at lists ⊢
        intro agentId
        show ((system.shared.registry.updateStatus started .busy none none).setCurrentTask started
          (some taskId)).getCurrentTasks agentId = RunningTasks.on (running ++ [(started, taskId)])
            agentId
        have notReleased : AgentStatus.busy ≠ .available := by
          intro same
          cases same
        simp only [AgentRegistry.getCurrentTasks_setCurrentTask_some _ _ named, on_started,
          AgentRegistry.getCurrentTasks_updateStatus, notReleased, false_and, and_false,
          if_false, lists agentId]
  | finished held ends clears =>
      rename_i agentId
      have onAgent : system.agentOf taskId = some agentId := by
        simp only [System.agentOf, found, Option.bind_some, held]
      have others : ∀ other, other ≠ agentId →
          RunningTasks.on (running.filter fun entry => entry.2 ≠ taskId) other =
            running.on other := by
        intro other different
        rw [on_finished, List.filter_eq_self]
        intro entry member
        rw [decide_eq_true_eq]
        rintro rfl
        have onOther := (tracks other entry).mp (mem_on.mp member)
        exact different (Option.some.inj (onOther.symm.trans onAgent))
      rw [held, ends]
      show (system.shared.applyAll effects).registry.Lists
        (running.filter fun entry => entry.2 ≠ taskId) ↔ _
      rw [lists.cleared (clears system.shared) others, on_finished, List.filter_eq_nil_iff]
      simp

end Segment

/-! ## Steps of the system -/

/-- A step of another coroutine leaves the ledger as it is. -/
theorem RunningTasks.record_of_noTask {event : SystemEvent}
    (noTask : ∀ taskId taskEvent, event.action ≠ .task taskId taskEvent) :
    running.record system event next = running := by
  unfold RunningTasks.record
  split
  · rename_i isTask
    exact absurd isTask (noTask _ _)
  · rfl

theorem RunningTasks.Tracks.record {event : SystemEvent} (tracks : running.Tracks system)
    (stepped : system.Stepped config event.now event.action next) :
    (running.record system event next).Tracks next := by
  by_cases isTask : ∃ taskId taskEvent, event.action = .task taskId taskEvent
  · obtain ⟨taskId, taskEvent, isTask⟩ := isTask
    rw [isTask] at stepped
    simp only [RunningTasks.record, isTask]
    cases stepped with
    | task found segment =>
        have moved := tracks.moved found (SendTask.moved_of_step segment).listed
        rw [System.agentOf, System.agentOf, found, Dict.get?_set_self]
        exact moved
  · have noTask : ∀ taskId taskEvent, event.action ≠ .task taskId taskEvent := by
      intro taskId taskEvent same
      exact isTask ⟨taskId, taskEvent, same⟩
    rw [RunningTasks.record_of_noTask noTask]
    intro agentId taskId
    rw [stepped.agentOf noTask, tracks agentId taskId]

/-- A release of the recovery worker keeps the lists right unless it clears the list of an agent
on which tasks run. -/
theorem lists_recovery_iff {shared : Shared} {worker : RecoveryWorker} {event : RecoveryEvent}
    (lists : system.shared.registry.Lists running)
    (step : system.recovery.step system.shared now event = some (shared, worker)) :
    shared.registry.Lists running ↔
      (event.releases = true →
        ∀ entry ∈ system.recovery.phase.entry, ∀ agentId ∈ entry.agentId,
          system.shared.registry.contains agentId = true →
          system.shared.registry.slots agentId ≤ 1 → running.on agentId = []) := by
  cases releases : event.releases with
  | false =>
      have keeps := (RecoveryWorker.moved_of_step step).getCurrentTasks releases
      exact ⟨fun _ same => absurd same Bool.false_ne_true, fun _ => lists.congr keeps⟩
  | true =>
      obtain ⟨entry, held, rfl⟩ := RecoveryWorker.recovered_of_step step releases
      simp only [held, Option.mem_some_iff, forall_eq', true_implies]
      cases isAgent : entry.agentId with
      | none =>
          refine ⟨fun _ agentId isNone => ?_, fun _ => lists⟩
          cases isNone
      | some agentId =>
          have updated := AgentRegistry.getCurrentTasks_updateStatus system.shared.registry agentId
            .available none none
          simp only [true_and] at updated
          simp only [Option.mem_some_iff, forall_eq']
          by_cases clears : system.shared.registry.contains agentId = true ∧
              system.shared.registry.slots agentId ≤ 1
          · simp only [clears, and_true] at updated
            rw [show (system.shared.apply (.updateStatus (some agentId) .available none
              none)).registry.Lists running ↔ running.on agentId = [] from
                lists.cleared updated fun _ _ => rfl]
            exact ⟨fun noneRuns _ _ => noneRuns, fun implied => implied clears.1 clears.2⟩
          · simp only [clears, and_false, if_false] at updated
            exact ⟨fun _ registered last => absurd ⟨registered, last⟩ clears,
              fun _ => lists.congr updated⟩

/-- Marking an agent as broken and handing it to the recovery worker changes no list. -/
theorem markBroken_silent {agentId : AgentId} {reason : BrokenReason} {entry : RecoveryEntry}
    {effect : Effect}
    (member : effect ∈ [Effect.updateStatus (some agentId) .broken (some reason) none,
      .putRecovery entry]) : effect.listsTasks = false := by
  simp only [List.mem_cons, List.not_mem_nil, or_false] at member
  rcases member with rfl | rfl <;> rfl

theorem TestGroup.Stepped.silent {registry : AgentRegistry} {group after : TestGroup}
    {event : GroupEvent} {effects : List Effect}
    (stepped : group.Stepped registry now event effects after) {effect : Effect}
    (member : effect ∈ effects) : effect.listsTasks = false := by
  rcases stepped.handler_cases with ⟨rfl, -⟩ | ⟨position, worker, taskId, -, -, -, -, rfl⟩
  · cases member
  · exact markBroken_silent member

/-- Only tasks and the recovery worker change the lists. -/
theorem System.Stepped.getCurrentTasks {action : SystemAction}
    (stepped : system.Stepped config now action next)
    (noTask : ∀ taskId event, action ≠ .task taskId event)
    (noRecovery : ∀ event, action ≠ .recovery event) (agentId : AgentId) :
    next.shared.registry.getCurrentTasks agentId =
      system.shared.registry.getCurrentTasks agentId := by
  cases stepped with
  | task found segment => exact absurd rfl (noTask _ _)
  | recovery moved => exact absurd rfl (noRecovery _)
  | discovered fresh => exact AgentRegistry.getCurrentTasks_register _ _ _ _
  | began fresh => rfl
  | healthCheck => rfl
  | startGroup started => rfl
  | check does =>
      apply Shared.getCurrentTasks_applyAll
      intro effect member
      rcases does with rfl | ⟨checked, -, rfl⟩
      · cases member
      · exact markBroken_silent member
  | group found delivers stepped begins =>
      exact Shared.getCurrentTasks_applyAll (fun effect member => stepped.silent member) agentId
  | groupBegan found delivers stepped begins fresh =>
      exact Shared.getCurrentTasks_applyAll (fun effect member => stepped.silent member) agentId

theorem lists_task_iff {taskId : TaskId} {taskEvent : SendEvent}
    (named : taskId ≠ "") (lists : system.shared.registry.Lists running)
    (tracks : running.Tracks system)
    (step : system.step config ⟨now, .task taskId taskEvent⟩ = some next) :
    next.shared.registry.Lists (running.record system ⟨now, .task taskId taskEvent⟩ next) ↔
      FinishesAlone config (system, running) ⟨now, .task taskId taskEvent⟩ := by
  have stepped := System.stepped_of_step step
  simp only [FinishesAlone, RunningTasks.record, step, Option.mem_some_iff, forall_eq']
  cases stepped with
  | task found segment =>
      simp only [System.agentOf, found, Dict.get?_set_self, Option.bind_some]
      exact lists_segment_iff named lists tracks found (SendTask.moved_of_step segment).listed

/-- **Step lemma.** A step keeps the lists right exactly when a task that ends in it runs alone
and a release in it clears no list of running tasks. -/
theorem lists_step_iff (state : System × RunningTasks) (event : SystemEvent)
    (next : System × RunningTasks) (tracks : state.2.Tracks state.1) (lists : ListsRunning state)
    (named : event.NamesTask) (step : runningStep config state event = some next) :
    ListsRunning next ↔ FinishesAlone config state event := by
  obtain ⟨system, running⟩ := state
  obtain ⟨after, left⟩ := next
  obtain ⟨ran, isRecord⟩ := StepSystem.observed_eq_some.mp step
  obtain rfl : left = running.record system event after := isRecord
  obtain ⟨now, action⟩ := event
  cases action with
  | task taskId taskEvent => exact lists_task_iff named lists tracks ran
  | recovery recoveryEvent =>
      simp only [System.step, System.recover, Option.bind_eq_bind, Option.bind_eq_some_iff,
        Prod.exists, Option.pure_def, Option.some.injEq] at ran
      obtain ⟨shared, worker, segment, same⟩ := ran
      cases same
      exact lists_recovery_iff lists segment
  | _ =>
      have same := (System.stepped_of_step ran).getCurrentTasks (by intro _ _ same; cases same)
        (by intro _ same; cases same)
      exact ⟨fun _ => trivial, fun _ => lists.congr same⟩

/-- **Running tasks.** In every run, the registry lists exactly the running tasks of each agent
in every state if and only if every task that finishes runs alone on its agent, and no release
of the recovery worker clears the list of an agent on which tasks run. -/
theorem lists_running_iff {events : List SystemEvent} {final : System × RunningTasks}
    (named : ∀ event ∈ events, event.NamesTask)
    (ran : StepSystem.run (runningStep config) (System.initial, []) events = some final) :
    StepSystem.Throughout (runningStep config) ListsRunning (System.initial, []) events ↔
      StepSystem.Along (runningStep config) (FinishesAlone config) (System.initial, [])
        events := by
  have initially : RunningTasks.Tracks [] System.initial := by
    intro agentId taskId
    constructor
    · intro member
      cases member
    · intro runs
      cases runs
  have noLists : ListsRunning (System.initial, []) := fun agentId => ⟨rfl, rfl⟩
  have preserved : ∀ state event next, RunningTasks.Tracks state.2 state.1 →
      event.NamesTask → runningStep config state event = some next →
        RunningTasks.Tracks next.2 next.1 := by
    intro state event next tracks _ step
    obtain ⟨stepped, recorded⟩ := StepSystem.observed_eq_some.mp step
    rw [recorded]
    exact tracks.record (System.stepped_of_step stepped)
  exact StepSystem.throughout_iff_along_of_assumed preserved lists_step_iff initially noLists
    (StepSystem.along_of_forall_event _ named) ran

end Steps

/-! ## Concrete runs -/

/-- A task that starts on the agent and streams. -/
def startsOnAgent (taskId : TaskId) : List SystemEvent :=
  [(SystemAction.beginTask taskId "Review").atTime 1,
    (SystemAction.task taskId .lockAcquired).atTime 1,
    (SystemAction.task taskId (.selected (.ok "agent"))).atTime 2,
    (SystemAction.task taskId .clientCreated).atTime 3]

/-- The remote agent completes the task. -/
def completes (taskId : TaskId) : List SystemEvent :=
  [(SystemAction.task taskId
    (.chunk (.statusUpdate "remote" ⟨.completed, "3", "done"⟩))).atTime 4]

def agentDiscovered : List SystemEvent :=
  [(SystemAction.discovered "agent" ⟨"Agent", ["Review"], ["http://agent"]⟩).atTime 0]

/-- Two tasks that run one after the other. -/
def inTurn : List SystemEvent :=
  agentDiscovered ++ startsOnAgent "task-1" ++ completes "task-1" ++
    (startsOnAgent "task-2" ++ completes "task-2")

instance (config : OrchestratorConfig) (state : System × RunningTasks) :
    DecidablePred (FinishesAlone config state)
  | ⟨now, .task taskId event⟩ =>
      decidable_of_iff
        (∀ next ∈ state.1.step config ⟨now, .task taskId event⟩, next.agentOf taskId = none →
          ∀ agentId ∈ state.1.agentOf taskId,
            (state.2.on agentId).all (fun other => other = taskId) = true)
        (by simp [FinishesAlone])
  | ⟨_, .recovery event⟩ =>
      inferInstanceAs (Decidable (event.releases = true →
        ∀ entry ∈ state.1.recovery.phase.entry, ∀ agentId ∈ entry.agentId,
          state.1.shared.registry.contains agentId = true →
          state.1.shared.registry.slots agentId ≤ 1 → state.2.on agentId = []))
  | ⟨_, .discovered _ _⟩ => instDecidableTrue
  | ⟨_, .beginTask _ _⟩ => instDecidableTrue
  | ⟨_, .healthCheck⟩ => instDecidableTrue
  | ⟨_, .check _ _⟩ => instDecidableTrue
  | ⟨_, .startGroup _ _ _⟩ => instDecidableTrue
  | ⟨_, .group _ _⟩ => instDecidableTrue

theorem lists_running_inTurn :
    StepSystem.Throughout (runningStep .default) ListsRunning (System.initial, []) inTurn := by
  have named : ∀ event ∈ inTurn, event.NamesTask := by
    simp [inTurn, agentDiscovered, startsOnAgent, completes, SystemAction.atTime,
      SystemEvent.NamesTask]
  have alone : (StepSystem.run (runningStep .default) (System.initial, []) inTurn).isSome ∧
      StepSystem.Along (runningStep .default) (FinishesAlone .default) (System.initial, [])
        inTurn := by
    decide
  obtain ⟨final, ran⟩ := Option.isSome_iff_exists.mp alone.1
  exact (lists_running_iff named ran).mpr alone.2

/-- The first of two tasks completes while the second one runs. -/
def overlapping : List SystemEvent :=
  agentDiscovered ++ startsOnAgent "task-1" ++ startsOnAgent "task-2" ++ completes "task-1"

/-- The second task runs, and the list of its agent is empty. -/
theorem overlapping_not_listed :
    ¬ ∀ config events, (∀ event ∈ events, event.NamesTask) →
      StepSystem.Throughout (runningStep config) ListsRunning (System.initial, []) events := by
  intro lists
  have named : ∀ event ∈ overlapping, event.NamesTask := by
    simp [overlapping, agentDiscovered, startsOnAgent, completes, SystemAction.atTime,
      SystemEvent.NamesTask]
  have through := lists .default overlapping named
  obtain ⟨state, ran, runs, listed⟩ :
      ∃ state ∈ StepSystem.run (runningStep .default) (System.initial, []) overlapping,
        state.2.on "agent" = ["task-2"] ∧
          state.1.shared.registry.getCurrentTasks "agent" = [] := by
    decide
  have here := (StepSystem.holds_finally through ran "agent").1
  rw [runs, listed] at here
  cases here

end QuAIA.Orchestrator
