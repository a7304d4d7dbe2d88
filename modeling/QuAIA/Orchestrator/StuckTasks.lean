import QuAIA.Orchestrator.Attribution
import QuAIA.Orchestrator.Slots.Simulation

/-!
Contract: which stuck tasks the recovery worker cancels before it releases their slots.

Owns: the ledger of timeouts and cancel requests; the releases that come after the
cancellation of the timed-out task; and the entries that are taken while the agent's cell
holds the id of their task.

An agent has one cell for the id of a stuck task. A timeout in `wait_for` writes it, the
timeout of the chunk loop does not, and the entry of a timed-out task does not carry the id:
the worker cancels what the cell holds when it takes the entry.
-/

set_option autoImplicit false

namespace QuAIA.Orchestrator

open QuAIA.Common
open QuAIA.Library

/-! ## The ledger -/

/-- The remote ids that were known when tasks timed out, and the cancel requests: the agent
and the id of each. -/
structure StuckLedger where
  timedOut : Dict TaskId String
  cancelled : List (Option AgentId × String)

def StuckLedger.empty : StuckLedger := ⟨.empty, []⟩

/-- `last_task_id` when the task goes on with an event. -/
def SendTask.lastTaskId (task : SendTask) (event : SendEvent) : Option String :=
  match task.phase, event with
  | .streaming _ _, .chunk (.statusUpdate lastTaskId _) => some lastTaskId
  | .streaming _ progress, _ => progress.lastTaskId
  | _, _ => none

/-- The effect of both timeouts on the agent. -/
def Effect.marksStuck : Effect → Bool
  | .updateStatus _ .broken (some .taskStuck) _ => true
  | _ => false

/-- The task that times out in a segment, with its remote id when it is known. -/
def System.timesOut (config : OrchestratorConfig) (system : System) (event : SystemEvent) :
    Option (TaskId × String) :=
  match event.action with
  | .task taskId taskEvent => do
      let task ← system.sends.get? taskId
      let (effects, _) ← task.step config system.shared.registry event.now taskId taskEvent
      guard (effects.any Effect.marksStuck)
      let lastTaskId ← task.lastTaskId taskEvent
      guard (lastTaskId ≠ "")
      return (taskId, lastTaskId)
  | _ => none

/-- The cancellation that the recovery worker requests when it takes an entry. -/
def RecoveryPhase.cancelRequest : RecoveryPhase → Option (Option AgentId × String)
  | .cancelling entry _ stuckTaskId => some (entry.agentId, stuckTaskId)
  | _ => none

def System.requests (next : System) : SystemAction → List (Option AgentId × String)
  | .recovery .taken => next.recovery.phase.cancelRequest.toList
  | _ => []

def StuckLedger.record (config : OrchestratorConfig) (system : System) (event : SystemEvent)
    (next : System) (ledger : StuckLedger) : StuckLedger where
  timedOut :=
    match system.timesOut config event with
    | some (taskId, remoteId) => ledger.timedOut.set taskId remoteId
    | none => ledger.timedOut
  cancelled := ledger.cancelled ++ next.requests event.action

/-- The system beside its ledger. -/
def stuckStep (config : OrchestratorConfig) :
    System × StuckLedger → SystemEvent → Option (System × StuckLedger) :=
  StepSystem.observed (System.step config) (StuckLedger.record config)

/-- If the task of an entry timed out with a known remote id, a cancel request for this id
was made to the agent of the entry. -/
def StuckLedger.Requested (ledger : StuckLedger) (entry : RecoveryEntry) : Prop :=
  ∀ taskId, entry.origin = .failedTask taskId →
    ∀ remoteId ∈ ledger.timedOut.get? taskId, (entry.agentId, remoteId) ∈ ledger.cancelled

/-- The recovery worker releases the slot of a timed-out task after a cancel request for its
remote id. -/
def ReleasesCancelled (state : System × StuckLedger) (event : SystemEvent) : Prop :=
  match event.action with
  | .recovery recoveryEvent =>
      recoveryEvent.releases = true →
        ∀ entry ∈ state.1.recovery.phase.entry, state.2.Requested entry
  | _ => True

/-- The recovery worker takes the entry of a timed-out task while the cell of the agent holds
the remote id of this task, or after a cancel request for it. Entries that it gives up or
skips do not matter. -/
def TakesWithStuckId (state : System × StuckLedger) (event : SystemEvent) : Prop :=
  match event.action with
  | .recovery .taken =>
      ∀ entry ∈ state.1.shared.cancellationQueue.head?,
        ¬ giveUpAfter < event.now.time - entry.timestamp →
        (entry.card state.1.shared.registry).isSome →
        ∀ taskId, entry.origin = .failedTask taskId →
        ∀ remoteId ∈ state.2.timedOut.get? taskId,
          entry.brokenContext state.1.shared.registry = (some .taskStuck, some remoteId) ∨
            (entry.agentId, remoteId) ∈ state.2.cancelled
  | _ => True

/-! ## Pending entries -/

/-- Every entry in the queue or in the worker's hand is in the log. -/
def System.LogsPending (system : System) : Prop :=
  ∀ entry ∈ pendingEntries system.shared system.recovery, entry ∈ system.shared.recoveryLog

theorem Shared.pending_applyAll (shared : Shared) (recovery : RecoveryWorker)
    (effects : List Effect) :
    pendingEntries (shared.applyAll effects) recovery =
      pendingEntries shared recovery ++ effects.filterMap Effect.entry := by
  simp only [pendingEntries, Shared.applyAll_cancellationQueue, List.append_assoc]

/-- The recovery worker takes entries from the queue, and puts back the one in its hand. -/
theorem RecoveryWorker.Moved.pending {shared after : Shared} {worker next : RecoveryWorker}
    {event : RecoveryEvent} (moved : worker.Moved shared event after next)
    {entry : RecoveryEntry} (member : entry ∈ pendingEntries after next) :
    entry ∈ pendingEntries shared worker := by
  have updated : ∀ agentId status reason,
      (shared.apply (.updateStatus agentId status reason none)).cancellationQueue =
        shared.cancellationQueue := by
    intro agentId status reason
    cases agentId <;> rfl
  simp only [pendingEntries, List.mem_append, Option.mem_toList] at member ⊢
  cases moved with
  | took free queued held cardOf =>
      rw [queued, List.mem_cons]
      rcases member with inHand | inRest
      · exact Or.inr (Or.inl (Option.some.inj (inHand.symm.trans held)))
      · exact Or.inr (Or.inr inRest)
  | gaveUp free queued =>
      rw [queued, List.mem_cons]
      exact member.imp_right Or.inr
  | skipped free queued unknown =>
      rw [queued, List.mem_cons]
      exact member.imp_right Or.inr
  | tookUnreachable free queued known noInterface =>
      rw [queued, List.mem_cons]
      exact Or.inr (Or.inr (member.resolve_left (by intro held; cases held)))
  | kept same cardless => exact member.imp_left same.symm.trans
  | lostContact held =>
      rw [updated] at member
      exact member.imp_left held.trans
  | recovered held succeeds =>
      rw [updated] at member
      exact Or.inr (member.resolve_left (by intro held; cases held))
  | dropped held fault => exact Or.inr (member.resolve_left (by intro held; cases held))
  | requeued held =>
      have inQueue := member.resolve_left (by intro held; cases held)
      rw [List.mem_append, List.mem_singleton] at inQueue
      rcases inQueue with earlier | rfl
      · exact Or.inr earlier
      · exact Or.inl held

theorem System.LogsPending.applied {system next : System} (logs : system.LogsPending)
    {effects : List Effect} (shared : next.shared = system.shared.applyAll effects)
    (recovery : next.recovery = system.recovery) : next.LogsPending := by
  intro entry member
  rw [shared, recovery, Shared.pending_applyAll] at member
  rw [shared, Shared.applyAll_recoveryLog]
  rcases List.mem_append.mp member with earlier | put
  · exact List.mem_append_left _ (logs entry earlier)
  · exact List.mem_append_right _ put

theorem System.logsPending_step {config : OrchestratorConfig} {now : Instant}
    {action : SystemAction} {system next : System} (logs : system.LogsPending)
    (stepped : system.Stepped config now action next) : next.LogsPending := by
  cases stepped with
  | discovered fresh => exact logs
  | began fresh => exact logs
  | healthCheck => exact logs
  | startGroup started => exact logs
  | task found segment => exact logs.applied rfl rfl
  | check does => exact logs.applied rfl rfl
  | group found delivers stepped begins => exact logs.applied rfl rfl
  | groupBegan found delivers stepped begins fresh => exact logs.applied rfl rfl
  | recovery moved =>
      intro entry member
      show entry ∈ _
      rw [moved.recoveryLog]
      exact logs entry (moved.pending member)

/-! ## What is recorded -/

section Recording

variable {config : OrchestratorConfig} {system next : System} {event : SystemEvent}

/-- A task that times out with a known id had not finished. -/
theorem System.timesOut_eq_some {taskId : TaskId} {remoteId : String}
    (timesOut : system.timesOut config event = some (taskId, remoteId)) :
    remoteId ≠ "" ∧ ∃ task, system.sends.get? taskId = some task ∧
      task.phase.finished = false := by
  unfold System.timesOut at timesOut
  split at timesOut
  · rename_i taskId taskEvent isTask
    simp only [Option.bind_eq_bind, Option.bind_eq_some_iff, Option.guard_eq_some', exists_const,
      Prod.exists, Option.pure_def, Option.some.injEq, Prod.mk.injEq] at timesOut
    obtain ⟨task, found, effects, phase, segment, marks, lastTaskId, isLast, named, rfl, rfl⟩ :=
      timesOut
    refine ⟨named, task, found, ?_⟩
    unfold SendTask.lastTaskId at isLast
    split at isLast
    · rw [‹task.phase = .streaming _ _›]
      rfl
    · rw [‹task.phase = .streaming _ _›]
      rfl
    · cases isLast
  · cases timesOut

end Recording

/-! ## Taking an entry -/

/-- When the recovery worker has an entry in its hand after taking one, it has begun the
attempt for the first entry of the queue. -/
theorem RecoveryWorker.attempted_of_taken {shared after : Shared} {now : Instant}
    {worker next : RecoveryWorker} (step : worker.step shared now .taken = some (after, next))
    {entry : RecoveryEntry} (held : next.phase.entry = some entry) :
    ∃ card, shared.cancellationQueue.head? = some entry ∧
      ¬ giveUpAfter < now.time - entry.timestamp ∧ entry.card shared.registry = some card ∧
      next.phase = attemptRecovery shared.registry entry card := by
  simp only [RecoveryWorker.step] at step
  split at step
  · rename_i first rest waiting queued
    have free : worker.phase.entry ≠ some entry := by
      rw [waiting]
      intro same
      cases same
    split at step
    · cases step
      exact absurd held free
    · rename_i inTime
      split at step
      · cases step
        exact absurd held free
      · rename_i card known
        cases step
        rcases attemptRecovery_cases shared.registry first card with ⟨mine, -⟩ | ⟨pausing, -⟩
        · obtain rfl : first = entry := Option.some.inj (mine.symm.trans held)
          exact ⟨card, by rw [queued]; rfl, inTime, known, rfl⟩
        · replace held : (attemptRecovery shared.registry first card).entry = some entry := held
          rw [pausing] at held
          cases held
  · cases step

/-- An attempt whose agent has the id in its cell begins with the cancel request. -/
theorem attemptRecovery_cancelRequest {registry : AgentRegistry} {entry : RecoveryEntry}
    {remoteId : String} (card : AgentCard) (named : remoteId ≠ "")
    (context : entry.brokenContext registry = (some .taskStuck, some remoteId)) :
    (attemptRecovery registry entry card).cancelRequest = some (entry.agentId, remoteId) := by
  simp only [attemptRecovery, context, if_neg named]
  rfl

/-! ## Invariant -/

/-- The entry in the worker's hand has had its cancel request. -/
structure Requesting (state : System × StuckLedger) : Prop where
  known : state.1.TasksKnown
  logs : state.1.LogsPending
  named : ∀ taskId, ∀ remoteId ∈ state.2.timedOut.get? taskId, remoteId ≠ ""
  requested : ∀ entry ∈ state.1.recovery.phase.entry, state.2.Requested entry

section Requesting

variable {config : OrchestratorConfig} {state : System × StuckLedger} {event : SystemEvent}
  {system next : System} {ledger : StuckLedger}

/-- A recorded id is the known one of a task that timed out. -/
theorem named_of_record (named : ∀ taskId, ∀ remoteId ∈ ledger.timedOut.get? taskId,
      remoteId ≠ "") (taskId : TaskId) (remoteId : String)
    (recorded : remoteId ∈ (ledger.record config system event next).timedOut.get? taskId) :
    remoteId ≠ "" := by
  simp only [StuckLedger.record] at recorded
  split at recorded
  · rename_i timed timedId timesOut
    rw [Dict.get?_set] at recorded
    split at recorded
    · obtain rfl : timedId = remoteId := Option.some.inj recorded
      exact (System.timesOut_eq_some timesOut).1
    · exact named taskId remoteId recorded
  · exact named taskId remoteId recorded

/-- What is recorded of a step that keeps the entry in the worker's hand does not concern the
task of this entry, which has finished. -/
theorem StuckLedger.Requested.record {entry : RecoveryEntry} (requested : ledger.Requested entry)
    (known : system.TasksKnown) (logged : entry ∈ system.shared.recoveryLog) :
    (ledger.record config system event next).Requested entry := by
  intro taskId origin remoteId recorded
  obtain ⟨task, found, finished⟩ := known.logged entry logged taskId (by rw [origin]; rfl)
  have earlier : remoteId ∈ ledger.timedOut.get? taskId := by
    simp only [StuckLedger.record] at recorded
    split at recorded
    · rename_i timed timedId timesOut
      obtain ⟨-, running, isRunning, unfinished⟩ := System.timesOut_eq_some timesOut
      have other : taskId ≠ timed := by
        rintro rfl
        obtain rfl : task = running := Option.some.inj (found.symm.trans isRunning)
        rw [finished] at unfinished
        cases unfinished
      rwa [Dict.get?_set_other _ _ other] at recorded
    · exact recorded
  exact List.mem_append_left _ (requested taskId origin remoteId earlier)

/-- Every entry that the worker has in its hand after taking one has had its request. -/
theorem Requesting.taken (config : OrchestratorConfig) {shared : Shared} {worker : RecoveryWorker}
    (requesting : Requesting (system, ledger)) {now : Instant}
    (takes : TakesWithStuckId (system, ledger) ⟨now, .recovery .taken⟩)
    (step : system.recovery.step system.shared now .taken = some (shared, worker))
    {entry : RecoveryEntry} (held : worker.phase.entry = some entry) :
    (ledger.record config system ⟨now, .recovery .taken⟩
      { system with shared := shared, recovery := worker }).Requested entry := by
  obtain ⟨card, first, inTime, isCard, attempts⟩ := RecoveryWorker.attempted_of_taken step held
  intro taskId origin remoteId recorded
  have earlier : remoteId ∈ ledger.timedOut.get? taskId := recorded
  have present : (entry.card system.shared.registry).isSome := by
    rw [isCard]
    rfl
  show (entry.agentId, remoteId) ∈ ledger.cancelled ++ worker.phase.cancelRequest.toList
  rcases takes entry first inTime present taskId origin remoteId earlier with
    context | alreadyRequested
  · have named := requesting.named taskId remoteId earlier
    rw [attempts, attemptRecovery_cancelRequest card named context]
    exact List.mem_append_right _ (List.mem_singleton.mpr rfl)
  · exact List.mem_append_left _ alreadyRequested

/-- A segment of the recovery worker that takes no entry keeps the one in its hand or has
none. -/
theorem RecoveryWorker.Moved.held {shared after : Shared} {worker next : RecoveryWorker}
    {recoveryEvent : RecoveryEvent} (moved : worker.Moved shared recoveryEvent after next)
    (takesNone : recoveryEvent ≠ .taken) {entry : RecoveryEntry}
    (held : next.phase.entry = some entry) : worker.phase.entry = some entry := by
  cases moved with
  | took free queued held cardOf => exact absurd rfl takesNone
  | gaveUp free queued => exact absurd rfl takesNone
  | skipped free queued unknown => exact absurd rfl takesNone
  | tookUnreachable free queued known noInterface => exact absurd rfl takesNone
  | kept same cardless => exact same.symm.trans held
  | lostContact before => exact before.trans held
  | recovered before succeeds => cases held
  | dropped before fault => cases held
  | requeued before => cases held

theorem Requesting.step {next : System × StuckLedger} (requesting : Requesting state)
    (takes : TakesWithStuckId state event) (step : stuckStep config state event = some next) :
    Requesting next := by
  obtain ⟨system, ledger⟩ := state
  obtain ⟨after, recorded⟩ := next
  obtain ⟨ran, isRecord⟩ := StepSystem.observed_eq_some.mp step
  obtain rfl : recorded = ledger.record config system event after := isRecord
  have stepped := System.stepped_of_step ran
  refine ⟨System.tasksKnown_step system event after requesting.known ran,
    System.logsPending_step requesting.logs stepped, named_of_record requesting.named, ?_⟩
  intro entry held
  have keeps : system.recovery.phase.entry = some entry →
      (ledger.record config system event after).Requested entry := by
    intro before
    have pending : entry ∈ pendingEntries system.shared system.recovery :=
      List.mem_append_left _ (Option.mem_toList.mpr before)
    exact (requesting.requested entry before).record requesting.known
      (requesting.logs entry pending)
  obtain ⟨now, action⟩ := event
  cases stepped with
  | recovery moved =>
      rename_i recoveryEvent shared worker
      by_cases taken : recoveryEvent = .taken
      · subst taken
        simp only [System.step, System.recover, Option.bind_eq_bind, Option.bind_eq_some_iff,
          Prod.exists, Option.pure_def, Option.some.injEq] at ran
        obtain ⟨_, _, segment, same⟩ := ran
        cases same
        exact requesting.taken config takes segment held
      · exact keeps (moved.held taken held)
  | _ => exact keeps held

theorem requesting_initial : Requesting (System.initial, StuckLedger.empty) where
  known := System.tasksKnown_initial
  logs entry member := by cases member
  named taskId remoteId recorded := by cases recorded
  requested entry held := by cases held

/-- **Stuck tasks.** In every run whose entries of timed-out tasks are taken while the cell
of their agent holds the remote id of their task, no slot of a timed-out task is released
before a cancel request for this id. -/
theorem stuckTasks_cancelled {events : List SystemEvent}
    (takes : StepSystem.Along (stuckStep config) TakesWithStuckId
      (System.initial, StuckLedger.empty) events) :
    StepSystem.Along (stuckStep config) ReleasesCancelled (System.initial, StuckLedger.empty)
      events := by
  apply StepSystem.along_of_invariant _ _ requesting_initial takes
  · intro state event next requesting takesHere step
    exact requesting.step takesHere step
  · intro state event requesting _
    unfold ReleasesCancelled
    split
    · intro _ entry held
      exact requesting.requested entry held
    · trivial

end Requesting

/-! ## Concrete runs -/

/-- Two tasks stream from one agent, and both know the ids of their remote tasks. -/
def bothStreaming : List SystemEvent :=
  [(SystemAction.discovered "agent" ⟨"Agent", ["Review"], ["http://agent"]⟩).atTime 0,
    (SystemAction.beginTask "task-1" "Review").atTime 1,
    (SystemAction.task "task-1" .lockAcquired).atTime 1,
    (SystemAction.task "task-1" (.selected (.ok "agent"))).atTime 2,
    (SystemAction.task "task-1" .clientCreated).atTime 3,
    (SystemAction.task "task-1"
      (.chunk (.statusUpdate "remote-1" ⟨.working, "2", ""⟩))).atTime 4,
    (SystemAction.beginTask "task-2" "Review").atTime 5,
    (SystemAction.task "task-2" .lockAcquired).atTime 5,
    (SystemAction.task "task-2" (.selected (.ok "agent"))).atTime 6,
    (SystemAction.task "task-2" .clientCreated).atTime 7,
    (SystemAction.task "task-2"
      (.chunk (.statusUpdate "remote-2" ⟨.working, "2", ""⟩))).atTime 8]

/-- The recovery worker cancels the first task before the second one times out. -/
def cancelledInTurn : List SystemEvent :=
  bothStreaming ++
    [(SystemAction.task "task-1" .timedOut).atTime 7203,
      (SystemAction.recovery .taken).atTime 7204,
      (SystemAction.recovery (.cancelled true)).atTime 7205,
      (SystemAction.task "task-2" .timedOut).atTime 7207,
      (SystemAction.recovery .taken).atTime 7208,
      (SystemAction.recovery (.cancelled true)).atTime 7209]

theorem stuckTasks_cancelledInTurn :
    StepSystem.Along (stuckStep .default) ReleasesCancelled (System.initial, StuckLedger.empty)
      cancelledInTurn := by
  apply stuckTasks_cancelled
  refine ⟨trivial, trivial, trivial, trivial, trivial, trivial, trivial, trivial, trivial,
    trivial, trivial, trivial, ?_, trivial, trivial, ?_, trivial, trivial⟩
  · intro entry first _ _ taskId origin remoteId recorded
    cases first
    cases origin
    cases recorded
    exact Or.inl rfl
  · intro entry first _ _ taskId origin remoteId recorded
    cases first
    cases origin
    cases recorded
    exact Or.inl rfl

/-- Both tasks time out before the recovery worker takes the entry of the first. -/
def displacedId : List SystemEvent :=
  bothStreaming ++
    [(SystemAction.task "task-1" .timedOut).atTime 7203,
      (SystemAction.task "task-2" .timedOut).atTime 7207,
      (SystemAction.recovery .taken).atTime 7208]

/-- It cancels the second task, and releases the slot of the first. -/
theorem displacedId_notCancelled :
    ¬ ∀ config events,
      StepSystem.Along (stuckStep config) ReleasesCancelled
        (System.initial, StuckLedger.empty) events := by
  intro releases
  have along := releases .default
    (displacedId ++ [(SystemAction.recovery (.cancelled true)).atTime 7209])
  obtain ⟨state, ran, ⟨entry, held, origin⟩, known, cancelled⟩ :
      ∃ state ∈ StepSystem.run (stuckStep .default) (System.initial, StuckLedger.empty)
          displacedId,
        (∃ entry ∈ state.1.recovery.phase.entry, entry.origin = .failedTask "task-1") ∧
          state.2.timedOut.get? "task-1" = some "remote-1" ∧
            state.2.cancelled = [(some "agent", "remote-2")] := by
    decide
  have requested := StepSystem.along_at along ran rfl entry held "task-1" origin "remote-1" known
  rw [cancelled] at requested
  simp at requested

end QuAIA.Orchestrator
