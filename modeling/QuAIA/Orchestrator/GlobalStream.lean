import QuAIA.Orchestrator.StreamingHub
import QuAIA.Orchestrator.TaskHistory

/-!
Contract: one connection to the global dashboard stream, from the snapshot that its
endpoint reads to the live store that the dashboard folds (`get_global_sse_stream`,
`_build_snapshot`, `_finalize_task`, `liveReducer`).

Owns: the steps of the tasks and of the connection between suspensions, and the
condition under which snapshot and subscription agree.

Does not own: token expiry and heartbeats, the agents of a snapshot, the logs of the
tasks, and the other connections.
-/

set_option autoImplicit false

namespace QuAIA.Orchestrator

open QuAIA.Common
open QuAIA.Library
open QuAIA.Library.StepSystem

/-! ## The dashboard -/

structure TaskLiveState where
  taskId : String
  agentId : String
  currentActivity : Option String
deriving DecidableEq, Repr

abbrev LiveStore := Dict String TaskLiveState

inductive LiveAction where
  | snapshot (tasks : List TaskLiveState)
  | agentActivity (taskId agentId text : String)
  | taskDone (taskId : String)
  | reconcile (terminalTaskIds : List String)

def liveReducer (state : LiveStore) : LiveAction → LiveStore
  | .snapshot tasks => tasks.foldl (fun next task => next.set task.taskId task) .empty
  | .agentActivity taskId agentId text => state.set taskId ⟨taskId, agentId, some text⟩
  | .taskDone taskId => state.pop taskId
  | .reconcile terminalTaskIds => terminalTaskIds.foldl Dict.pop state

/-- `handleSseEvent` for a live event: frames of other types dispatch nothing. -/
def handleSseEvent : HubEvent → Option LiveAction
  | .agentActivity event => some (.agentActivity event.taskId event.agentId event.text)
  | .taskDone event => some (.taskDone event.taskId)
  | .logBatch _ => none
  | .other _ => none

def dispatch (store : LiveStore) (event : HubEvent) : LiveStore :=
  match handleSseEvent event with
  | some action => liveReducer store action
  | none => store

/-- The store after the snapshot frame. -/
def snapshotStore (runningTasks : List RunningTaskSnapshot) : LiveStore :=
  liveReducer .empty (.snapshot (runningTasks.map fun task =>
    ⟨task.taskId, task.agentId, task.currentActivity⟩))

/-! ### Which tasks are live -/

/-- Whether a task is live after an event depends only on whether it was. -/
def liveAfter (taskId : String) (live : Bool) : HubEvent → Bool
  | .agentActivity event => decide (taskId = event.taskId) || live
  | .taskDone event => decide (taskId ≠ event.taskId) && live
  | .logBatch _ => live
  | .other _ => live

theorem contains_dispatch (store : LiveStore) (event : HubEvent) (taskId : String) :
    (dispatch store event).contains taskId =
      liveAfter taskId (store.contains taskId) event := by
  cases event with
  | agentActivity event => exact Dict.contains_set _ _ _ _
  | taskDone event => exact Dict.contains_pop _ _ _
  | logBatch | other => rfl

theorem contains_foldl_dispatch (store : LiveStore) (events : List HubEvent)
    (taskId : String) :
    (events.foldl dispatch store).contains taskId =
      events.foldl (liveAfter taskId) (store.contains taskId) := by
  induction events generalizing store with
  | nil => rfl
  | cons event rest inductionHypothesis =>
      rw [List.foldl_cons, inductionHypothesis, contains_dispatch]
      rfl

theorem liveAfter_activity {event : HubEvent} {owner : String}
    (activity : event.activityTask = some owner) (taskId : String) (live : Bool) :
    liveAfter taskId live event = (decide (taskId = owner) || live) := by
  cases event with
  | agentActivity event =>
      simp only [HubEvent.activityTask] at activity
      split at activity
      · cases activity
      · rw [Option.some.injEq] at activity
        rw [liveAfter, activity]
  | taskDone | logBatch | other => cases activity

/-- One activity of a task in the place of another keeps the live tasks. -/
theorem foldl_liveAfter_replace {earlier later : HubEvent}
    (same : earlier.activityTask = later.activityTask) (activity : later.activityTask ≠ none)
    (first last : List HubEvent) (taskId : String) (live : Bool) :
    (first ++ later :: last).foldl (liveAfter taskId) live =
      (first ++ earlier :: last).foldl (liveAfter taskId) live := by
  obtain ⟨owner, laterOwner⟩ := Option.ne_none_iff_exists'.mp activity
  rw [List.foldl_append, List.foldl_append, List.foldl_cons, List.foldl_cons,
    liveAfter_activity laterOwner, liveAfter_activity (same.trans laterOwner)]

theorem contains_snapshotStore (runningTasks : List RunningTaskSnapshot) (taskId : String) :
    (snapshotStore runningTasks).contains taskId =
      runningTasks.any fun task => taskId = task.taskId := by
  have general : ∀ (tasks : List TaskLiveState) (store : LiveStore),
      (tasks.foldl (fun next task => next.set task.taskId task) store).contains taskId =
        (store.contains taskId || tasks.any fun task => taskId = task.taskId) := by
    intro tasks
    induction tasks with
    | nil => simp
    | cons task rest inductionHypothesis =>
        intro store
        rw [List.foldl_cons, inductionHypothesis, Dict.contains_set, List.any_cons]
        cases decide (taskId = task.taskId) <;> simp
  have empty : (Dict.empty : LiveStore).contains taskId = false := rfl
  rw [snapshotStore, liveReducer, general, empty, Bool.false_or, List.any_map]
  rfl

/-! ## The orchestrator -/

section World

variable {Usage : Type}

def TaskStatus.value : TaskStatus → String
  | .pending => "PENDING"
  | .running => "RUNNING"
  | .completed => "COMPLETED"
  | .failed => "FAILED"
  | .cancelled => "CANCELLED"

/-- The record of a task that starts. -/
def TaskRecord.start (taskId agentId agentName description : String) (startTime : Int) :
    TaskRecord Usage :=
  ⟨taskId, agentId, agentName, description, .running, startTime, none, none, none, none, none,
    none, none⟩

/-- The running tasks of `_build_snapshot`. -/
def buildSnapshot (history : TaskHistory Usage) : List RunningTaskSnapshot :=
  (history.getAll.filter fun task => task.status = .running).map fun task =>
    ⟨task.taskId, task.agentId, task.description, task.currentActivity⟩

/-- Where the connection is suspended: in the start of the response, in the sending of
the snapshot frame, or in the forwarding of live events. -/
inductive Connection where
  | closed
  | responding (snapshot : List RunningTaskSnapshot)
  | sendingSnapshot (snapshot : List RunningTaskSnapshot)
  | live (snapshot : List RunningTaskSnapshot) (subscriber : SubscriberRun)

/-- `published` are the global events since the snapshot was read; `started` and
`finished` are the tasks that were. -/
structure GlobalStream (Usage : Type) where
  history : TaskHistory Usage
  started : List String
  finished : List String
  seq : Nat
  connection : Connection
  published : List (Nat × HubEvent)

inductive StreamEvent where
  | taskStarted (taskId agentId agentName description : String) (startTime : Int)
  | activityReported (taskId agentId text : String)
  | taskFinished (taskId agentId : String) (completed : Bool) (endTime : Int)
      (errorMessage : Option String)
  | logsPublished
  | opened
  | responseStarted
  | snapshotSent
  | eventTaken

/-- The event's publication on the global channel. -/
def StreamEvent.publishes : StreamEvent → Option HubEvent
  | .activityReported taskId agentId text => some (.agentActivity ⟨taskId, agentId, text⟩)
  | .taskFinished taskId agentId completed _ errorMessage =>
      some (.taskDone ⟨taskId, agentId,
        (if completed then TaskStatus.completed else .failed).value, errorMessage⟩)
  | _ => none

/-- `publish_global`: a subscriber that is registered receives the event. -/
def publishGlobal (world : GlobalStream Usage) (event : HubEvent) : GlobalStream Usage :=
  { world with
    seq := world.seq + 1
    connection :=
      match world.connection with
      | .live snapshot subscriber => .live snapshot (subscriber.put event world.seq)
      | connection => connection
    published :=
      match world.connection with
      | .closed => world.published
      | _ => world.published ++ [(world.seq, event)] }

/-- A task runs from its start to its one finish. -/
def GlobalStream.running (world : GlobalStream Usage) (taskId : String) : Bool :=
  decide (taskId ∈ world.started ∧ taskId ∉ world.finished)

def GlobalStream.step (world : GlobalStream Usage) : StreamEvent → Option (GlobalStream Usage)
  | .taskStarted taskId agentId agentName description startTime =>
      if taskId ∈ world.started then none
      else
        some { world with
          history := world.history.add
            (.start taskId agentId agentName description startTime)
          started := world.started ++ [taskId] }
  | .activityReported taskId agentId text =>
      if world.running taskId ∧ text ≠ "" then
        some (publishGlobal
          { world with history := world.history.setCurrentActivity taskId text }
          (.agentActivity ⟨taskId, agentId, text⟩))
      else none
  | .taskFinished taskId agentId completed endTime errorMessage =>
      if world.running taskId then
        let status := if completed then TaskStatus.completed else .failed
        let history := (world.history.update taskId status (some endTime)
          errorMessage).clearCurrentActivity taskId
        let announced := publishGlobal { world with history := history }
          (.taskDone ⟨taskId, agentId, status.value, errorMessage⟩)
        -- The same event goes to the agent's channel, under the next number.
        some { announced with
          seq := announced.seq + 1
          finished := world.finished ++ [taskId] }
      else none
  | .logsPublished => some { world with seq := world.seq + 1 }
  | .opened =>
      match world.connection with
      | .closed =>
          some { world with
            connection := .responding (buildSnapshot world.history)
            published := [] }
      | _ => none
  | .responseStarted =>
      match world.connection with
      | .responding snapshot => some { world with connection := .sendingSnapshot snapshot }
      | _ => none
  | .snapshotSent =>
      match world.connection with
      | .sendingSnapshot snapshot =>
          some { world with
            connection := .live snapshot (.create queueMaxsize (by decide)) }
      | _ => none
  | .eventTaken =>
      match world.connection with
      | .live snapshot subscriber =>
          (subscriber.step .get).map fun next =>
            { world with connection := .live snapshot next }
      | _ => none

def GlobalStream.initial (maxSize : Nat) (positive : 1 ≤ maxSize) : GlobalStream Usage :=
  ⟨.create maxSize positive, [], [], 0, .closed, []⟩

/-! ## Agreement -/

/-- The snapshot is read, and the subscriber is not registered. -/
def Connection.unsubscribed : Connection → Bool
  | .responding _ => true
  | .sendingSnapshot _ => true
  | _ => false

/-- The event was put into the connection's buffer, and is there, or was delivered, or is
replaced in its slot by a later activity of its task. -/
def GlobalStream.Received (world : GlobalStream Usage) (put : Nat × HubEvent) : Prop :=
  ∃ snapshot subscriber, world.connection = .live snapshot subscriber ∧
    put ∈ subscriber.puts ∧
    ((put.1, .published put.2) ∈ subscriber.buffered ∨
      (put.1, .published put.2) ∈ subscriber.delivered ∨
      subscriber.Superseded put.1 put.2)

/-- The dashboard's fold of the snapshot and of every event delivered or buffered. -/
def GlobalStream.store (world : GlobalStream Usage) : LiveStore :=
  match world.connection with
  | .closed => .empty
  | .responding snapshot => snapshotStore snapshot
  | .sendingSnapshot snapshot => snapshotStore snapshot
  | .live snapshot subscriber => subscriber.events.foldl dispatch (snapshotStore snapshot)

/-- Everything published since the snapshot is received, and no finished task is live. -/
def GlobalStream.Agrees (world : GlobalStream Usage) : Prop :=
  (∀ put ∈ world.published, world.Received put) ∧
    ∀ taskId ∈ world.finished, world.store.contains taskId = false

/-- The event overflows the connection's buffer. -/
def GlobalStream.Overflows (world : GlobalStream Usage) (event : StreamEvent) : Prop :=
  match world.connection, event.publishes with
  | .live _ subscriber, some published => subscriber.Overflows (.put published world.seq)
  | _, _ => False

instance (world : GlobalStream Usage) (event : StreamEvent) :
    Decidable (world.Overflows event) := by
  unfold GlobalStream.Overflows
  split <;> infer_instance

/-- The event is published after the reading of the snapshot and before the
subscription. -/
def GlobalStream.Missed (world : GlobalStream Usage) (event : StreamEvent) : Prop :=
  world.connection.unsubscribed = true ∧ event.publishes.isSome = true

/-! ## The tasks and their records -/

/-- Every retained record is of a started task, and a running one of a task that has not
finished. -/
structure TasksKnown (history : TaskHistory Usage) (started finished : List String) : Prop where
  consistent : history.Consistent
  known : ∀ record ∈ history.retained, record.taskId ∈ started
  unfinished : ∀ record ∈ history.retained, record.status = .running →
    record.taskId ∉ finished

theorem TasksKnown.add {history : TaskHistory Usage} {started finished : List String}
    (tasks : TasksKnown history started finished) (inStarted : finished ⊆ started)
    {record : TaskRecord Usage} (fresh : record.taskId ∉ started) :
    TasksKnown (history.add record) (started ++ [record.taskId]) finished := by
  have member : ∀ other ∈ (history.add record).retained,
      other ∈ history.retained ∨ other = record := by
    intro other inside
    rw [TaskHistory.retained_add tasks.consistent, List.mem_append,
      List.mem_singleton] at inside
    rcases inside with earlier | added
    · left
      split at earlier
      · exact List.mem_of_mem_tail earlier
      · exact earlier
    · exact .inr added
  constructor
  · apply tasks.consistent.add
    intro other inside same
    exact fresh (same ▸ tasks.known other inside)
  · intro other inside
    rcases member other inside with earlier | rfl
    · exact List.mem_append_left _ (tasks.known other earlier)
    · simp
  · intro other inside running
    rcases member other inside with earlier | rfl
    · exact tasks.unfinished other earlier running
    · intro finishedAlready
      exact fresh (inStarted finishedAlready)

/-- A mutator that keeps ids and starts no task again. -/
theorem TasksKnown.mutate {history : TaskHistory Usage} {started finished : List String}
    (tasks : TasksKnown history started finished) {taskId : String}
    {change : TaskRecord Usage → TaskRecord Usage}
    (keepsId : ∀ record, (change record).taskId = record.taskId)
    (keepsStatus : ∀ record, (change record).status = .running → record.status = .running) :
    TasksKnown (history.mutate taskId change) started finished := by
  constructor
  · exact tasks.consistent.mutate keepsId
  · intro record member
    rw [TaskHistory.retained_mutate tasks.consistent, List.mem_map] at member
    obtain ⟨earlier, inside, rfl⟩ := member
    have known := tasks.known earlier inside
    split
    · rw [keepsId]
      exact known
    · exact known
  · intro record member running
    rw [TaskHistory.retained_mutate tasks.consistent, List.mem_map] at member
    obtain ⟨earlier, inside, rfl⟩ := member
    have unfinished := tasks.unfinished earlier inside
    by_cases same : earlier.taskId = taskId
    · rw [if_pos same] at running ⊢
      rw [keepsId]
      exact unfinished (keepsStatus earlier running)
    · rw [if_neg same] at running ⊢
      exact unfinished running

/-- A task finishes with its record. -/
theorem TasksKnown.finish {history : TaskHistory Usage} {started finished : List String}
    (tasks : TasksKnown history started finished) (taskId : String) {status : TaskStatus}
    (ended : status ≠ .running) (endTime : Option Int) (errorMessage : Option String) :
    TasksKnown ((history.update taskId status endTime errorMessage).clearCurrentActivity
      taskId) started (finished ++ [taskId]) := by
  have updated : TasksKnown (history.update taskId status endTime errorMessage) started
      finished := tasks.mutate (fun _ => rfl) (fun _ running => absurd running ended)
  have noneRunning : ∀ record ∈ (history.update taskId status endTime errorMessage).retained,
      record.status = .running → record.taskId ≠ taskId := by
    intro record member running
    rw [TaskHistory.update, TaskHistory.retained_mutate tasks.consistent,
      List.mem_map] at member
    obtain ⟨earlier, -, rfl⟩ := member
    by_cases same : earlier.taskId = taskId
    · rw [if_pos same] at running
      exact absurd running ended
    · rw [if_neg same]
      exact same
  have cleared : TasksKnown ((history.update taskId status endTime
      errorMessage).clearCurrentActivity taskId) started finished :=
    updated.mutate (fun _ => rfl) (fun _ running => running)
  refine ⟨cleared.consistent, cleared.known, ?_⟩
  intro record member running
  have unfinished := cleared.unfinished record member running
  rw [TaskHistory.clearCurrentActivity, TaskHistory.retained_mutate updated.consistent,
    List.mem_map] at member
  obtain ⟨earlier, inside, rfl⟩ := member
  have otherTask : earlier.taskId ≠ taskId := by
    apply noneRunning earlier inside
    split at running
    · exact running
    · exact running
  rw [if_neg otherTask] at unfinished ⊢
  rw [List.mem_append, List.mem_singleton, not_or]
  exact ⟨unfinished, otherTask⟩

/-- The tasks in a snapshot have not finished. -/
theorem TasksKnown.snapshot {history : TaskHistory Usage} {started finished : List String}
    (tasks : TasksKnown history started finished) {taskId : String}
    (finishedTask : taskId ∈ finished) :
    (snapshotStore (buildSnapshot history)).contains taskId = false := by
  rw [contains_snapshotStore, List.any_eq_false]
  intro task member
  obtain ⟨record, inside, rfl⟩ := List.mem_map.mp member
  rw [List.mem_filter, TaskHistory.getAll, List.mem_reverse, decide_eq_true_eq] at inside
  rw [decide_eq_true_eq]
  rintro rfl
  exact tasks.unfinished record inside.1 inside.2 finishedTask

/-! ## The feed of the connection -/

/-- What holds of the connection's buffer as long as it does not overflow. -/
structure Feeding (subscriber : SubscriberRun) (seq : Nat) : Prop where
  sound : subscriber.Sound
  complete : subscriber.NoSilentLoss
  gapFree : subscriber.GapFree
  below : ∀ put ∈ subscriber.puts, put.1 < seq

theorem feeding_create (maxsize : Nat) (positive : 1 ≤ maxsize) (seq : Nat) :
    Feeding (.create maxsize positive) seq := by
  refine ⟨SubscriberRun.sound_create maxsize positive,
    SubscriberRun.noSilentLoss_create maxsize positive, ?_, ?_⟩
  · intro number gap member
    cases member
  · intro put member
    cases member

theorem Feeding.put {subscriber : SubscriberRun} {seq : Nat} (feeding : Feeding subscriber seq)
    {event : HubEvent} (fits : ¬ subscriber.Overflows (.put event seq)) :
    Feeding (subscriber.put event seq) (seq + 1) := by
  have grows : subscriber.puts.all (fun earlier => earlier.1 < seq) = true := by
    rw [List.all_eq_true]
    intro put member
    exact decide_eq_true (feeding.below put member)
  have stepped : subscriber.step (.put event seq) = some (subscriber.put event seq) := by
    rw [SubscriberRun.step, if_pos grows]
  refine ⟨SubscriberRun.sound_step _ _ _ feeding.sound stepped,
    (SubscriberRun.noSilentLoss_step _ _ _ feeding.sound feeding.complete stepped).mpr fits,
    SubscriberRun.gapFree_put feeding.sound feeding.gapFree fits, ?_⟩
  intro put member
  rcases List.mem_append.mp member with earlier | added
  · have small := feeding.below put earlier
    omega
  · rw [List.mem_singleton.mp added]
    exact Nat.lt_succ_self seq

theorem Feeding.mono {subscriber : SubscriberRun} {seq later : Nat}
    (feeding : Feeding subscriber seq) (above : seq ≤ later) : Feeding subscriber later := by
  refine ⟨feeding.sound, feeding.complete, feeding.gapFree, ?_⟩
  intro put member
  exact Nat.lt_of_lt_of_le (feeding.below put member) above

theorem Feeding.get {subscriber next : SubscriberRun} {seq : Nat}
    (feeding : Feeding subscriber seq) (stepped : subscriber.step .get = some next) :
    Feeding next seq ∧ next.puts = subscriber.puts ∧ next.events = subscriber.events := by
  have moves := SubscriberRun.get_moves feeding.sound.1 stepped
  have samePuts : next.puts = subscriber.puts := by
    obtain ⟨item, rest, split, rfl⟩ := SubscriberRun.step_get stepped
    rfl
  refine ⟨⟨SubscriberRun.sound_step _ _ _ feeding.sound stepped,
    (SubscriberRun.noSilentLoss_step _ _ _ feeding.sound feeding.complete stepped).mpr
      (fun overflows => overflows), ?_, ?_⟩, samePuts, ?_⟩
  · intro number gap member
    apply feeding.gapFree number gap
    rw [List.mem_append, or_comm, ← List.mem_append] at member ⊢
    exact moves ▸ member
  · rw [samePuts]
    exact feeding.below
  · rw [SubscriberRun.events, moves]
    rfl

/-- Every event put into such a buffer is buffered, delivered or superseded. -/
theorem Feeding.received {subscriber : SubscriberRun} {seq : Nat}
    (feeding : Feeding subscriber seq) {put : Nat × HubEvent}
    (member : put ∈ subscriber.puts) :
    (put.1, .published put.2) ∈ subscriber.buffered ∨
      (put.1, .published put.2) ∈ subscriber.delivered ∨
      subscriber.Superseded put.1 put.2 := by
  rcases feeding.complete put member with
    inBuffer | inDelivered | superseded | ⟨number, gap, inside, -⟩
  · exact .inl inBuffer
  · exact .inr (.inl inDelivered)
  · exact .inr (.inr superseded)
  · exact absurd inside (feeding.gapFree number gap)

/-! ## Steps -/

structure GlobalStream.Invariant (world : GlobalStream Usage) : Prop where
  tasks : TasksKnown world.history world.started world.finished
  inStarted : world.finished ⊆ world.started
  unread : world.connection = .closed → world.published = []
  feeding : ∀ snapshot subscriber, world.connection = .live snapshot subscriber →
    Feeding subscriber world.seq

/-- A publication that neither overflows the buffer nor misses the subscription. -/
theorem publishGlobal_feeding {world : GlobalStream Usage} {event : HubEvent}
    (feeding : ∀ snapshot subscriber, world.connection = .live snapshot subscriber →
      Feeding subscriber world.seq)
    (fits : ∀ snapshot subscriber, world.connection = .live snapshot subscriber →
      ¬ subscriber.Overflows (.put event world.seq)) :
    ∀ snapshot subscriber,
      (publishGlobal world event).connection = .live snapshot subscriber →
      Feeding subscriber (world.seq + 1) := by
  intro snapshot subscriber isLive
  cases connection : world.connection with
  | closed | responding | sendingSnapshot => simp [publishGlobal, connection] at isLive
  | live read run =>
      simp only [publishGlobal, connection, Connection.live.injEq] at isLive
      obtain ⟨rfl, rfl⟩ := isLive
      exact (feeding read run connection).put (fits read run connection)

theorem publishGlobal_unread {world : GlobalStream Usage} {event : HubEvent}
    (unread : world.connection = .closed → world.published = [])
    (closed : (publishGlobal world event).connection = .closed) :
    (publishGlobal world event).published = [] := by
  cases connection : world.connection with
  | closed => simpa [publishGlobal, connection] using unread connection
  | responding | sendingSnapshot | live => simp [publishGlobal, connection] at closed

theorem publishGlobal_received {world : GlobalStream Usage} {event : HubEvent}
    (unread : world.connection = .closed → world.published = [])
    (subscribed : world.connection.unsubscribed = false)
    (received : ∀ put ∈ world.published, world.Received put)
    (feeding : ∀ snapshot subscriber,
      (publishGlobal world event).connection = .live snapshot subscriber →
      Feeding subscriber (world.seq + 1)) :
    ∀ put ∈ (publishGlobal world event).published,
      (publishGlobal world event).Received put := by
  cases connection : world.connection with
  | responding | sendingSnapshot => simp [connection, Connection.unsubscribed] at subscribed
  | closed => simp [publishGlobal, connection, unread connection]
  | live read run =>
      intro put member
      have isLive : (publishGlobal world event).connection =
          .live read (run.put event world.seq) := by
        simp [publishGlobal, connection]
      have inPuts : put ∈ (run.put event world.seq).puts := by
        simp only [publishGlobal, connection] at member
        rcases List.mem_append.mp member with earlier | added
        · obtain ⟨snapshot, subscriber, wasLive, inside, -⟩ := received put earlier
          rw [connection, Connection.live.injEq] at wasLive
          obtain ⟨rfl, rfl⟩ := wasLive
          exact List.mem_append_left _ inside
        · exact List.mem_append_right _ added
      exact ⟨read, _, isLive, inPuts, (feeding _ _ isLive).received inPuts⟩

/-- A publication makes no task live but the one whose activity it is. -/
theorem publishGlobal_store {world : GlobalStream Usage} {event : HubEvent}
    (feeding : ∀ snapshot subscriber, world.connection = .live snapshot subscriber →
      Feeding subscriber world.seq)
    (fits : ∀ snapshot subscriber, world.connection = .live snapshot subscriber →
      ¬ subscriber.Overflows (.put event world.seq))
    {taskId : String} (absent : world.store.contains taskId = false)
    (other : liveAfter taskId false event = false) :
    (publishGlobal world event).store.contains taskId = false := by
  cases connection : world.connection with
  | closed | responding | sendingSnapshot =>
      simpa [GlobalStream.store, publishGlobal, connection] using absent
  | live read run =>
      simp only [GlobalStream.store, publishGlobal, connection, contains_foldl_dispatch]
        at absent ⊢
      rcases SubscriberRun.events_put (feeding read run connection).sound
          (fits read run connection) with
        appended | ⟨first, earlier, last, split, replaced, same, activity⟩
      · rw [appended, List.foldl_append, absent]
        exact other
      · rw [replaced, foldl_liveAfter_replace same activity, ← split]
        exact absent

/-- The end of a task takes it out of the store. -/
theorem publishGlobal_done {world : GlobalStream Usage} (event : TaskDoneEvent)
    (subscribed : world.connection.unsubscribed = false)
    (feeding : ∀ snapshot subscriber, world.connection = .live snapshot subscriber →
      Feeding subscriber world.seq)
    (fits : ∀ snapshot subscriber, world.connection = .live snapshot subscriber →
      ¬ subscriber.Overflows (.put (.taskDone event) world.seq)) :
    (publishGlobal world (.taskDone event)).store.contains event.taskId = false := by
  cases connection : world.connection with
  | responding | sendingSnapshot => simp [connection, Connection.unsubscribed] at subscribed
  | closed => simp only [GlobalStream.store, publishGlobal, connection]; rfl
  | live read run =>
      simp only [GlobalStream.store, publishGlobal, connection, contains_foldl_dispatch]
      rcases SubscriberRun.events_put (feeding read run connection).sound
          (fits read run connection) with
        appended | ⟨first, earlier, last, split, replaced, same, activity⟩
      · rw [appended, List.foldl_append]
        simp [liveAfter]
      · exact absurd rfl activity

theorem fits_of_not_overflows {world : GlobalStream Usage} {event : StreamEvent}
    {published : HubEvent} (publishes : event.publishes = some published)
    (fits : ¬ world.Overflows event) :
    ∀ snapshot subscriber, world.connection = .live snapshot subscriber →
      ¬ subscriber.Overflows (.put published world.seq) := by
  intro snapshot subscriber isLive overflows
  apply fits
  simp only [GlobalStream.Overflows, isLive, publishes]
  exact overflows

/-- What a step can do, with the state of the connection that it needs. -/
inductive GlobalStream.Stepped (world : GlobalStream Usage) :
    StreamEvent → GlobalStream Usage → Prop
  | taskStarted {taskId agentId agentName description : String} {startTime : Int}
      (fresh : taskId ∉ world.started) :
      Stepped world (.taskStarted taskId agentId agentName description startTime)
        { world with
          history := world.history.add
            (.start taskId agentId agentName description startTime)
          started := world.started ++ [taskId] }
  | activityReported {taskId agentId text : String}
      (running : taskId ∈ world.started ∧ taskId ∉ world.finished) :
      Stepped world (.activityReported taskId agentId text)
        (publishGlobal
          { world with history := world.history.setCurrentActivity taskId text }
          (.agentActivity ⟨taskId, agentId, text⟩))
  | taskFinished {taskId agentId : String} {completed : Bool} {endTime : Int}
      {errorMessage : Option String} {status : TaskStatus} {announced : GlobalStream Usage}
      (running : taskId ∈ world.started ∧ taskId ∉ world.finished)
      (isStatus : status = if completed then .completed else .failed)
      (announces : announced = publishGlobal
        { world with
          history := (world.history.update taskId status (some endTime)
            errorMessage).clearCurrentActivity taskId }
        (.taskDone ⟨taskId, agentId, status.value, errorMessage⟩)) :
      Stepped world (.taskFinished taskId agentId completed endTime errorMessage)
        { announced with
          seq := announced.seq + 1
          finished := world.finished ++ [taskId] }
  | logsPublished : Stepped world .logsPublished { world with seq := world.seq + 1 }
  | opened (closed : world.connection = .closed) :
      Stepped world .opened { world with
        connection := .responding (buildSnapshot world.history)
        published := [] }
  | responseStarted {snapshot : List RunningTaskSnapshot}
      (responding : world.connection = .responding snapshot) :
      Stepped world .responseStarted { world with connection := .sendingSnapshot snapshot }
  | snapshotSent {snapshot : List RunningTaskSnapshot}
      (sending : world.connection = .sendingSnapshot snapshot) :
      Stepped world .snapshotSent { world with
        connection := .live snapshot (.create queueMaxsize (by decide)) }
  | eventTaken {snapshot : List RunningTaskSnapshot} {subscriber taken : SubscriberRun}
      (isLive : world.connection = .live snapshot subscriber)
      (got : subscriber.step .get = some taken) :
      Stepped world .eventTaken { world with connection := .live snapshot taken }

theorem GlobalStream.stepped_of_step {world next : GlobalStream Usage} {event : StreamEvent}
    (stepped : world.step event = some next) : world.Stepped event next := by
  cases event with
  | taskStarted taskId agentId agentName description startTime =>
      simp only [GlobalStream.step, Option.ite_none_left_eq_some, Option.some.injEq] at stepped
      obtain ⟨fresh, rfl⟩ := stepped
      exact .taskStarted fresh
  | activityReported taskId agentId text =>
      simp only [GlobalStream.step, Option.ite_none_right_eq_some, Option.some.injEq] at stepped
      obtain ⟨⟨running, -⟩, rfl⟩ := stepped
      exact .activityReported (of_decide_eq_true running)
  | taskFinished taskId agentId completed endTime errorMessage =>
      simp only [GlobalStream.step, Option.ite_none_right_eq_some, Option.some.injEq] at stepped
      obtain ⟨running, rfl⟩ := stepped
      exact .taskFinished (of_decide_eq_true running) rfl rfl
  | logsPublished =>
      cases stepped
      exact .logsPublished
  | opened =>
      simp only [GlobalStream.step] at stepped
      split at stepped
      · next closed => cases stepped; exact .opened closed
      · cases stepped
  | responseStarted =>
      simp only [GlobalStream.step] at stepped
      split at stepped
      · next responding => cases stepped; exact .responseStarted responding
      · cases stepped
  | snapshotSent =>
      simp only [GlobalStream.step] at stepped
      split at stepped
      · next sending => cases stepped; exact .snapshotSent sending
      · cases stepped
  | eventTaken =>
      simp only [GlobalStream.step] at stepped
      split at stepped
      · next isLive =>
          obtain ⟨taken, got, rfl⟩ := Option.map_eq_some_iff.mp stepped
          exact .eventTaken isLive got
      · cases stepped

/-- A step of the connection, or of a task on a channel that the connection does not
read, keeps what the tasks are. -/
theorem GlobalStream.Invariant.step (world : GlobalStream Usage) (event : StreamEvent)
    (next : GlobalStream Usage) (invariant : world.Invariant)
    (fits : ¬ world.Overflows event) (stepped : world.step event = some next) :
    next.Invariant := by
  obtain ⟨tasks, inStarted, unread, feeding⟩ := invariant
  cases GlobalStream.stepped_of_step stepped with
  | taskStarted fresh =>
      exact ⟨tasks.add inStarted fresh,
        fun task member => List.mem_append_left _ (inStarted member), unread, feeding⟩
  | activityReported running =>
      have fitsHere := fits_of_not_overflows rfl fits
      refine ⟨?_, inStarted, publishGlobal_unread unread,
        publishGlobal_feeding feeding fitsHere⟩
      exact tasks.mutate (fun _ => rfl) (fun _ running => running)
  | @taskFinished taskId _ completed _ _ status _ running isStatus announces =>
      subst isStatus announces
      have fitsHere := fits_of_not_overflows rfl fits
      have ended : (if completed then TaskStatus.completed else .failed) ≠ .running := by
        cases completed <;> decide
      refine ⟨tasks.finish taskId ended _ _, ?_, publishGlobal_unread unread, ?_⟩
      · intro task member
        rcases List.mem_append.mp member with earlier | added
        · exact inStarted earlier
        · exact List.mem_singleton.mp added ▸ running.1
      · intro snapshot subscriber isLive
        have announced := publishGlobal_feeding feeding fitsHere snapshot subscriber isLive
        exact announced.mono (Nat.le_succ _)
  | logsPublished =>
      refine ⟨tasks, inStarted, unread, ?_⟩
      intro snapshot subscriber isLive
      exact (feeding snapshot subscriber isLive).mono (Nat.le_succ _)
  | opened => exact ⟨tasks, inStarted, fun _ => rfl, (fun _ _ isLive => by cases isLive)⟩
  | responseStarted =>
      exact ⟨tasks, inStarted, (fun isClosed => by cases isClosed),
        (fun _ _ isLive => by cases isLive)⟩
  | snapshotSent =>
      refine ⟨tasks, inStarted, (fun isClosed => by cases isClosed), ?_⟩
      intro read subscriber isLive
      rw [Connection.live.injEq] at isLive
      exact isLive.2 ▸ feeding_create queueMaxsize (by decide) world.seq
  | @eventTaken snapshot run taken connection got =>
      refine ⟨tasks, inStarted, (fun isClosed => by cases isClosed), ?_⟩
      intro read subscriber isLive
      rw [Connection.live.injEq] at isLive
      exact isLive.2 ▸ ((feeding snapshot run connection).get got).1

/-- What is published while no subscriber is registered is not received. -/
theorem publishGlobal_missed {world : GlobalStream Usage} (event : HubEvent)
    (unsubscribed : world.connection.unsubscribed = true) :
    (publishGlobal world event).connection = world.connection ∧
      (publishGlobal world event).published = world.published ++ [(world.seq, event)] := by
  cases connection : world.connection with
  | closed | live => simp [connection, Connection.unsubscribed] at unsubscribed
  | responding snapshot | sendingSnapshot snapshot => simp [publishGlobal, connection]

/-- A publication between the snapshot and the subscription is never received. -/
theorem not_agrees_of_missed {world next : GlobalStream Usage} {event : StreamEvent}
    (missed : world.Missed event) (stepped : world.step event = some next) :
    ¬ next.Agrees := by
  obtain ⟨unsubscribed, publishes⟩ := missed
  have lost : ∃ published, next.connection = world.connection ∧
      next.published = world.published ++ [(world.seq, published)] := by
    cases GlobalStream.stepped_of_step stepped with
    | activityReported => exact ⟨_, publishGlobal_missed _ unsubscribed⟩
    | taskFinished running isStatus announces =>
        subst announces
        exact ⟨_, publishGlobal_missed _ unsubscribed⟩
    | _ => cases publishes
  obtain ⟨published, sameConnection, added⟩ := lost
  rintro ⟨received, -⟩
  have inside : (world.seq, published) ∈ next.published := by simp [added]
  obtain ⟨snapshot, subscriber, isLive, -⟩ := received _ inside
  rw [sameConnection] at isLive
  rw [isLive] at unsubscribed
  cases unsubscribed

theorem agrees_of_publish {world : GlobalStream Usage} {event : HubEvent}
    (invariant : world.Invariant) (agrees : world.Agrees)
    (subscribed : world.connection.unsubscribed = false)
    (fits : ∀ snapshot subscriber, world.connection = .live snapshot subscriber →
      ¬ subscriber.Overflows (.put event world.seq))
    (other : ∀ taskId ∈ world.finished, liveAfter taskId false event = false) :
    (publishGlobal world event).Agrees := by
  have feeding := publishGlobal_feeding invariant.feeding fits
  constructor
  · exact publishGlobal_received invariant.unread subscribed agrees.1 feeding
  · intro taskId member
    exact publishGlobal_store invariant.feeding fits (agrees.2 taskId member)
      (other taskId member)

/-- Nothing was published to a connection that is not live. -/
theorem GlobalStream.Agrees.published_eq_nil {world : GlobalStream Usage} (agrees : world.Agrees)
    (notLive : ∀ snapshot subscriber, world.connection ≠ .live snapshot subscriber) :
    world.published = [] := by
  rw [List.eq_nil_iff_forall_not_mem]
  intro put member
  obtain ⟨snapshot, subscriber, isLive, -⟩ := agrees.1 put member
  exact notLive snapshot subscriber isLive

/-- A step that does not overflow the buffer keeps the agreement exactly if it does not
publish in the gap between snapshot and subscription. -/
theorem agrees_step (world : GlobalStream Usage) (event : StreamEvent)
    (next : GlobalStream Usage) (invariant : world.Invariant) (agrees : world.Agrees)
    (fits : ¬ world.Overflows event) (stepped : world.step event = some next) :
    next.Agrees ↔ ¬ world.Missed event := by
  constructor
  · intro kept missed
    exact not_agrees_of_missed missed stepped kept
  intro seen
  cases GlobalStream.stepped_of_step stepped with
  | taskStarted => exact agrees
  | @activityReported taskId _ text running =>
      have subscribed : world.connection.unsubscribed = false := by
        simpa [GlobalStream.Missed, StreamEvent.publishes] using seen
      have recorded : GlobalStream.Invariant
          { world with history := world.history.setCurrentActivity taskId text } :=
        ⟨invariant.tasks.mutate (fun _ => rfl) (fun _ isRunning => isRunning),
          invariant.inStarted, invariant.unread, invariant.feeding⟩
      apply agrees_of_publish recorded agrees subscribed (fits_of_not_overflows rfl fits)
      intro task member
      have otherTask : task ≠ taskId := by
        rintro rfl
        exact running.2 member
      simp [liveAfter, otherTask]
  | @taskFinished taskId agentId _ _ errorMessage _ _ running isStatus announces =>
      subst isStatus announces
      have subscribed : world.connection.unsubscribed = false := by
        simpa [GlobalStream.Missed, StreamEvent.publishes] using seen
      have fitsHere := fits_of_not_overflows rfl fits
      have feeding := publishGlobal_feeding invariant.feeding fitsHere
      constructor
      · exact publishGlobal_received invariant.unread subscribed agrees.1 feeding
      · intro task member
        rcases List.mem_append.mp member with earlier | added
        · exact publishGlobal_store invariant.feeding fitsHere (agrees.2 task earlier)
            (by simp [liveAfter])
        · rw [List.mem_singleton.mp added]
          exact publishGlobal_done ⟨taskId, agentId, _, errorMessage⟩ subscribed
            invariant.feeding fitsHere
  | logsPublished => exact agrees
  | opened =>
      constructor
      · intro put member
        cases member
      · intro taskId member
        exact invariant.tasks.snapshot member
  | responseStarted responding =>
      have nothing := agrees.published_eq_nil (by simp [responding])
      constructor
      · simp [nothing]
      · simpa [GlobalStream.store, responding] using agrees.2
  | snapshotSent sending =>
      have nothing := agrees.published_eq_nil (by simp [sending])
      obtain ⟨-, gone⟩ := agrees
      constructor
      · simp [nothing]
      · simp only [GlobalStream.store, sending] at gone
        exact gone
  | @eventTaken snapshot run taken connection got =>
      have feeding := invariant.feeding snapshot run connection
      obtain ⟨takenFeeding, samePuts, sameEvents⟩ := feeding.get got
      obtain ⟨received, gone⟩ := agrees
      constructor
      · intro put member
        obtain ⟨read, subscriber, isLive, inside, -⟩ := received put member
        rw [connection, Connection.live.injEq] at isLive
        obtain ⟨rfl, rfl⟩ := isLive
        have inTaken : put ∈ taken.puts := by rw [samePuts]; exact inside
        exact ⟨_, taken, rfl, inTaken, takenFeeding.received inTaken⟩
      · simp only [GlobalStream.store, connection] at gone
        simpa only [GlobalStream.store, sameEvents] using gone

theorem invariant_initial (maxSize : Nat) (positive : 1 ≤ maxSize) :
    (GlobalStream.initial maxSize positive : GlobalStream Usage).Invariant := by
  refine ⟨⟨TaskHistory.consistent_create maxSize positive, ?_, ?_⟩, List.Subset.refl _,
    fun _ => rfl, fun _ _ isLive => by cases isLive⟩
  · intro record member
    cases member
  · intro record member
    cases member

theorem agrees_initial (maxSize : Nat) (positive : 1 ≤ maxSize) :
    (GlobalStream.initial maxSize positive : GlobalStream Usage).Agrees := by
  constructor
  · intro put member
    cases member
  · intro taskId member
    cases member

/-- In a run that never overflows the connection's buffer, snapshot and subscription
agree throughout exactly if no event is published between the reading of the snapshot
and the subscription. -/
theorem agrees_iff {maxSize : Nat} {positive : 1 ≤ maxSize} {events : List StreamEvent}
    {final : GlobalStream Usage}
    (noOverflow : Along GlobalStream.step
      (fun world event => ¬ world.Overflows event)
      (.initial maxSize positive : GlobalStream Usage) events)
    (ran : run GlobalStream.step (.initial maxSize positive) events = some final) :
    Throughout GlobalStream.step GlobalStream.Agrees
        (.initial maxSize positive : GlobalStream Usage) events ↔
      Along GlobalStream.step (fun world event => ¬ world.Missed event)
        (.initial maxSize positive : GlobalStream Usage) events :=
  throughout_iff_along_of_assumed GlobalStream.Invariant.step agrees_step
    (invariant_initial maxSize positive) (agrees_initial maxSize positive) noOverflow ran

end World

/-- A connection that is live before the task finishes. -/
def seenFinish : List StreamEvent :=
  [.taskStarted "task-1" "agent" "Agent" "a review" 0, .opened, .responseStarted,
    .snapshotSent, .taskFinished "task-1" "agent" true 5 none, .eventTaken]

/-- The task finishes while the response starts. -/
def missedFinish : List StreamEvent :=
  [.taskStarted "task-1" "agent" "Agent" "a review" 0, .opened,
    .taskFinished "task-1" "agent" true 5 none, .responseStarted, .snapshotSent]

theorem agrees_iff_seenFinish :
    Throughout GlobalStream.step GlobalStream.Agrees
        (.initial 100 (by decide) : GlobalStream Unit) seenFinish ↔
      Along GlobalStream.step (fun world event => ¬ world.Missed event)
        (.initial 100 (by decide) : GlobalStream Unit) seenFinish := by
  have fits : Along GlobalStream.step (fun world event => ¬ world.Overflows event)
      (.initial 100 (by decide) : GlobalStream Unit) seenFinish := by
    decide
  exact agrees_iff fits rfl

/-- The finish is not received, and the finished task stays in the store. -/
theorem missedFinish_disagrees :
    ¬ ∀ (maxSize : Nat) (positive : 1 ≤ maxSize) (events : List StreamEvent)
        (final : GlobalStream Unit),
        Along GlobalStream.step (fun world event => ¬ world.Overflows event)
          (.initial maxSize positive : GlobalStream Unit) events →
        run GlobalStream.step (.initial maxSize positive) events = some final →
        Throughout GlobalStream.step GlobalStream.Agrees
          (.initial maxSize positive : GlobalStream Unit) events := by
  intro agreement
  have through := agreement 100 (by decide) missedFinish _ (by decide) rfl
  obtain ⟨-, -, -, agreesAfter, -, -⟩ := through
  obtain ⟨received, -⟩ := agreesAfter
  obtain ⟨snapshot, subscriber, isLive, -⟩ := received _ (List.mem_singleton_self _)
  cases isLive

example :
    (run GlobalStream.step (.initial 100 (by decide) : GlobalStream Unit) missedFinish).map
        (fun world => (world.finished, world.store.contains "task-1")) =
      some (["task-1"], true) := by
  decide

end QuAIA.Orchestrator
