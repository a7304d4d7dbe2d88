import QuAIA.Library.AsyncQueue
import QuAIA.Library.ListReplace
import QuAIA.Library.Semaphore
import QuAIA.Library.StepSystem

/-!
Contract: the queue of pipeline jobs and its consumer (`_pipeline_consumer`).

Owns: the segments of the consumer and of the background tasks it creates, for any jobs; the
account of permits and of unfinished jobs; and that the tasks of the consumer can only stop
when all jobs have ended.

Does not own: what a job does. It ends, in one of three ways, when the run says so. The set
that keeps the tasks alive is left out, and a negative limit, with which no semaphore can
be made.
-/

set_option autoImplicit false

namespace QuAIA.Orchestrator

open QuAIA.Library

universe u

/-! ## The code -/

/-- Where the background task of a job is: created, waiting for the semaphore, in the job,
or over. -/
inductive JobPhase where
  | scheduled
  | waiting
  | running
  | ended
deriving DecidableEq, Repr

structure JobTask (Job : Type u) where
  job : Job
  phase : JobPhase
deriving DecidableEq, Repr

/-- How a job ends: it returns, or it raises an exception that the handler catches, or one
that it does not. -/
inductive JobOutcome where
  | returned
  | raised (text : String)
  | interrupted
deriving DecidableEq, Repr

/-- The calls that a background task makes, with its index. -/
inductive PipelineCall where
  | job (index : Nat)
  | recordError (message : String)
  | taskDone (index : Nat)
deriving DecidableEq, Repr

/-- A background task has the index of its creation. The calls are bookkeeping, which no
step reads. -/
structure PipelineConsumer (Job : Type u) where
  queue : AsyncQueue Job
  semaphore : Semaphore Nat
  tasks : List (JobTask Job)
  calls : List PipelineCall
deriving DecidableEq, Repr

inductive PipelineEvent (Job : Type u) where
  | enqueued (job : Job)
  | dequeued
  | begun (index : Nat)
  | resumed (index : Nat)
  | jobEnded (index : Nat) (outcome : JobOutcome)

namespace PipelineConsumer

variable {Job : Type u}

def initial (maxConcurrentPipelines : Nat) : PipelineConsumer Job :=
  ⟨.empty, .new maxConcurrentPipelines, [], []⟩

/-- The task holds the semaphore and calls its job. -/
def callJob (consumer : PipelineConsumer Job) (semaphore : Semaphore Nat) (index : Nat)
    (job : Job) : PipelineConsumer Job :=
  { consumer with
    semaphore := semaphore
    tasks := consumer.tasks.set index ⟨job, .running⟩
    calls := consumer.calls ++ [.job index] }

/-- The handler of `_run_job`. -/
def handled : JobOutcome → List PipelineCall
  | .raised text => [.recordError s!"Queued job failed unexpectedly: {text}"]
  | _ => []

/-- From the end of a job to the end of its task. Whether or not `task_done` raises, the
semaphore is released. -/
def finish (consumer : PipelineConsumer Job) (index : Nat) (job : Job) (outcome : JobOutcome) :
    PipelineConsumer Job where
  queue := consumer.queue.taskDone.getD consumer.queue
  semaphore := consumer.semaphore.release
  tasks := consumer.tasks.set index ⟨job, .ended⟩
  calls := consumer.calls ++ handled outcome ++ [.taskDone index]

def step (consumer : PipelineConsumer Job) : PipelineEvent Job → Option (PipelineConsumer Job)
  | .enqueued job => some { consumer with queue := consumer.queue.putNowait job }
  | .dequeued =>
      match consumer.queue.getNowait with
      | none => none
      | some (job, queue) =>
          some { consumer with queue := queue, tasks := consumer.tasks ++ [⟨job, .scheduled⟩] }
  | .begun index =>
      match consumer.tasks[index]? with
      | some ⟨job, .scheduled⟩ =>
          match consumer.semaphore.tryAcquire with
          | some semaphore => some (consumer.callJob semaphore index job)
          | none =>
              some { consumer with
                semaphore := consumer.semaphore.wait index
                tasks := consumer.tasks.set index ⟨job, .waiting⟩ }
      | _ => none
  | .resumed index =>
      match consumer.tasks[index]? with
      | some ⟨job, .waiting⟩ =>
          (consumer.semaphore.resume index).map fun semaphore =>
            consumer.callJob semaphore index job
      | _ => none
  | .jobEnded index outcome =>
      match consumer.tasks[index]? with
      | some ⟨job, .running⟩ => some (consumer.finish index job outcome)
      | _ => none

end PipelineConsumer

/-- The job that an event puts into the queue. -/
def PipelineEvent.job {Job : Type u} : PipelineEvent Job → Option Job
  | .enqueued job => some job
  | _ => none

/-! ## The account -/

def JobPhase.isRunning : JobPhase → Bool
  | .running => true
  | _ => false

def JobPhase.isEnded : JobPhase → Bool
  | .ended => true
  | _ => false

def JobPhase.isWaiting : JobPhase → Bool
  | .waiting => true
  | _ => false

/-- The job was called. -/
def JobPhase.isStarted : JobPhase → Bool
  | .scheduled => false
  | .waiting => false
  | .running => true
  | .ended => true

namespace PipelineConsumer

variable {Job : Type u}

/-- The phase of a task has a property. A task that does not exist has none. -/
def phaseIs (consumer : PipelineConsumer Job) (index : Nat) (property : JobPhase → Bool) : Bool :=
  consumer.tasks[index]?.any fun task => property task.phase

/-- The number of jobs that run. -/
def running (consumer : PipelineConsumer Job) : Nat :=
  consumer.tasks.countP fun task => task.phase.isRunning

/-- The number of jobs that were dequeued and have not ended. -/
def unended (consumer : PipelineConsumer Job) : Nat :=
  consumer.tasks.countP fun task => !task.phase.isEnded

/-- All jobs that were put into the queue, in that order. -/
def jobs (consumer : PipelineConsumer Job) : List Job :=
  consumer.tasks.map JobTask.job ++ consumer.queue.items

/-- Nothing but a new job can make it move. -/
def Stuck (consumer : PipelineConsumer Job) : Prop :=
  ∀ event : PipelineEvent Job, event.job = none → consumer.step event = none

/-- Permits and unfinished jobs are accounted for, the waiters are the waiting tasks, and
each call was made once by the tasks that are past it. -/
structure Accounted (limit : Nat) (consumer : PipelineConsumer Job) : Prop where
  permits : consumer.semaphore.permits + consumer.running = limit
  unfinished : consumer.queue.unfinished = consumer.queue.items.length + consumer.unended
  distinct : consumer.semaphore.waiting.Nodup
  waiting : ∀ index, index ∈ consumer.semaphore.waiting ↔
    consumer.phaseIs index JobPhase.isWaiting = true
  awake : consumer.semaphore.Awake
  started : ∀ index, consumer.calls.count (.job index) =
    (consumer.phaseIs index JobPhase.isStarted).toNat
  done : ∀ index, consumer.calls.count (.taskDone index) =
    (consumer.phaseIs index JobPhase.isEnded).toNat

section Account

variable {limit : Nat} {consumer next : PipelineConsumer Job} {index : Nat}
  {old new : JobTask Job}

theorem phaseIs_eq_true {property : JobPhase → Bool} :
    consumer.phaseIs index property = true ↔
      ∃ task, consumer.tasks[index]? = some task ∧ property task.phase = true := by
  rw [phaseIs, Option.any_eq_true]

theorem phaseIs_of_set (found : consumer.tasks[index]? = some old)
    (moved : next.tasks = consumer.tasks.set index new) (property : JobPhase → Bool)
    (other : Nat) :
    next.phaseIs other property =
      if other = index then property new.phase else consumer.phaseIs other property := by
  obtain ⟨inside, -⟩ := List.getElem?_eq_some_iff.mp found
  unfold phaseIs
  rw [moved]
  split
  · rename_i same
    rw [same, List.getElem?_set_self inside, Option.any_some]
  · rename_i differs
    rw [List.getElem?_set_ne (Ne.symm differs)]

/-- A task that was only created is past nothing. -/
theorem phaseIs_of_created {job : Job}
    (created : next.tasks = consumer.tasks ++ [⟨job, .scheduled⟩]) {property : JobPhase → Bool}
    (notYet : property .scheduled = false) (other : Nat) :
    next.phaseIs other property = consumer.phaseIs other property := by
  unfold phaseIs
  rw [created]
  by_cases inside : other < consumer.tasks.length
  · rw [List.getElem?_append_left inside]
  · have beyond : consumer.tasks.length ≤ other := Nat.le_of_not_lt inside
    rw [List.getElem?_append_right beyond, List.getElem?_eq_none beyond, Option.any_none]
    cases isNew : [JobTask.mk job .scheduled][other - consumer.tasks.length]? with
    | none => rfl
    | some task =>
        have isCreated := List.mem_of_getElem? isNew
        rw [List.mem_singleton] at isCreated
        rw [isCreated, Option.any_some, notYet]

/-- What a task calls on its way from one phase to the next. -/
def Crosses (property : JobPhase → Bool) (call : Nat → PipelineCall) (made : List PipelineCall)
    (index : Nat) (old new : JobPhase) : Prop :=
  ∀ other, made.count (call other) + (if other = index then (property old).toNat else 0) =
    if other = index then (property new).toNat else 0

theorem Crosses.count {property : JobPhase → Bool} {call : Nat → PipelineCall}
    {made : List PipelineCall} (crosses : Crosses property call made index old.phase new.phase)
    (found : consumer.tasks[index]? = some old)
    (moved : next.tasks = consumer.tasks.set index new)
    (calls : next.calls = consumer.calls ++ made)
    (before : ∀ other, consumer.calls.count (call other) =
      (consumer.phaseIs other property).toNat) (other : Nat) :
    next.calls.count (call other) = (next.phaseIs other property).toNat := by
  have counted := before other
  have crossed := crosses other
  rw [calls, List.count_append, phaseIs_of_set found moved]
  by_cases same : other = index
  · have wasPhase : consumer.phaseIs other property = property old.phase := by
      rw [phaseIs, same, found, Option.any_some]
    rw [wasPhase] at counted
    simp only [same, if_true] at crossed counted ⊢
    omega
  · simp only [same, if_false] at crossed ⊢
    omega

/-- The semaphore stands for the running tasks and the waiting ones. -/
theorem Accounted.guards (accounted : consumer.Accounted limit) :
    consumer.semaphore.Guards limit consumer.running fun index =>
      consumer.phaseIs index JobPhase.isWaiting = true :=
  ⟨accounted.permits, accounted.distinct, accounted.waiting, accounted.awake⟩

theorem running_of_set (found : consumer.tasks[index]? = some old)
    (moved : next.tasks = consumer.tasks.set index new) :
    next.running + old.phase.isRunning.toNat = consumer.running + new.phase.isRunning.toNat := by
  rw [running, moved]
  exact countP_set_of_getElem? found new fun task => task.phase.isRunning

/-- A step of one task keeps the account when it changes every number by as much as its
phase does. -/
theorem Accounted.move (accounted : consumer.Accounted limit)
    (found : consumer.tasks[index]? = some old)
    (moved : next.tasks = consumer.tasks.set index new)
    (guards : next.semaphore.Guards limit next.running fun other =>
      if other = index then new.phase.isWaiting = true
      else consumer.phaseIs other JobPhase.isWaiting = true)
    (items : next.queue.items = consumer.queue.items)
    (unfinished : next.queue.unfinished + (!old.phase.isEnded).toNat =
      consumer.queue.unfinished + (!new.phase.isEnded).toNat)
    {made : List PipelineCall} (calls : next.calls = consumer.calls ++ made)
    (started : Crosses JobPhase.isStarted .job made index old.phase new.phase)
    (done : Crosses JobPhase.isEnded .taskDone made index old.phase new.phase) :
    next.Accounted limit where
  permits := guards.permits
  unfinished := by
    have counts := countP_set_of_getElem? found new fun task => !task.phase.isEnded
    have before := accounted.unfinished
    unfold unended at before ⊢
    rw [moved, items]
    omega
  distinct := guards.distinct
  waiting other := by
    rw [guards.waiting, phaseIs_of_set found moved]
    split <;> rfl
  awake := guards.awake
  started := started.count found moved calls accounted.started
  done := done.count found moved calls accounted.done

theorem Accounted.enqueued (accounted : consumer.Accounted limit) (job : Job) :
    Accounted limit { consumer with queue := consumer.queue.putNowait job } where
  permits := accounted.permits
  unfinished := by
    have before := accounted.unfinished
    simp only [AsyncQueue.putNowait_unfinished, AsyncQueue.putNowait_items, List.length_append,
      List.length_singleton]
    show consumer.queue.unfinished + 1 = consumer.queue.items.length + 1 + consumer.unended
    omega
  distinct := accounted.distinct
  waiting := accounted.waiting
  awake := accounted.awake
  started := accounted.started
  done := accounted.done

theorem Accounted.dequeued (accounted : consumer.Accounted limit) {job : Job} {rest : List Job}
    (items : consumer.queue.items = job :: rest) :
    Accounted limit { consumer with
      queue := ⟨rest, consumer.queue.unfinished⟩
      tasks := consumer.tasks ++ [⟨job, .scheduled⟩] } where
  permits := by
    have before := accounted.permits
    simpa [running, JobPhase.isRunning] using before
  unfinished := by
    have before := accounted.unfinished
    rw [items, List.length_cons] at before
    simp only [unended, List.countP_append, List.countP_singleton, JobPhase.isEnded,
      Bool.not_false, if_true] at before ⊢
    omega
  distinct := accounted.distinct
  waiting other := by
    rw [phaseIs_of_created rfl rfl]
    exact accounted.waiting other
  awake := accounted.awake
  started other := by
    rw [phaseIs_of_created rfl rfl]
    exact accounted.started other
  done other := by
    rw [phaseIs_of_created rfl rfl]
    exact accounted.done other

/-- A task that gets a permit calls its job. -/
theorem Accounted.callJob (accounted : consumer.Accounted limit) {job : Job}
    {semaphore : Semaphore Nat} (found : consumer.tasks[index]? = some old)
    (unstarted : old.phase.isStarted = false)
    (guards : semaphore.Guards limit (consumer.running + 1) fun other =>
      consumer.phaseIs other JobPhase.isWaiting = true ∧ other ≠ index) :
    (consumer.callJob semaphore index job).Accounted limit := by
  have others : old.phase.isRunning = false ∧ old.phase.isEnded = false := by
    cases phase : old.phase with
    | scheduled => exact ⟨rfl, rfl⟩
    | waiting => exact ⟨rfl, rfl⟩
    | running =>
        rw [phase] at unstarted
        cases unstarted
    | ended =>
        rw [phase] at unstarted
        cases unstarted
  have moved : (consumer.callJob semaphore index job).tasks =
      consumer.tasks.set index ⟨job, .running⟩ := rfl
  have runs : (consumer.callJob semaphore index job).running = consumer.running + 1 := by
    have counted := running_of_set found moved
    rw [others.1] at counted
    exact counted
  refine accounted.move found moved ?_ rfl ?_ rfl ?_ ?_
  · rw [runs]
    refine guards.congr fun other => ?_
    split
    · rename_i same
      simp [same, JobPhase.isWaiting]
    · rename_i differs
      simp [differs]
  · rw [others.2]
    rfl
  · intro other
    rw [unstarted]
    by_cases same : other = index
    · simp [same, JobPhase.isStarted]
    · simp [same, Ne.symm same]
  · intro other
    rw [others.2]
    simp [JobPhase.isEnded]

theorem Accounted.finish (accounted : consumer.Accounted limit) {job : Job}
    (found : consumer.tasks[index]? = some old) (running : old.phase = .running)
    (outcome : JobOutcome) : (consumer.finish index job outcome).Accounted limit := by
  have pending : 0 < consumer.queue.unfinished := by
    have counts : 0 < consumer.unended :=
      List.countP_pos_iff.mpr ⟨old, List.mem_of_getElem? found, by rw [running]; rfl⟩
    have before := accounted.unfinished
    omega
  have finished : consumer.queue.taskDone.getD consumer.queue =
      ⟨consumer.queue.items, consumer.queue.unfinished - 1⟩ := by
    rw [AsyncQueue.taskDone_of_pos pending, Option.getD_some]
  have noCalls : ∀ other, (handled outcome).count (.job other) = 0 ∧
      (handled outcome).count (.taskDone other) = 0 := by
    intro other
    cases outcome <;> simp [handled]
  have calls : (consumer.finish index job outcome).calls =
      consumer.calls ++ (handled outcome ++ [.taskDone index]) := List.append_assoc _ _ _
  have moved : (consumer.finish index job outcome).tasks =
      consumer.tasks.set index ⟨job, .ended⟩ := rfl
  have runs : (consumer.finish index job outcome).running + 1 = consumer.running := by
    have counted := running_of_set found moved
    rw [running] at counted
    exact counted
  refine accounted.move found moved ?_ ?_ ?_ calls ?_ ?_
  · have guards := accounted.guards
    rw [← runs] at guards
    refine guards.released.congr fun other => ?_
    split
    · rename_i same
      rw [same, phaseIs, found, Option.any_some, running]
      simp [JobPhase.isWaiting]
    · rfl
  · exact consumer.queue.taskDone_getD_items
  · rw [running, PipelineConsumer.finish, finished]
    show consumer.queue.unfinished - 1 + 1 = consumer.queue.unfinished + 0
    omega
  · intro other
    rw [List.count_append, (noCalls other).1, running]
    simp [JobPhase.isStarted]
  · intro other
    rw [List.count_append, (noCalls other).2, running]
    by_cases same : other = index
    · simp [same, JobPhase.isEnded]
    · simp [same, Ne.symm same]

/-! ## Runs -/

/-- The steps, each with what it found. -/
inductive Stepped (consumer : PipelineConsumer Job) :
    PipelineEvent Job → PipelineConsumer Job → Prop
  | enqueued (job : Job) :
      Stepped consumer (.enqueued job) { consumer with queue := consumer.queue.putNowait job }
  | dequeued {job : Job} {rest : List Job} (items : consumer.queue.items = job :: rest) :
      Stepped consumer .dequeued
        { consumer with
          queue := ⟨rest, consumer.queue.unfinished⟩
          tasks := consumer.tasks ++ [⟨job, .scheduled⟩] }
  | began {index : Nat} {job : Job} {semaphore : Semaphore Nat}
      (found : consumer.tasks[index]? = some ⟨job, .scheduled⟩)
      (acquired : consumer.semaphore.tryAcquire = some semaphore) :
      Stepped consumer (.begun index) (consumer.callJob semaphore index job)
  | waited {index : Nat} {job : Job} (found : consumer.tasks[index]? = some ⟨job, .scheduled⟩)
      (failed : consumer.semaphore.tryAcquire = none) :
      Stepped consumer (.begun index)
        { consumer with
          semaphore := consumer.semaphore.wait index
          tasks := consumer.tasks.set index ⟨job, .waiting⟩ }
  | resumed {index : Nat} {job : Job} {semaphore : Semaphore Nat}
      (found : consumer.tasks[index]? = some ⟨job, .waiting⟩)
      (acquired : consumer.semaphore.resume index = some semaphore) :
      Stepped consumer (.resumed index) (consumer.callJob semaphore index job)
  | ended {index : Nat} {job : Job} {outcome : JobOutcome}
      (found : consumer.tasks[index]? = some ⟨job, .running⟩) :
      Stepped consumer (.jobEnded index outcome) (consumer.finish index job outcome)

theorem stepped_of_step {event : PipelineEvent Job} (isStep : consumer.step event = some next) :
    consumer.Stepped event next := by
  cases event with
  | enqueued job =>
      cases isStep
      exact .enqueued job
  | dequeued =>
      simp only [step, AsyncQueue.getNowait] at isStep
      cases items : consumer.queue.items with
      | nil =>
          rw [items] at isStep
          cases isStep
      | cons job rest =>
          rw [items] at isStep
          cases isStep
          exact .dequeued items
  | begun index =>
      simp only [step] at isStep
      split at isStep
      · rename_i job found
        split at isStep
        · rename_i semaphore acquired
          cases isStep
          exact .began found acquired
        · rename_i failed
          cases isStep
          exact .waited found failed
      · cases isStep
  | resumed index =>
      simp only [step] at isStep
      split at isStep
      · rename_i job found
        obtain ⟨semaphore, acquired, rfl⟩ := Option.map_eq_some_iff.mp isStep
        exact .resumed found acquired
      · cases isStep
  | jobEnded index outcome =>
      simp only [step] at isStep
      split at isStep
      · rename_i job found
        cases isStep
        exact .ended found
      · cases isStep

theorem accounted_step (consumer : PipelineConsumer Job) (event : PipelineEvent Job)
    (next : PipelineConsumer Job) (accounted : consumer.Accounted limit)
    (isStep : consumer.step event = some next) : next.Accounted limit := by
  cases stepped_of_step isStep with
  | enqueued job => exact accounted.enqueued job
  | dequeued items => exact accounted.dequeued items
  | @began index job semaphore found acquired =>
      have notWaiting : ¬consumer.phaseIs index JobPhase.isWaiting = true := by
        rw [phaseIs, found, Option.any_some]
        exact Bool.false_ne_true
      have guards := accounted.guards.acquired acquired
      refine accounted.callJob found rfl (guards.congr fun other => ?_)
      exact ⟨And.left, fun waits => ⟨waits, fun same => notWaiting (same ▸ waits)⟩⟩
  | @waited index job found failed =>
      have notWaiting : ¬consumer.phaseIs index JobPhase.isWaiting = true := by
        rw [phaseIs, found, Option.any_some]
        exact Bool.false_ne_true
      have sameRunning : (consumer.tasks.set index ⟨job, .waiting⟩).countP
          (fun task => task.phase.isRunning) = consumer.running :=
        (countP_set_of_getElem? found ⟨job, .waiting⟩ fun task => task.phase.isRunning :)
      refine accounted.move found rfl ?_ rfl rfl (List.append_nil _).symm ?_ ?_
      · rw [running, sameRunning]
        refine (accounted.guards.waited failed notWaiting).congr fun other => ?_
        split
        · rename_i same
          simp [same, JobPhase.isWaiting]
        · rename_i differs
          simp [differs]
      · intro other
        simp [JobPhase.isStarted]
      · intro other
        simp [JobPhase.isEnded]
  | resumed found acquired =>
      exact accounted.callJob found rfl (accounted.guards.resumed acquired)
  | ended found => exact accounted.finish found rfl _

theorem accounted_initial (limit : Nat) :
    (initial limit : PipelineConsumer Job).Accounted limit where
  permits := rfl
  unfinished := rfl
  distinct := List.nodup_nil
  waiting index := by simp [initial, Semaphore.new, Semaphore.waiting, phaseIs]
  awake := by
    rintro - ⟨waiter, member, -⟩
    cases member
  started index := rfl
  done index := rfl

/-! ## Progress -/

/-- A task waits, when no woken task is left to run, only for the jobs that run. -/
theorem Accounted.running_of_waiting (accounted : consumer.Accounted limit) {task : JobTask Job}
    (member : task ∈ consumer.tasks) (waits : task.phase = .waiting)
    (asleep : ∀ index, consumer.step (.resumed index) = none) : consumer.running = limit := by
  obtain ⟨index, found⟩ := List.getElem?_of_mem member
  have isWaiting : consumer.phaseIs index JobPhase.isWaiting = true :=
    phaseIs_eq_true.mpr ⟨task, found, by rw [waits]; rfl⟩
  refine accounted.guards.running_of_waits isWaiting fun other otherWaits => ?_
  obtain ⟨⟨job, phase⟩, otherFound, inPhase⟩ := phaseIs_eq_true.mp otherWaits
  cases phase with
  | waiting =>
      have resumes := asleep other
      simpa only [step, otherFound, Option.map_eq_none_iff] using resumes
  | _ => cases inPhase

/-- With a permit to give, the consumer only stops when everything has ended. -/
theorem Accounted.drained (accounted : consumer.Accounted limit) (positive : 0 < limit)
    (stuck : consumer.Stuck) :
    consumer.queue.items = [] ∧ ∀ task ∈ consumer.tasks, task.phase = .ended := by
  have noneRunning : ∀ task ∈ consumer.tasks, task.phase ≠ .running := by
    rintro ⟨job, phase⟩ member rfl
    obtain ⟨index, found⟩ := List.getElem?_of_mem member
    have ends := stuck (.jobEnded index .returned) rfl
    simp [step, found] at ends
  have idle : consumer.running = 0 := by
    rw [running, List.countP_eq_zero]
    intro task member isRunning
    apply noneRunning task member
    cases phase : task.phase with
    | running => rfl
    | _ =>
        rw [phase] at isRunning
        cases isRunning
  constructor
  · cases items : consumer.queue.items with
    | nil => rfl
    | cons job rest =>
        have dequeues := stuck .dequeued rfl
        simp [step, AsyncQueue.getNowait, items] at dequeues
  · intro task member
    cases phase : task.phase with
    | scheduled =>
        obtain ⟨index, found⟩ := List.getElem?_of_mem member
        obtain ⟨job, taskPhase⟩ := task
        dsimp only at phase
        subst phase
        have begins := stuck (.begun index) rfl
        simp only [step, found] at begins
        split at begins <;> cases begins
    | waiting =>
        have busy := accounted.running_of_waiting member phase fun index => stuck _ rfl
        omega
    | running => exact absurd phase (noneRunning task member)
    | ended => rfl

/-- The segments still to come of the jobs so far: a queued job has four. -/
def work (consumer : PipelineConsumer Job) : Nat :=
  4 * consumer.queue.items.length +
    consumer.tasks.countP (fun task => decide (task.phase = .scheduled)) +
    consumer.tasks.countP (fun task => !task.phase.isStarted) + consumer.unended

/-- A step puts a new job into the queue, or brings the jobs that are there closer to their
end. It never loses one or changes their order. -/
def Advances (consumer : PipelineConsumer Job) (event : PipelineEvent Job) : Prop :=
  ∀ next, consumer.step event = some next →
    next.jobs = consumer.jobs ++ event.job.toList ∧
      (event.job = none → next.work < consumer.work)

theorem jobs_of_set {job : Job} (found : consumer.tasks[index]? = some old)
    (same : old.job = job) (phase : JobPhase) :
    (consumer.tasks.set index ⟨job, phase⟩).map JobTask.job = consumer.tasks.map JobTask.job := by
  obtain ⟨before, after, split, updated⟩ := exists_split_of_getElem? found ⟨job, phase⟩
  rw [updated, split]
  simp [same]

/-- A later phase of one task leaves less to do. -/
theorem work_of_set (found : consumer.tasks[index]? = some old)
    (moved : next.tasks = consumer.tasks.set index new)
    (items : next.queue.items = consumer.queue.items)
    (later : (decide (new.phase = .scheduled)).toNat + (!new.phase.isStarted).toNat +
        (!new.phase.isEnded).toNat <
      (decide (old.phase = .scheduled)).toNat + (!old.phase.isStarted).toNat +
        (!old.phase.isEnded).toNat) : next.work < consumer.work := by
  have scheduled := countP_set_of_getElem? found new fun task =>
    decide (task.phase = .scheduled)
  have started := countP_set_of_getElem? found new fun task => !task.phase.isStarted
  have ended := countP_set_of_getElem? found new fun task => !task.phase.isEnded
  unfold work unended
  rw [moved, items]
  omega

theorem advances (consumer : PipelineConsumer Job) (event : PipelineEvent Job) :
    consumer.Advances event := by
  intro next isStep
  cases stepped_of_step isStep with
  | enqueued job =>
      refine ⟨?_, fun isNone => by cases isNone⟩
      simp [jobs, PipelineEvent.job]
  | dequeued items =>
      constructor
      · simp [jobs, items, PipelineEvent.job]
      · intro _
        simp only [work, unended, items, List.countP_append, List.countP_singleton,
          List.length_cons, JobPhase.isStarted, JobPhase.isEnded]
        simp only [decide_true, if_true, Bool.not_false]
        omega
  | began found acquired =>
      constructor
      · rw [jobs, callJob, jobs_of_set found rfl]
        exact (List.append_nil _).symm
      · intro _
        exact work_of_set found rfl rfl (by simp [JobPhase.isStarted, JobPhase.isEnded])
  | waited found failed =>
      constructor
      · rw [jobs, jobs_of_set found rfl]
        exact (List.append_nil _).symm
      · intro _
        exact work_of_set found rfl rfl (by simp [JobPhase.isStarted, JobPhase.isEnded])
  | resumed found acquired =>
      constructor
      · rw [jobs, callJob, jobs_of_set found rfl]
        exact (List.append_nil _).symm
      · intro _
        exact work_of_set found rfl rfl (by simp [JobPhase.isStarted, JobPhase.isEnded])
  | ended found =>
      constructor
      · rw [jobs, finish, jobs_of_set found rfl, AsyncQueue.taskDone_getD_items]
        exact (List.append_nil _).symm
      · intro _
        exact work_of_set found rfl (AsyncQueue.taskDone_getD_items _)
          (by simp [JobPhase.isStarted, JobPhase.isEnded])

/-- At most `limit` jobs run. A dequeued job was called exactly once if its task is past that
point, and `task_done` was called for it exactly once if it has ended; so the queue counts
the queued jobs and the dequeued ones that have not ended. A task waits only while `limit`
jobs run or a woken task is to run, and the consumer only comes to rest when all jobs have
ended. -/
structure Sound (limit : Nat) (consumer : PipelineConsumer Job) : Prop where
  atMost : consumer.running ≤ limit
  started : ∀ index, consumer.calls.count (.job index) =
    (consumer.phaseIs index JobPhase.isStarted).toNat
  done : ∀ index, consumer.calls.count (.taskDone index) =
    (consumer.phaseIs index JobPhase.isEnded).toNat
  unfinished : consumer.queue.unfinished = consumer.queue.items.length + consumer.unended
  admitted : (∃ task ∈ consumer.tasks, task.phase = .waiting) →
    (∀ index, consumer.step (.resumed index) = none) → consumer.running = limit
  drained : 0 < limit → consumer.Stuck →
    consumer.queue.items = [] ∧ ∀ task ∈ consumer.tasks, task.phase = .ended

theorem Accounted.sound (accounted : consumer.Accounted limit) : consumer.Sound limit where
  atMost := by
    have permits := accounted.permits
    omega
  started := accounted.started
  done := accounted.done
  unfinished := accounted.unfinished
  admitted := fun ⟨_, member, waits⟩ asleep => accounted.running_of_waiting member waits asleep
  drained := accounted.drained

/-- **The consumer is sound.** In every interleaving of new jobs, of the tasks and of the ends
of jobs, every state is sound and every step advances. -/
theorem pipeline_sound (maxConcurrentPipelines : Nat) (events : List (PipelineEvent Job)) :
    StepSystem.Throughout step (Sound maxConcurrentPipelines) (initial maxConcurrentPipelines)
        events ∧
      StepSystem.Along step Advances (initial maxConcurrentPipelines) events := by
  have always : StepSystem.Along step (fun _ _ => True)
      (initial maxConcurrentPipelines : PipelineConsumer Job) events :=
    StepSystem.along_of_forall (fun _ _ => trivial) _ events
  have accounted := StepSystem.throughout_of_along
    (fun consumer event next accounted _ isStep =>
      accounted_step consumer event next accounted isStep)
    (accounted_initial maxConcurrentPipelines) always
  constructor
  · exact StepSystem.throughout_mono (fun _ accounted => accounted.sound) accounted
  · exact StepSystem.along_of_forall advances _ events

end Account

end PipelineConsumer

end QuAIA.Orchestrator
