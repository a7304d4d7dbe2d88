import QuAIA.Common.AgentExecutor
import QuAIA.Common.AgentLogCapture

/-!
Contract: one call of `execute` with its two flush loops, and the calls of `cancel` for
the same task.

Owns: the segments of the call, of the loops and of the cancel calls; what each of them
puts on which event queue, in the order of all of them; and the fate of every log entry.

Does not own: the agent and its attributes. How the run ends, and what the call then reads
as usage and trace, is arbitrary. A call of the updater that `execute` or `cancel` makes
itself takes effect; those of the loops may fail or be cancelled, before or after they take
effect.
-/

set_option autoImplicit false

namespace QuAIA.Common

/-! ## Events and loops -/

/-- A formatted log record, with its number for statements. -/
structure LogEntry where
  record : Nat
  line : String
deriving DecidableEq, Repr

/-- What the loop sends: a drain that returned something. -/
abbrev LogBatch := { batch : List LogEntry // batch ≠ [] }

/-- What an event queue receives of the task. A log chunk is given by its entries. -/
inductive TaskEvent (Usage Trace : Type) where
  | task
  | working (activity : Option String)
  | logs (artifactId : String) (batch : List LogEntry) (append lastChunk : Bool)
  | emission (emission : Emission Usage Trace)
deriving DecidableEq, Repr

/-- A flush loop waits, or is in a call of the updater that has taken effect or not. -/
inductive FlushLoop (Item : Type) where
  | waiting
  | sending (item : Item) (enqueued : Bool)
  | ended
deriving DecidableEq, Repr

/-- What happens to the call of a loop, or to a loop that waits. -/
inductive CallStep where
  | enqueued
  | returned
  | raised
  | cancelled
deriving DecidableEq, Repr

section Loops

variable {Item : Type}

/-- An exception is logged and the loop goes on; a cancellation ends it. Only loops that
are stopped are cancelled. -/
def FlushLoop.step (stopping : Bool) : FlushLoop Item → CallStep → Option (FlushLoop Item)
  | .sending item false, .enqueued => some (.sending item true)
  | .sending _ true, .returned => some .waiting
  | .sending _ _, .raised => some .waiting
  | .sending _ _, .cancelled => if stopping then some .ended else none
  | .waiting, .cancelled => if stopping then some .ended else none
  | _, _ => none

/-- What the call puts on the queue. -/
def FlushLoop.enqueues : FlushLoop Item → CallStep → Option Item
  | .sending item false, .enqueued => some item
  | _, _ => none

/-- What a call that has not taken effect takes with it. -/
def FlushLoop.drops : FlushLoop Item → CallStep → Option Item
  | .sending item false, .raised => some item
  | .sending item false, .cancelled => some item
  | _, _ => none

/-- The step by which a call that neither fails nor suspends goes on. -/
def FlushLoop.due : FlushLoop Item → Option CallStep
  | .sending _ false => some .enqueued
  | .sending _ true => some .returned
  | _ => none

theorem FlushLoop.ended_of_cancelled {loop next : FlushLoop Item} {stopping : Bool}
    (moved : loop.step stopping .cancelled = some next) : next = .ended := by
  cases loop with
  | ended => cases moved
  | waiting =>
      simp only [FlushLoop.step, Option.ite_none_right_eq_some, Option.some.injEq] at moved
      exact moved.2.symm
  | sending item enqueued =>
      cases enqueued with
      | false | true =>
          simp only [FlushLoop.step, Option.ite_none_right_eq_some, Option.some.injEq] at moved
          exact moved.2.symm

end Loops

/-! ## The call of `execute` -/

/-- How the run ended, and what was then read from the agent. -/
structure EndedRun (Usage Trace : Type) where
  outcome : RunOutcome Usage Trace
  tokenUsage : Option Usage
  trace : Option Trace
deriving DecidableEq, Repr

def EndedRun.emissions {Usage Trace : Type} (ended : EndedRun Usage Trace) :
    List (Emission Usage Trace) :=
  QuAIA.Common.emissions ended.outcome ended.tokenUsage ended.trace

/-- Where the call is suspended. -/
inductive TaskPhase (Usage Trace : Type) where
  | enqueuingTask
  | startingWork
  | awaitingRun (outcome : Option (RunOutcome Usage Trace))
  | gathering (ended : EndedRun Usage Trace)
  | sendingLastChunk (ended : EndedRun Usage Trace) (remaining : List LogEntry)
  | emitting (ended : EndedRun Usage Trace) (pending : List (Emission Usage Trace))
deriving DecidableEq, Repr

section Phases

variable {Usage Trace : Type}

/-- `task_id in self._active_runs`. -/
def TaskPhase.registered : TaskPhase Usage Trace → Bool
  | .awaitingRun _ => true
  | _ => false

/-- `activity_task.cancel()` and `logs_task.cancel()` have been called. -/
def TaskPhase.stopping : TaskPhase Usage Trace → Bool
  | .gathering _ => true
  | _ => false

/-- The loops run from the registration to the final drain. -/
def TaskPhase.ownsLoops : TaskPhase Usage Trace → Bool
  | .awaitingRun _ => true
  | .gathering _ => true
  | _ => false

def TaskPhase.beforeFinalDrain : TaskPhase Usage Trace → Bool
  | .sendingLastChunk _ _ => false
  | .emitting _ _ => false
  | _ => true

end Phases

/-- The call with its locals, the cancel calls that are about to emit, each with its
queue, and all events emitted for the task. `captured` and `lost` are for statements: the
entries captured before the final drain, and those a failed call of the loop took with
it. -/
structure TaskExecution (Usage Trace : Type) where
  receivedMessage : Option Message
  eventQueue : Nat
  logsArtifactId : String
  phase : TaskPhase Usage Trace
  logHandler : AgentLogCapture LogEntry
  handlerDetached : Bool
  sentAnyLogs : Bool
  activityLoop : FlushLoop String
  logsLoop : FlushLoop LogBatch
  cancelCalls : List Nat
  emitted : List (Nat × TaskEvent Usage Trace)
  captured : List LogEntry
  lost : List LogEntry

/-- The coroutine that goes on, or a log record. -/
inductive TaskStep (Usage Trace : Type) where
  | logged (line : String)
  | advanced
  | runEnded (outcome : RunOutcome Usage Trace)
  | resumed (tokenUsage : Option Usage) (trace : Option Trace)
  | gathered
  | reported (description : String)
  | woke
  | activityCall (call : CallStep)
  | logsCall (call : CallStep)
  | cancelCalled (queue : Nat)
  | cancelEmitted (queue : Nat)
deriving DecidableEq, Repr

def TaskStep.isLogged {Usage Trace : Type} : TaskStep Usage Trace → Bool
  | .logged _ => true
  | _ => false

namespace TaskExecution

variable {Usage Trace : Type}

/-- Up to the first suspension; without a message the call fails. -/
def start (eventQueue : Nat) (logsArtifactId : String) (receivedMessage : Option Message) :
    TaskExecution Usage Trace where
  receivedMessage := receivedMessage
  eventQueue := eventQueue
  logsArtifactId := logsArtifactId
  phase :=
    match receivedMessage with
    | some _ => .enqueuingTask
    | none =>
        let ended := ⟨.exception "No message found in the request message.", none, none⟩
        .emitting ended ended.emissions
  logHandler := .create 10000 (by decide)
  handlerDetached := false
  sentAnyLogs := false
  activityLoop := .ended
  logsLoop := .ended
  cancelCalls := []
  emitted := []
  captured := []
  lost := []

/-- The event is enqueued on the queue of the call. -/
def put (state : TaskExecution Usage Trace) (event : TaskEvent Usage Trace) :
    TaskExecution Usage Trace :=
  { state with emitted := state.emitted ++ [(state.eventQueue, event)] }

def putAny (state : TaskExecution Usage Trace) (event : Option (TaskEvent Usage Trace)) :
    TaskExecution Usage Trace :=
  match event with
  | some event => state.put event
  | none => state

/-- A record reaches the handler. -/
def capture (state : TaskExecution Usage Trace) (line : String) :
    TaskExecution Usage Trace :=
  let entry := ⟨state.logHandler.emittedTotal, line⟩
  { state with
    logHandler := state.logHandler.emit entry
    captured :=
      if state.phase.beforeFinalDrain then state.captured ++ [entry] else state.captured }

/-- A call that `execute` itself has made returns. -/
def advance (state : TaskExecution Usage Trace) : Option (TaskExecution Usage Trace) :=
  match state.phase with
  | .enqueuingTask => some { state.put .task with phase := .startingWork }
  | .startingWork =>
      some { state.put (.working none) with
        activityLoop := .waiting
        logsLoop := .waiting
        phase := .awaitingRun none }
  | .sendingLastChunk ended remaining =>
      some { state.put (.logs state.logsArtifactId remaining state.sentAnyLogs true) with
        handlerDetached := true
        phase := .emitting ended ended.emissions }
  | .emitting ended (emission :: pending) =>
      some { state.put (.emission emission) with
        handlerDetached := state.handlerDetached || pending.isEmpty
        phase := .emitting ended pending }
  | _ => none

/-- Both loops have ended: the final drain. -/
def finalDrain (state : TaskExecution Usage Trace) (ended : EndedRun Usage Trace) :
    TaskExecution Usage Trace :=
  let (remaining, logHandler) := state.logHandler.drain
  if !remaining.isEmpty || state.sentAnyLogs then
    { state with logHandler := logHandler, phase := .sendingLastChunk ended remaining }
  else
    { state with
      logHandler := logHandler
      handlerDetached := true
      phase := .emitting ended ended.emissions }

/-- The log loop wakes, drains and, if there is something, sends it. -/
def flushLogs (state : TaskExecution Usage Trace) : TaskExecution Usage Trace :=
  if drained : state.logHandler.pending = [] then
    { state with logHandler := state.logHandler.drain.2 }
  else
    { state with
      logHandler := state.logHandler.drain.2
      logsLoop := .sending ⟨state.logHandler.pending, drained⟩ false }

def step (state : TaskExecution Usage Trace) :
    TaskStep Usage Trace → Option (TaskExecution Usage Trace)
  | .logged line => if state.handlerDetached then none else some (state.capture line)
  | .advanced => state.advance
  | .runEnded outcome =>
      match state.phase with
      | .awaitingRun none => some { state with phase := .awaitingRun (some outcome) }
      | _ => none
  | .resumed tokenUsage trace =>
      match state.phase with
      | .awaitingRun (some outcome) =>
          some { state with phase := .gathering ⟨outcome, tokenUsage, trace⟩ }
      | _ => none
  | .gathered =>
      match state.phase, state.activityLoop, state.logsLoop with
      | .gathering ended, .ended, .ended => some (state.finalDrain ended)
      | _, _, _ => none
  | .reported description =>
      match state.activityLoop, state.phase.stopping with
      | .waiting, false => some { state with activityLoop := .sending description false }
      | _, _ => none
  | .woke =>
      match state.logsLoop, state.phase.stopping with
      | .waiting, false => some state.flushLogs
      | _, _ => none
  | .activityCall call =>
      (state.activityLoop.step state.phase.stopping call).map fun next =>
        { state.putAny ((state.activityLoop.enqueues call).map fun description =>
            .working (some description)) with
          activityLoop := next }
  | .logsCall call =>
      (state.logsLoop.step state.phase.stopping call).map fun next =>
        { state.putAny ((state.logsLoop.enqueues call).map fun batch =>
            .logs state.logsArtifactId batch.1 state.sentAnyLogs false) with
          logsLoop := next
          sentAnyLogs := if call = .returned then true else state.sentAnyLogs
          lost := state.lost ++ ((state.logsLoop.drops call).map Subtype.val).getD [] }
  | .cancelCalled queue =>
      -- With a registered run the call only requests its cancellation.
      if state.phase.registered then some state
      else some { state with cancelCalls := state.cancelCalls ++ [queue] }
  | .cancelEmitted queue =>
      if queue ∈ state.cancelCalls then
        some { state with
          cancelCalls := state.cancelCalls.erase queue
          emitted := state.emitted ++ [(queue, .emission .canceled)] }
      else none

/-- The segments, one constructor for each coroutine that goes on and each place where it
does. -/
inductive Stepped (state : TaskExecution Usage Trace) :
    TaskStep Usage Trace → TaskExecution Usage Trace → Prop
  | logged {line : String} (attached : state.handlerDetached = false) :
      Stepped state (.logged line) (state.capture line)
  | taskEnqueued (phase : state.phase = .enqueuingTask) :
      Stepped state .advanced { state.put .task with phase := .startingWork }
  | workStarted (phase : state.phase = .startingWork) :
      Stepped state .advanced { state.put (.working none) with
        activityLoop := .waiting
        logsLoop := .waiting
        phase := .awaitingRun none }
  | lastChunkSent {ended : EndedRun Usage Trace} {remaining : List LogEntry}
      (phase : state.phase = .sendingLastChunk ended remaining) :
      Stepped state .advanced
        { state.put (.logs state.logsArtifactId remaining state.sentAnyLogs true) with
          handlerDetached := true
          phase := .emitting ended ended.emissions }
  | emitted {ended : EndedRun Usage Trace} {emission : Emission Usage Trace}
      {pending : List (Emission Usage Trace)}
      (phase : state.phase = .emitting ended (emission :: pending)) :
      Stepped state .advanced { state.put (.emission emission) with
        handlerDetached := state.handlerDetached || pending.isEmpty
        phase := .emitting ended pending }
  | runEnded {outcome : RunOutcome Usage Trace} (phase : state.phase = .awaitingRun none) :
      Stepped state (.runEnded outcome) { state with phase := .awaitingRun (some outcome) }
  | resumed {outcome : RunOutcome Usage Trace} {tokenUsage : Option Usage}
      {trace : Option Trace} (phase : state.phase = .awaitingRun (some outcome)) :
      Stepped state (.resumed tokenUsage trace)
        { state with phase := .gathering ⟨outcome, tokenUsage, trace⟩ }
  | gathered {ended : EndedRun Usage Trace} (phase : state.phase = .gathering ended)
      (activityEnded : state.activityLoop = .ended) (logsEnded : state.logsLoop = .ended)
      (closes : state.logHandler.pending ≠ [] ∨ state.sentAnyLogs = true) :
      Stepped state .gathered { state with
        logHandler := state.logHandler.drain.2
        phase := .sendingLastChunk ended state.logHandler.pending }
  | gatheredSilent {ended : EndedRun Usage Trace} (phase : state.phase = .gathering ended)
      (activityEnded : state.activityLoop = .ended) (logsEnded : state.logsLoop = .ended)
      (nothing : state.logHandler.pending = []) (silent : state.sentAnyLogs = false) :
      Stepped state .gathered { state with
        logHandler := state.logHandler.drain.2
        handlerDetached := true
        phase := .emitting ended ended.emissions }
  | reported {description : String} (waits : state.activityLoop = .waiting)
      (runs : state.phase.stopping = false) :
      Stepped state (.reported description)
        { state with activityLoop := .sending description false }
  | woke (waits : state.logsLoop = .waiting) (runs : state.phase.stopping = false)
      (batch : LogBatch) (drained : state.logHandler.pending = batch.1) :
      Stepped state .woke { state with
        logHandler := state.logHandler.drain.2
        logsLoop := .sending batch false }
  | wokeSilent (waits : state.logsLoop = .waiting) (runs : state.phase.stopping = false)
      (nothing : state.logHandler.pending = []) :
      Stepped state .woke { state with logHandler := state.logHandler.drain.2 }
  | activityCall {call : CallStep} {next : FlushLoop String}
      (moved : state.activityLoop.step state.phase.stopping call = some next) :
      Stepped state (.activityCall call)
        { state.putAny ((state.activityLoop.enqueues call).map fun description =>
            .working (some description)) with
          activityLoop := next }
  | logsCall {call : CallStep} {next : FlushLoop LogBatch}
      (moved : state.logsLoop.step state.phase.stopping call = some next) :
      Stepped state (.logsCall call)
        { state.putAny ((state.logsLoop.enqueues call).map fun batch =>
            .logs state.logsArtifactId batch.1 state.sentAnyLogs false) with
          logsLoop := next
          sentAnyLogs := if call = .returned then true else state.sentAnyLogs
          lost := state.lost ++ ((state.logsLoop.drops call).map Subtype.val).getD [] }
  | cancelRequested {queue : Nat} (registered : state.phase.registered = true) :
      Stepped state (.cancelCalled queue) state
  | cancelUnregistered {queue : Nat} (unregistered : state.phase.registered = false) :
      Stepped state (.cancelCalled queue)
        { state with cancelCalls := state.cancelCalls ++ [queue] }
  | cancelEmitted {queue : Nat} (called : queue ∈ state.cancelCalls) :
      Stepped state (.cancelEmitted queue)
        { state with
          cancelCalls := state.cancelCalls.erase queue
          emitted := state.emitted ++ [(queue, .emission .canceled)] }

theorem stepped_of_advance {state next : TaskExecution Usage Trace}
    (advanced : state.advance = some next) : state.Stepped .advanced next := by
  unfold advance at advanced
  split at advanced
  · rename_i phase
    cases advanced
    exact .taskEnqueued phase
  · rename_i phase
    cases advanced
    exact .workStarted phase
  · rename_i phase
    cases advanced
    exact .lastChunkSent phase
  · rename_i phase
    cases advanced
    exact .emitted phase
  · cases advanced

theorem stepped_of_finalDrain {state : TaskExecution Usage Trace}
    {ended : EndedRun Usage Trace} (phase : state.phase = .gathering ended)
    (activityEnded : state.activityLoop = .ended) (logsEnded : state.logsLoop = .ended) :
    state.Stepped .gathered (state.finalDrain ended) := by
  by_cases closes : state.logHandler.pending ≠ [] ∨ state.sentAnyLogs = true
  · have sends : state.finalDrain ended = { state with
        logHandler := state.logHandler.drain.2
        phase := .sendingLastChunk ended state.logHandler.pending } := by
      apply if_pos
      rw [Bool.or_eq_true, Bool.not_eq_true', List.isEmpty_eq_false_iff]
      exact closes
    rw [sends]
    exact .gathered phase activityEnded logsEnded closes
  · rw [not_or, not_not, Bool.not_eq_true] at closes
    obtain ⟨nothing, silent⟩ := closes
    have skips : state.finalDrain ended = { state with
        logHandler := state.logHandler.drain.2
        handlerDetached := true
        phase := .emitting ended ended.emissions } := by
      apply if_neg
      rw [Bool.or_eq_true, Bool.not_eq_true', List.isEmpty_eq_false_iff, silent]
      rintro (remains | sent)
      · exact remains nothing
      · cases sent
    rw [skips]
    exact .gatheredSilent phase activityEnded logsEnded nothing silent

theorem stepped_of_flushLogs {state : TaskExecution Usage Trace}
    (waits : state.logsLoop = .waiting) (runs : state.phase.stopping = false) :
    state.Stepped .woke state.flushLogs := by
  unfold flushLogs
  split
  · rename_i nothing
    exact .wokeSilent waits runs nothing
  · exact .woke waits runs ⟨_, _⟩ rfl

/-- Every segment is one of the listed ones. -/
theorem stepped_of_step {state next : TaskExecution Usage Trace}
    {event : TaskStep Usage Trace} (step : state.step event = some next) :
    state.Stepped event next := by
  cases event with
  | logged line =>
      simp only [TaskExecution.step] at step
      split at step
      · cases step
      · rename_i attached
        cases step
        exact .logged (Bool.eq_false_iff.mpr attached)
  | advanced => exact stepped_of_advance step
  | runEnded outcome =>
      simp only [TaskExecution.step] at step
      split at step
      · rename_i phase
        cases step
        exact .runEnded phase
      · cases step
  | resumed tokenUsage trace =>
      simp only [TaskExecution.step] at step
      split at step
      · rename_i phase
        cases step
        exact .resumed phase
      · cases step
  | gathered =>
      simp only [TaskExecution.step] at step
      split at step
      · rename_i phase activityEnded logsEnded
        cases step
        exact stepped_of_finalDrain phase activityEnded logsEnded
      · cases step
  | reported description =>
      simp only [TaskExecution.step] at step
      split at step
      · rename_i waits runs
        cases step
        exact .reported waits runs
      · cases step
  | woke =>
      simp only [TaskExecution.step] at step
      split at step
      · rename_i waits runs
        cases step
        exact stepped_of_flushLogs waits runs
      · cases step
  | activityCall call =>
      obtain ⟨moved, isMoved, rfl⟩ := Option.map_eq_some_iff.mp step
      exact .activityCall isMoved
  | logsCall call =>
      obtain ⟨moved, isMoved, rfl⟩ := Option.map_eq_some_iff.mp step
      exact .logsCall isMoved
  | cancelCalled queue =>
      simp only [TaskExecution.step] at step
      split at step
      · rename_i registered
        cases step
        exact .cancelRequested registered
      · rename_i unregistered
        cases step
        exact .cancelUnregistered (Bool.eq_false_iff.mpr unregistered)
  | cancelEmitted queue =>
      simp only [TaskExecution.step] at step
      split at step
      · rename_i called
        cases step
        exact .cancelEmitted called
      · cases step

/-! ## Loops -/

@[simp] theorem putAny_none (state : TaskExecution Usage Trace) : state.putAny none = state :=
  rfl

@[simp] theorem putAny_some (state : TaskExecution Usage Trace)
    (event : TaskEvent Usage Trace) : state.putAny (some event) = state.put event := rfl

/-- Putting an event changes nothing else. -/
theorem putAny_eq (state : TaskExecution Usage Trace)
    (event : Option (TaskEvent Usage Trace)) :
    state.putAny event = { state with
      emitted := state.emitted ++ event.toList.map fun event => (state.eventQueue, event) } := by
  cases event with
  | none => simp
  | some event => rfl

/-- Where no loop should run, none does. -/
def LoopsOwned (state : TaskExecution Usage Trace) : Prop :=
  state.phase.ownsLoops = false → state.activityLoop = .ended ∧ state.logsLoop = .ended

theorem loopsOwned_start (eventQueue : Nat) (logsArtifactId : String)
    (receivedMessage : Option Message) :
    (start eventQueue logsArtifactId receivedMessage :
      TaskExecution Usage Trace).LoopsOwned := by
  intro _
  exact ⟨rfl, rfl⟩

theorem Stepped.loopsOwned {state next : TaskExecution Usage Trace}
    {event : TaskStep Usage Trace} (stepped : state.Stepped event next)
    (owned : state.LoopsOwned) : next.LoopsOwned := by
  cases stepped with
  | logged => exact owned
  | taskEnqueued phase =>
      intro _
      exact owned (by rw [phase]; rfl)
  | workStarted =>
      intro idle
      cases idle
  | lastChunkSent phase =>
      intro _
      exact owned (by rw [phase]; rfl)
  | emitted phase =>
      intro _
      exact owned (by rw [phase]; rfl)
  | runEnded =>
      intro idle
      cases idle
  | resumed =>
      intro idle
      cases idle
  | gathered _ activityEnded logsEnded =>
      intro _
      exact ⟨activityEnded, logsEnded⟩
  | gatheredSilent _ activityEnded logsEnded =>
      intro _
      exact ⟨activityEnded, logsEnded⟩
  | reported waits =>
      intro idle
      rw [(owned idle).1] at waits
      cases waits
  | woke waits =>
      intro idle
      rw [(owned idle).2] at waits
      cases waits
  | wokeSilent => exact owned
  | activityCall moved =>
      intro idle
      rw [putAny_eq] at idle
      rw [(owned idle).1] at moved
      cases moved
  | logsCall moved =>
      intro idle
      rw [putAny_eq] at idle
      rw [(owned idle).2] at moved
      cases moved
  | cancelRequested => exact owned
  | cancelUnregistered => exact owned
  | cancelEmitted => exact owned

/-- A log loop that has not ended runs before the final drain. -/
theorem LoopsOwned.of_logs {state : TaskExecution Usage Trace} (owned : state.LoopsOwned)
    (runs : state.logsLoop ≠ .ended) : state.phase.ownsLoops = true := by
  by_contra idle
  exact runs (owned (Bool.eq_false_iff.mpr idle)).2

theorem before_of_ownsLoops {phase : TaskPhase Usage Trace}
    (owns : phase.ownsLoops = true) : phase.beforeFinalDrain = true := by
  cases phase with
  | sendingLastChunk => cases owns
  | emitting => cases owns
  | _ => rfl

end TaskExecution

end QuAIA.Common
