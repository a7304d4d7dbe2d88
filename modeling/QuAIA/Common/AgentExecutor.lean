import QuAIA.Common.AgentBase
import QuAIA.Library.ListReplace
import QuAIA.Library.StepSystem

/-!
Contract: the concurrent executions of one `DefaultAgentExecutor`, which share one
agent instance.

Owns: the segments of an execution and of the run it awaits, what an execution
emits, and the condition under which every execution emits the usage and the
trace of its own run.

Does not own: the activity and log loops and the failures of the event queue.
The run is a task of its own: between its end and the segment that resumes the
execution, other coroutines may go on.
-/

set_option autoImplicit false

namespace QuAIA.Common

open QuAIA.Library

/-! ## Executions -/

/-- The task that runs the agent. -/
inductive RunPhase (Usage Trace : Type) where
  | scheduled
  | running
  | done (outcome : RunOutcome Usage Trace)
deriving DecidableEq, Repr

/-- What an execution puts on its event queue after its run, log chunks apart. -/
inductive Emission (Usage Trace : Type) where
  | executionResult (answer : Message)
  | executionError (text : String)
  | usage (tokenUsage : Usage)
  | trace (trace : Trace)
  | completed
  | failed (text : String)
  | canceled
deriving DecidableEq, Repr

/-- Where an execution is suspended: before its run exists, in the await of the run,
in the shutdown of its loops, or between two emissions. -/
inductive ExecutionPhase (Usage Trace : Type) where
  | starting (receivedMessage : Message)
  | awaitingRun (receivedMessage : Message) (run : RunPhase Usage Trace)
  | closing (outcome : RunOutcome Usage Trace) (tokenUsage : Option Usage)
      (trace : Option Trace)
  | emitting (outcome : RunOutcome Usage Trace) (emitted pending : List (Emission Usage Trace))
deriving DecidableEq, Repr

structure AgentExecutor (Usage Trace : Type) where
  agent : AgentBase Usage Trace
  executions : List (ExecutionPhase Usage Trace)
deriving DecidableEq, Repr

section Steps

variable {Usage Trace : Type}

def AgentExecutor.initial : AgentExecutor Usage Trace := ⟨AgentBase.initial, []⟩

/-- The emissions of an ended run, in source order. -/
def emissions (outcome : RunOutcome Usage Trace) (tokenUsage : Option Usage)
    (trace : Option Trace) : List (Emission Usage Trace) :=
  match outcome with
  | .returned answer _ _ =>
      .executionResult answer ::
        ((tokenUsage.map Emission.usage).toList ++ (trace.map Emission.trace).toList ++
          [.completed])
  | .agentRuntimeError text => [.executionError text, .failed text]
  | .exception text => [.failed ("An error occurred: " ++ text)]
  | .cancelled => [.canceled]

/-- Up to the first suspension: the attributes are reset, and without a message the
execution fails. -/
def executeTask (receivedMessage : Option Message) : ExecutionPhase Usage Trace :=
  match receivedMessage with
  | some receivedMessage => .starting receivedMessage
  | none =>
      let outcome := .exception "No message found in the request message."
      .emitting outcome [] (emissions outcome none none)

/-- A new call of `execute`, or the coroutine that goes on in one of the executions:
the execution itself, or the task of its run. -/
inductive ExecutorEvent (Usage Trace : Type) where
  | execute (receivedMessage : Option Message)
  | started (index : Nat)
  | runStarted (index : Nat) (failure : Option String)
  | runFinished (index : Nat) (result : ExecutionResult Usage Trace)
      (override : Option (Except String Message))
  | runCancelled (index : Nat)
  | resumed (index : Nat)
  | closed (index : Nat)
  | emitted (index : Nat)

/-- The phase of one execution after an event, with the agent instance. -/
def ExecutionPhase.step (agent : AgentBase Usage Trace) :
    ExecutionPhase Usage Trace → ExecutorEvent Usage Trace →
      Option (AgentBase Usage Trace × ExecutionPhase Usage Trace)
  | .starting receivedMessage, .started _ => some (agent, .awaitingRun receivedMessage .scheduled)
  | .awaitingRun receivedMessage .scheduled, .runStarted _ failure =>
      some (agent.receive receivedMessage, .awaitingRun receivedMessage
        (match failure with
          | none => .running
          | some text => .done (.exception text)))
  | .awaitingRun receivedMessage .running, .runFinished _ result override =>
      let finished := agent.finish result
      some (finished.1, .awaitingRun receivedMessage (.done (finished.2.overridden override)))
  | .awaitingRun receivedMessage .scheduled, .runCancelled _ =>
      some (agent, .awaitingRun receivedMessage (.done .cancelled))
  | .awaitingRun receivedMessage .running, .runCancelled _ =>
      some (agent, .awaitingRun receivedMessage (.done .cancelled))
  | .awaitingRun _ (.done outcome), .resumed _ =>
      -- The locals are read from the attributes only when the run returned.
      match outcome with
      | .returned _ _ _ => some (agent, .closing outcome agent.latestTokenUsage agent.latestTrace)
      | _ => some (agent, .closing outcome none none)
  | .closing outcome tokenUsage trace, .closed _ =>
      some (agent, .emitting outcome [] (emissions outcome tokenUsage trace))
  | .emitting outcome emitted (emission :: pending), .emitted _ =>
      some (agent, .emitting outcome (emitted ++ [emission]) pending)
  | _, _ => none

/-- The execution in which an event happens. -/
def ExecutorEvent.index : ExecutorEvent Usage Trace → Option Nat
  | .execute _ => none
  | .started index => some index
  | .runStarted index _ => some index
  | .runFinished index _ _ => some index
  | .runCancelled index => some index
  | .resumed index => some index
  | .closed index => some index
  | .emitted index => some index

def AgentExecutor.step (state : AgentExecutor Usage Trace) (event : ExecutorEvent Usage Trace) :
    Option (AgentExecutor Usage Trace) :=
  match event with
  | .execute receivedMessage =>
      some {
        agent := { state.agent with latestTokenUsage := none, latestTrace := none }
        executions := state.executions ++ [executeTask receivedMessage] }
  | event => do
      let index ← event.index
      let phase ← state.executions[index]?
      let (agent, next) ← phase.step state.agent event
      return ⟨agent, state.executions.set index next⟩

/-- The segments of one execution and of its run, one constructor for each way a
segment can go. -/
inductive ExecutionPhase.Stepped (agent : AgentBase Usage Trace) :
    ExecutionPhase Usage Trace → ExecutorEvent Usage Trace → AgentBase Usage Trace →
      ExecutionPhase Usage Trace → Prop
  | started {receivedMessage : Message} {index : Nat} :
      Stepped agent (.starting receivedMessage) (.started index) agent
        (.awaitingRun receivedMessage .scheduled)
  | runStarted {receivedMessage : Message} {index : Nat} :
      Stepped agent (.awaitingRun receivedMessage .scheduled) (.runStarted index none)
        (agent.receive receivedMessage) (.awaitingRun receivedMessage .running)
  | runFailed {receivedMessage : Message} {index : Nat} {text : String} :
      Stepped agent (.awaitingRun receivedMessage .scheduled) (.runStarted index (some text))
        (agent.receive receivedMessage) (.awaitingRun receivedMessage (.done (.exception text)))
  | runFinished {receivedMessage : Message} {index : Nat} {result : ExecutionResult Usage Trace}
      {override : Option (Except String Message)} :
      Stepped agent (.awaitingRun receivedMessage .running) (.runFinished index result override)
        (agent.finish result).1
        (.awaitingRun receivedMessage (.done ((agent.finish result).2.overridden override)))
  | runCancelled {receivedMessage : Message} {run : RunPhase Usage Trace} {index : Nat} :
      Stepped agent (.awaitingRun receivedMessage run) (.runCancelled index) agent
        (.awaitingRun receivedMessage (.done .cancelled))
  | resumed {receivedMessage answer : Message} {usage : Usage} {trace : Trace} {index : Nat} :
      Stepped agent (.awaitingRun receivedMessage (.done (.returned answer usage trace)))
        (.resumed index) agent
        (.closing (.returned answer usage trace) agent.latestTokenUsage agent.latestTrace)
  | resumedUnread {receivedMessage : Message} {outcome : RunOutcome Usage Trace} {index : Nat}
      (unreturned : ∀ answer usage trace, outcome ≠ .returned answer usage trace) :
      Stepped agent (.awaitingRun receivedMessage (.done outcome)) (.resumed index) agent
        (.closing outcome none none)
  | closed {outcome : RunOutcome Usage Trace} {tokenUsage : Option Usage}
      {trace : Option Trace} {index : Nat} :
      Stepped agent (.closing outcome tokenUsage trace) (.closed index) agent
        (.emitting outcome [] (emissions outcome tokenUsage trace))
  | emitted {outcome : RunOutcome Usage Trace} {emitted pending : List (Emission Usage Trace)}
      {emission : Emission Usage Trace} {index : Nat} :
      Stepped agent (.emitting outcome emitted (emission :: pending)) (.emitted index) agent
        (.emitting outcome (emitted ++ [emission]) pending)

/-- Every segment is one of the listed ones. -/
theorem ExecutionPhase.stepped_of_step {agent after : AgentBase Usage Trace}
    {phase moved : ExecutionPhase Usage Trace} {event : ExecutorEvent Usage Trace}
    (step : phase.step agent event = some (after, moved)) :
    phase.Stepped agent event after moved := by
  unfold ExecutionPhase.step at step
  split at step
  · cases step
    exact .started
  · rename_i receivedMessage _ failure
    cases step
    cases failure with
    | none => exact .runStarted
    | some text => exact .runFailed
  · cases step
    exact .runFinished
  · cases step
    exact .runCancelled
  · cases step
    exact .runCancelled
  · split at step
    · cases step
      exact .resumed
    · rename_i unreturned
      cases step
      exact .resumedUnread unreturned
  · cases step
    exact .closed
  · cases step
    exact .emitted
  · cases step

/-- Every step begins an execution or moves one of them. -/
theorem AgentExecutor.step_cases {state next : AgentExecutor Usage Trace}
    {event : ExecutorEvent Usage Trace} (step : state.step event = some next) :
    (∃ receivedMessage, event = .execute receivedMessage ∧
      next = {
        agent := { state.agent with latestTokenUsage := none, latestTrace := none }
        executions := state.executions ++ [executeTask receivedMessage] }) ∨
    ∃ index phase agent moved, state.executions[index]? = some phase ∧
      phase.Stepped state.agent event agent moved ∧
      next = ⟨agent, state.executions.set index moved⟩ := by
  cases event with
  | execute receivedMessage =>
      cases step
      exact Or.inl ⟨receivedMessage, rfl, rfl⟩
  | _ =>
      simp only [AgentExecutor.step, Option.bind_eq_bind, Option.bind_eq_some_iff, Prod.exists,
        Option.pure_def, Option.some.injEq] at step
      obtain ⟨index, -, phase, found, agent, moved, stepped, rfl⟩ := step
      exact Or.inr ⟨index, phase, agent, moved, found,
        ExecutionPhase.stepped_of_step stepped, rfl⟩

end Steps

/-! ## Isolation -/

section Isolation

variable {Usage Trace : Type}

/-- The usage and trace of a run that returned and whose execution has not yet gone
on. -/
def ExecutionPhase.captured : ExecutionPhase Usage Trace → Option (Usage × Trace)
  | .awaitingRun _ (.done (.returned _ usage trace)) => some (usage, trace)
  | _ => none

/-- An execution whose run returned emits the answer, the usage and the trace of this
run, and then its terminal status. -/
def ExecutionPhase.Isolated : ExecutionPhase Usage Trace → Prop
  | .closing (.returned _ usage trace) readUsage readTrace =>
      readUsage = some usage ∧ readTrace = some trace
  | .emitting (.returned answer usage trace) emitted pending =>
      emitted ++ pending = [.executionResult answer, .usage usage, .trace trace, .completed]
  | _ => True

def AgentExecutor.Isolated (state : AgentExecutor Usage Trace) : Prop :=
  ∀ execution ∈ state.executions, execution.Isolated

/-- The attributes hold what the given run captured. -/
def AgentBase.Holds (agent : AgentBase Usage Trace) (captured : Usage × Trace) : Prop :=
  agent.latestTokenUsage = some captured.1 ∧ agent.latestTrace = some captured.2

/-- The attributes hold what each run captured until its execution goes on. -/
def AgentExecutor.Held (state : AgentExecutor Usage Trace) : Prop :=
  ∀ execution ∈ state.executions, ∀ captured ∈ execution.captured, state.agent.Holds captured

/-- No execution begins, and no run captures, while the execution of a run that
returned has not yet gone on. -/
def AgentExecutor.KeepsCaptured (state : AgentExecutor Usage Trace) :
    ExecutorEvent Usage Trace → Prop
  | .execute _ => ∀ execution ∈ state.executions, execution.captured = none
  | .runFinished _ result _ =>
      result.captures = true → ∀ execution ∈ state.executions, execution.captured = none
  | _ => True

variable {agent after : AgentBase Usage Trace} {phase moved : ExecutionPhase Usage Trace}
  {event : ExecutorEvent Usage Trace}

/-- A segment of an execution changes the attributes only where its run captures. -/
theorem ExecutionPhase.Stepped.attributes (stepped : phase.Stepped agent event after moved) :
    (∀ captured, agent.Holds captured → after.Holds captured) ∨
      ∃ index result override, event = .runFinished index result override ∧
        result.captures = true := by
  cases stepped with
  | runFinished =>
      rename_i receivedMessage index result override
      by_cases captures : result.captures = true
      · exact Or.inr ⟨index, result, override, rfl, captures⟩
      · left
        intro captured holds
        have silent : result.captures = false := Bool.eq_false_iff.mpr captures
        rw [AgentBase.finish_of_not_captures silent]
        exact holds
  | _ => exact Or.inl fun _ holds => holds

/-- What a run captures is in the attributes when it ends. -/
theorem ExecutionPhase.Stepped.holds (stepped : phase.Stepped agent event after moved)
    {captured : Usage × Trace} (isCaptured : moved.captured = some captured) :
    after.Holds captured := by
  cases stepped with
  | runFinished =>
      rename_i receivedMessage index result override
      cases ended : (agent.finish result).2.overridden override with
      | returned answer usage trace =>
          rw [ended] at isCaptured
          obtain rfl := Option.some.inj isCaptured
          obtain ⟨inherited, isReturned⟩ := RunOutcome.of_overridden_returned ended
          exact AgentBase.finish_returned (Prod.ext rfl isReturned)
      | _ =>
          rw [ended] at isCaptured
          cases isCaptured
  | _ => cases isCaptured

/-- An execution that goes on with the values of its own run stays isolated. -/
theorem ExecutionPhase.Stepped.isolated (stepped : phase.Stepped agent event after moved)
    (held : ∀ captured ∈ phase.captured, agent.Holds captured) (isolated : phase.Isolated) :
    moved.Isolated := by
  cases stepped with
  | resumed =>
      rename_i receivedMessage answer usage trace index
      exact held (usage, trace) rfl
  | resumedUnread unreturned =>
      rename_i receivedMessage outcome index
      cases outcome with
      | returned answer usage trace => exact absurd rfl (unreturned answer usage trace)
      | _ => trivial
  | closed =>
      rename_i outcome tokenUsage trace index
      cases outcome with
      | returned answer usage ownTrace =>
          obtain ⟨rfl, rfl⟩ := isolated
          rfl
      | _ => trivial
  | emitted =>
      rename_i outcome emitted pending emission index
      cases outcome with
      | returned answer usage trace =>
          show (emitted ++ [emission]) ++ pending = _
          rw [List.append_assoc]
          exact isolated
      | _ => trivial
  | _ => trivial

theorem executeTask_captured (receivedMessage : Option Message) :
    (executeTask receivedMessage : ExecutionPhase Usage Trace).captured = none := by
  cases receivedMessage <;> rfl

theorem executeTask_isolated (receivedMessage : Option Message) :
    (executeTask receivedMessage : ExecutionPhase Usage Trace).Isolated := by
  cases receivedMessage <;> trivial

theorem AgentExecutor.isolated_initial :
    (AgentExecutor.initial : AgentExecutor Usage Trace).Isolated ∧
      (AgentExecutor.initial : AgentExecutor Usage Trace).Held :=
  ⟨nofun, nofun⟩

/-- **Step lemma.** A step that disturbs no captured values keeps every execution
isolated. -/
theorem AgentExecutor.isolated_step (state : AgentExecutor Usage Trace)
    (event : ExecutorEvent Usage Trace) (next : AgentExecutor Usage Trace)
    (invariant : state.Isolated ∧ state.Held) (keeps : state.KeepsCaptured event)
    (step : state.step event = some next) : next.Isolated ∧ next.Held := by
  obtain ⟨isolated, held⟩ := invariant
  rcases AgentExecutor.step_cases step with
    ⟨receivedMessage, rfl, rfl⟩ | ⟨index, phase, agent, moved, found, stepped, rfl⟩
  · constructor
    · exact forall_mem_concat isolated (executeTask_isolated receivedMessage)
    · have nothing : ∀ execution ∈ state.executions ++ [executeTask receivedMessage],
          execution.captured = none :=
        forall_mem_concat keeps (executeTask_captured receivedMessage)
      intro execution member captured isCaptured
      rw [nothing execution member] at isCaptured
      cases isCaptured
  · have member := List.mem_of_getElem? found
    constructor
    · exact forall_mem_set isolated
        (stepped.isolated (held phase member) (isolated phase member))
    · intro execution inNext captured isCaptured
      rcases List.mem_or_eq_of_mem_set inNext with earlier | rfl
      · rcases stepped.attributes with
          kept | ⟨index, result, override, rfl, captures⟩
        · exact kept captured (held execution earlier captured isCaptured)
        · rw [keeps captures execution earlier] at isCaptured
          cases isCaptured
      · exact stepped.holds isCaptured

/-- **Isolation of runs.** In every run in which no step disturbs the captured
values of another execution, every execution emits the usage and the trace of its
own run. -/
theorem executions_isolated {events : List (ExecutorEvent Usage Trace)}
    (along : StepSystem.Along AgentExecutor.step AgentExecutor.KeepsCaptured
      AgentExecutor.initial events) :
    StepSystem.Throughout AgentExecutor.step AgentExecutor.Isolated AgentExecutor.initial
      events := by
  apply StepSystem.throughout_mono (fun _ invariant => And.left invariant)
  exact StepSystem.throughout_of_along AgentExecutor.isolated_step
    AgentExecutor.isolated_initial along

instance (state : AgentExecutor Usage Trace) : DecidablePred state.KeepsCaptured
  | .execute _ =>
      inferInstanceAs (Decidable (∀ execution ∈ state.executions, execution.captured = none))
  | .runFinished _ result _ =>
      inferInstanceAs (Decidable (result.captures = true →
        ∀ execution ∈ state.executions, execution.captured = none))
  | .started _ => instDecidableTrue
  | .runStarted _ _ => instDecidableTrue
  | .runCancelled _ => instDecidableTrue
  | .resumed _ => instDecidableTrue
  | .closed _ => instDecidableTrue
  | .emitted _ => instDecidableTrue

end Isolation

/-! ### Two executions -/

/-- An execution up to the end of its run, which captures the given usage and
trace. -/
def runReturns (index usage : Nat) (trace : String) : List (ExecutorEvent Nat String) :=
  [.started index, .runStarted index none,
    .runFinished index (.ok (some ⟨.ok usage, .ok trace, .ok ⟨[]⟩⟩)) none]

/-- The rest of an execution, until it has emitted the given number of events. -/
def executionEnds (index emissions : Nat) : List (ExecutorEvent Nat String) :=
  .resumed index :: .closed index :: List.replicate emissions (.emitted index)

/-- Another execution begins after a run has returned and before its own execution goes
on: the usage and the trace of the run are missing. -/
theorem execution_loses_usage :
    ∃ final ∈ StepSystem.run AgentExecutor.step AgentExecutor.initial
        ([.execute (some ⟨[]⟩)] ++ runReturns 0 17 "trace" ++ [.execute (some ⟨[]⟩)] ++
          executionEnds 0 2),
      final.executions[0]? = some (.emitting (.returned ⟨[]⟩ 17 "trace")
        [.executionResult ⟨[]⟩, .completed] []) ∧
      ¬final.Isolated := by
  have ends : ∃ final ∈ StepSystem.run AgentExecutor.step AgentExecutor.initial
        ([.execute (some ⟨[]⟩)] ++ runReturns 0 17 "trace" ++ [.execute (some ⟨[]⟩)] ++
          executionEnds 0 2),
      final.executions[0]? = some (.emitting (.returned ⟨[]⟩ 17 "trace")
        [.executionResult ⟨[]⟩, .completed] []) := by
    decide
  obtain ⟨final, ran, emitted⟩ := ends
  refine ⟨final, ran, emitted, ?_⟩
  intro isolated
  have complete := isolated _ (List.mem_of_getElem? emitted)
  simp [ExecutionPhase.Isolated] at complete

/-- Two executions that overlap, but not between the end of a run and its read. -/
theorem executions_isolated_overlapping :
    StepSystem.Throughout AgentExecutor.step AgentExecutor.Isolated AgentExecutor.initial
      ([.execute (some ⟨[]⟩), .execute (some ⟨[]⟩)] ++ runReturns 0 17 "first" ++
        executionEnds 0 4 ++ runReturns 1 23 "second" ++ executionEnds 1 4) :=
  executions_isolated (by decide)

end QuAIA.Common
