import QuAIA.Common.Models

/-!
Contract: one agent instance (`AgentBase`) as far as its runs share it.

Owns: the attributes that every run of the instance writes, the segment that
starts a run, and the segment from the end of the language model's work to the
outcome of the run.

Does not own: the language model and its tools. What they return or raise is
arbitrary. The parts of an error message are given by its text.
-/

set_option autoImplicit false

namespace QuAIA.Common

structure Message where
  parts : List Part
deriving DecidableEq, Repr

/-- The attributes of the instance that hold data of its latest run. -/
structure AgentBase (Usage Trace : Type) where
  latestReceivedMessage : Option Message
  latestTokenUsage : Option Usage
  latestTrace : Option Trace
deriving DecidableEq, Repr

/-- What the code reads of an `AgentRunResult`: the usage computed from it, the
redacted trace built from it, and the answer made from its output. Each of
the three may raise. -/
structure AgentRunResult (Usage Trace : Type) where
  usage : Except String Usage
  trace : Except String Trace
  answer : Except String Message

/-- How `_get_agent_execution_result` ends. It returns `None` when no attempt is
configured. -/
abbrev ExecutionResult (Usage Trace : Type) :=
  Except String (Option (AgentRunResult Usage Trace))

/-- How `run` ends. A run that returns has captured its usage and its trace; they are
recorded here for statements, and no caller reads them. -/
inductive RunOutcome (Usage Trace : Type) where
  | returned (answer : Message) (tokenUsage : Usage) (trace : Trace)
  | agentRuntimeError (text : String)
  | exception (text : String)
  | cancelled
deriving DecidableEq, Repr

section Runs

variable {Usage Trace : Type}

def AgentBase.initial : AgentBase Usage Trace := ⟨none, none, none⟩

/-- `run` up to its first suspension. -/
def AgentBase.receive (agent : AgentBase Usage Trace) (receivedMessage : Message) :
    AgentBase Usage Trace :=
  { agent with latestReceivedMessage := some receivedMessage }

/-- The rest of `run`: both captures and the answer, without a suspension. -/
def AgentBase.finish (agent : AgentBase Usage Trace) :
    ExecutionResult Usage Trace → AgentBase Usage Trace × RunOutcome Usage Trace
  | .error text => (agent, .agentRuntimeError text)
  | .ok none => (agent, .agentRuntimeError "'NoneType' object has no attribute 'output'")
  | .ok (some result) =>
      match result.usage with
      | .error text => (agent, .agentRuntimeError text)
      | .ok usage =>
          let used := { agent with latestTokenUsage := some usage }
          match result.trace with
          | .error text => (used, .agentRuntimeError text)
          | .ok trace =>
              let traced := { used with latestTrace := some trace }
              match result.answer with
              | .error text => (traced, .agentRuntimeError text)
              | .ok answer => (traced, .returned answer usage trace)

/-- What a subclass makes of the outcome of the inherited `run`: it may replace the
answer, and raise while it does. -/
def RunOutcome.overridden (override : Option (Except String Message)) :
    RunOutcome Usage Trace → RunOutcome Usage Trace
  | .returned answer usage trace =>
      match override with
      | none => .returned answer usage trace
      | some (.ok replaced) => .returned replaced usage trace
      | some (.error text) => .exception text
  | outcome => outcome

/-- Whether the end of a run writes to the shared attributes. -/
def ExecutionResult.captures : ExecutionResult Usage Trace → Bool
  | .ok (some result) => result.usage.isOk
  | _ => false

theorem AgentBase.finish_of_not_captures {agent : AgentBase Usage Trace}
    {result : ExecutionResult Usage Trace} (silent : result.captures = false) :
    (agent.finish result).1 = agent := by
  cases result with
  | error text => rfl
  | ok result =>
      cases result with
      | none => rfl
      | some result =>
          cases isUsage : result.usage with
          | error text => simp only [AgentBase.finish, isUsage]
          | ok usage =>
              simp [ExecutionResult.captures, isUsage, Except.isOk, Except.toBool] at silent

/-- **A run that returns** has left its own usage and trace in the attributes. -/
theorem AgentBase.finish_returned {agent after : AgentBase Usage Trace}
    {result : ExecutionResult Usage Trace} {answer : Message} {usage : Usage} {trace : Trace}
    (finished : agent.finish result = (after, .returned answer usage trace)) :
    after.latestTokenUsage = some usage ∧ after.latestTrace = some trace := by
  cases result with
  | error text => cases finished
  | ok result =>
      cases result with
      | none => cases finished
      | some result =>
          unfold AgentBase.finish at finished
          dsimp only at finished
          split at finished
          · cases finished
          · split at finished
            · cases finished
            · split at finished
              · cases finished
              · cases finished
                exact ⟨rfl, rfl⟩

/-- A subclass replaces answers only. -/
theorem RunOutcome.of_overridden_returned {override : Option (Except String Message)}
    {outcome : RunOutcome Usage Trace} {answer : Message} {usage : Usage} {trace : Trace}
    (returned : outcome.overridden override = .returned answer usage trace) :
    ∃ inherited, outcome = .returned inherited usage trace := by
  cases outcome with
  | returned inherited ownUsage ownTrace =>
      unfold RunOutcome.overridden at returned
      cases override with
      | none =>
          cases returned
          exact ⟨_, rfl⟩
      | some replaced =>
          cases replaced with
          | error text => cases returned
          | ok replaced =>
              cases returned
              exact ⟨_, rfl⟩
  | _ => cases returned

end Runs

end QuAIA.Common
