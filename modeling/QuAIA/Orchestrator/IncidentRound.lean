import QuAIA.Library.ListReplace
import QuAIA.Library.StepSystem
import QuAIA.Orchestrator.SingleTest
import QuAIA.Services.ZephyrClient

/-!
Contract: the incidents that are requested for the failed tests of an execution
(`_request_incident_creation_for_failed_tests`).

Owns: the message of a request and the reading of its answer; the tasks that are gathered, one for
each failed result, which run next to each other and write into their results; and that, in every
order of the answers, each failed result is reported once and gets the incident of its own answer.

Does not own: how a message is sent, whose outcome is an argument of a step; and the JSON of the
records, which is a parameter.
-/

set_option autoImplicit false

namespace QuAIA.Orchestrator

open QuAIA.Common
open QuAIA.Library
open QuAIA.Services (IncidentCreationResult)

/-! ## One request -/

structure IncidentCreationInput where
  testCase : TestCase
  testExecutionResult : String
  testStepResults : List TestStepResult
  systemDescription : String
  issuePriorityFieldId : String

/-- `model_dump_json` of an input, and `model_validate_json` of the two models of an answer. -/
structure IncidentCodec where
  modelDumpJson : IncidentCreationInput → String
  agentExecutionError : String → Option String
  incidentCreationResult : String → Except PyError IncidentCreationResult

/-- A `TestExecutionResult` with its `incident_creation_result`, which the extracting model can
have filled. -/
structure ReportedResult where
  result : TestExecutionResult
  incidentCreationResult : Option IncidentCreationResult

def ReportedResult.isFailed (reported : ReportedResult) : Bool :=
  match reported.result.testExecutionStatus with
  | .passed => false
  | .failed => true
  | .error => true

/-- The constructor call: pydantic rejects a missing test case and a missing description. -/
def IncidentCreationInput.new (issuePriorityFieldId : String) (result : TestExecutionResult) :
    Except PyError IncidentCreationInput :=
  match result.testCase, result.systemDescription with
  | none, _ => .error (.validationError "IncidentCreationInput" "test_case")
  | some _, none => .error (.validationError "IncidentCreationInput" "system_description")
  | some testCase, some systemDescription => .ok
      { testCase := testCase
        testExecutionResult := result.generalErrorMessage
        testStepResults := result.stepResults
        systemDescription := systemDescription
        issuePriorityFieldId := issuePriorityFieldId }

section Request

variable (codec : IncidentCodec)

/-- The input as text, and all artifacts as files. -/
def incidentMessage (input : IncidentCreationInput) (artifacts : List FileArtifact) : List Part :=
  ⟨.text (codec.modelDumpJson input), "", ""⟩ ::
    artifacts.map fun artifact => ⟨.raw artifact.raw, artifact.mediaType, artifact.name⟩

/-- `_get_model_from_artifacts` for an incident: the text of an agent's error, or the model. -/
def getModelFromArtifacts (artifacts : List Artifact) (taskDescription : String) :
    Except PyError (String ⊕ IncidentCreationResult) := do
  let texts ← getTextContentFromArtifacts artifacts taskDescription
  match texts with
  | [text] =>
      match codec.agentExecutionError text with
      | some errorMessage => return .inl errorMessage
      | none =>
          match codec.incidentCreationResult text with
          | .ok result => return .inr result
          | .error error =>
              let truncated :=
                (String.ofList (text.toList.take 500)) ++ if text.length > 500 then "..." else ""
              .error (.httpException 500
                (s!"Failed to parse agent response for task '{taskDescription}' as " ++
                  s!"IncidentCreationResult. Content was: {truncated}. Error: {error.str}"))
  | _ =>
      .error (.httpException 500
        (s!"Expected exactly one text artifact for model parsing in task '{taskDescription}', " ++
          s!"but received {texts.length}."))

/-- `_request_incident_creation` after its message was sent. -/
def receivedIncident (testCase : TestCase) (sent : Except PyError (Option Task)) :
    Except PyError (Option IncidentCreationResult) := do
  let taskDescription := s!"Incident creation for test case {formatOptional testCase.key}"
  let completedTask ← sent
  let artifacts ← getArtifactsFromTask completedTask taskDescription
  match ← getModelFromArtifacts codec artifacts taskDescription with
  | .inl _ => return none
  | .inr result => return some result

end Request

/-! ## All requests -/

/-- Where `_create_incident_for_result` is for one result, which has a task only if it failed. -/
inductive IncidentPhase where
  | noTask
  | created
  | sending (testCase : TestCase)
  | over
deriving DecidableEq

structure IncidentSlot where
  reported : ReportedResult
  phase : IncidentPhase

/-- The results in their order, each with its task. -/
abbrev IncidentRound := List IncidentSlot

inductive IncidentEvent where
  | begin (position : Nat)
  | sent (position : Nat) (outcome : Except PyError (Option Task))

namespace IncidentRound

def start (allExecutionResults : List ReportedResult) : IncidentRound :=
  allExecutionResults.map fun reported =>
    ⟨reported, if reported.isFailed then .created else .noTask⟩

section Steps

variable (codec : IncidentCodec) (issuePriorityFieldId : String)

/-- An exception leaves the result as it is. -/
def step (round : IncidentRound) : IncidentEvent → Option IncidentRound
  | .begin position =>
      match round[position]? with
      | some ⟨reported, .created⟩ =>
          let phase :=
            match IncidentCreationInput.new issuePriorityFieldId reported.result with
            | .ok input => IncidentPhase.sending input.testCase
            | .error _ => .over
          some (round.set position ⟨reported, phase⟩)
      | _ => none
  | .sent position outcome =>
      match round[position]? with
      | some ⟨reported, .sending testCase⟩ =>
          let after :=
            match receivedIncident codec testCase outcome with
            | .ok incident => { reported with incidentCreationResult := incident }
            | .error _ => reported
          some (round.set position ⟨after, .over⟩)
      | _ => none

end Steps

/-- `asyncio.gather` has returned. -/
def finished (round : IncidentRound) : Bool :=
  round.all fun slot => slot.phase = .noTask ∨ slot.phase = .over

end IncidentRound

/-! ## What was sent and answered -/

/-- The messages that were sent and the outcomes that came back, each with the position of its
result. -/
structure IncidentLedger where
  messages : List (Nat × List Part)
  outcomes : List (Nat × Except PyError (Option Task))

namespace IncidentLedger

def empty : IncidentLedger := ⟨[], []⟩

def send (ledger : IncidentLedger) (position : Nat) (message : List Part) : IncidentLedger :=
  { ledger with messages := ledger.messages ++ [(position, message)] }

def receive (ledger : IncidentLedger) (position : Nat) (outcome : Except PyError (Option Task)) :
    IncidentLedger :=
  { ledger with outcomes := ledger.outcomes ++ [(position, outcome)] }

def messagesOf (ledger : IncidentLedger) (position : Nat) : List (List Part) :=
  (ledger.messages.filter fun entry => entry.1 = position).map Prod.snd

def outcomesOf (ledger : IncidentLedger) (position : Nat) :
    List (Except PyError (Option Task)) :=
  (ledger.outcomes.filter fun entry => entry.1 = position).map Prod.snd

theorem messagesOf_send (ledger : IncidentLedger) (position other : Nat) (message : List Part) :
    (ledger.send position message).messagesOf other =
      ledger.messagesOf other ++ if other = position then [message] else [] := by
  rw [send, messagesOf, List.filter_append, List.map_append]
  by_cases same : other = position
  · simp [messagesOf, same]
  · simp [messagesOf, same, Ne.symm same]

theorem outcomesOf_receive (ledger : IncidentLedger) (position other : Nat)
    (outcome : Except PyError (Option Task)) :
    (ledger.receive position outcome).outcomesOf other =
      ledger.outcomesOf other ++ if other = position then [outcome] else [] := by
  rw [receive, outcomesOf, List.filter_append, List.map_append]
  by_cases same : other = position
  · simp [outcomesOf, same]
  · simp [outcomesOf, same, Ne.symm same]

end IncidentLedger

section Account

variable (codec : IncidentCodec) (issuePriorityFieldId : String)

/-- The message for a result: only a failed one that an input can be built of has one. -/
def messageFor (reported : ReportedResult) : Option (List Part) :=
  if reported.isFailed then
    match IncidentCreationInput.new issuePriorityFieldId reported.result with
    | .ok input => some (incidentMessage codec input (reported.result.artifacts.getD []))
    | .error _ => none
  else none

/-- A begun task sends its message, and a resumed one has its outcome. -/
def recordIncident (round : IncidentRound) (event : IncidentEvent) (_ : IncidentRound)
    (ledger : IncidentLedger) : IncidentLedger :=
  match event with
  | .begin position =>
      match round[position]?.bind fun slot =>
          messageFor codec issuePriorityFieldId slot.reported with
      | some message => ledger.send position message
      | none => ledger
  | .sent position outcome => ledger.receive position outcome

def recordedIncidentStep : IncidentRound × IncidentLedger → IncidentEvent →
    Option (IncidentRound × IncidentLedger) :=
  StepSystem.observed (IncidentRound.step codec issuePriorityFieldId)
    (recordIncident codec issuePriorityFieldId)

/-- A result after the outcomes of its requests. -/
def attached (reported : ReportedResult) : List (Except PyError (Option Task)) → ReportedResult
  | [outcome] =>
      match reported.result.testCase with
      | some testCase =>
          match receivedIncident codec testCase outcome with
          | .ok incident => { reported with incidentCreationResult := incident }
          | .error _ => reported
      | none => reported
  | _ => reported

/-- What one slot says about the messages and outcomes of its result. -/
def IncidentSlot.Follows (slot : IncidentSlot) (reported : ReportedResult)
    (messages : List (List Part)) (outcomes : List (Except PyError (Option Task))) : Prop :=
  match slot.phase with
  | .noTask =>
      slot.reported = reported ∧ reported.isFailed = false ∧ messages = [] ∧ outcomes = []
  | .created =>
      slot.reported = reported ∧ reported.isFailed = true ∧ messages = [] ∧ outcomes = []
  | .sending testCase =>
      slot.reported = reported ∧ reported.result.testCase = some testCase ∧
        (messageFor codec issuePriorityFieldId reported).toList = messages ∧
        messages.length = 1 ∧ outcomes = []
  | .over =>
      (messageFor codec issuePriorityFieldId reported).toList = messages ∧
        outcomes.length = messages.length ∧ slot.reported = attached codec reported outcomes

/-- Every slot says so. -/
def IncidentsAccounted (allExecutionResults : List ReportedResult)
    (state : IncidentRound × IncidentLedger) : Prop :=
  state.1.length = allExecutionResults.length ∧
    ∀ position reported, allExecutionResults[position]? = some reported →
      ∃ slot : IncidentSlot, state.1[position]? = some slot ∧
        slot.Follows codec issuePriorityFieldId reported (state.2.messagesOf position)
          (state.2.outcomesOf position)

end Account

/-! ## The tasks keep the account -/

section Runs

variable {codec : IncidentCodec} {issuePriorityFieldId : String}
  {allExecutionResults : List ReportedResult}

theorem incidentsAccounted_start (allExecutionResults : List ReportedResult) :
    IncidentsAccounted codec issuePriorityFieldId allExecutionResults
      (.start allExecutionResults, .empty) := by
  refine ⟨List.length_map _, ?_⟩
  intro position reported found
  refine ⟨⟨reported, if reported.isFailed then .created else .noTask⟩, ?_, ?_⟩
  · rw [IncidentRound.start, List.getElem?_map, found]
    rfl
  · cases failed : reported.isFailed with
    | true => exact ⟨rfl, failed, rfl, rfl⟩
    | false => exact ⟨rfl, failed, rfl, rfl⟩

/-- An input is built of a result that has a test case. -/
theorem testCase_of_new {result : TestExecutionResult} {input : IncidentCreationInput}
    (built : IncidentCreationInput.new issuePriorityFieldId result = .ok input) :
    result.testCase = some input.testCase := by
  unfold IncidentCreationInput.new at built
  split at built
  · cases built
  · cases built
  · rename_i testCase systemDescription isCase isDescription
    cases built
    exact isCase

/-- A step moves one slot, and records under its position only. -/
theorem IncidentsAccounted.move {state next : IncidentRound × IncidentLedger} {position : Nat}
    {before after : IncidentSlot}
    (accounted : IncidentsAccounted codec issuePriorityFieldId allExecutionResults state)
    (found : state.1[position]? = some before) (moved : next.1 = state.1.set position after)
    (others : ∀ other ≠ position, next.2.messagesOf other = state.2.messagesOf other ∧
      next.2.outcomesOf other = state.2.outcomesOf other)
    (follows : ∀ reported, before.Follows codec issuePriorityFieldId reported
        (state.2.messagesOf position) (state.2.outcomesOf position) →
      after.Follows codec issuePriorityFieldId reported (next.2.messagesOf position)
        (next.2.outcomesOf position)) :
    IncidentsAccounted codec issuePriorityFieldId allExecutionResults next := by
  obtain ⟨sameLength, every⟩ := accounted
  refine ⟨by rw [moved, List.length_set, sameLength], ?_⟩
  intro other reported isResult
  obtain ⟨slot, isSlot, slotFollows⟩ := every other reported isResult
  rw [moved]
  by_cases same : other = position
  · subst same
    obtain ⟨inside, -⟩ := List.getElem?_eq_some_iff.mp found
    rw [found, Option.some.injEq] at isSlot
    exact ⟨after, List.getElem?_set_self inside, follows reported (isSlot ▸ slotFollows)⟩
  · obtain ⟨messages, outcomes⟩ := others other same
    rw [List.getElem?_set_ne (Ne.symm same), messages, outcomes]
    exact ⟨slot, isSlot, slotFollows⟩

/-- A task that begins sends the message of its result, if it has one. -/
theorem messagesOf_begin {round next : IncidentRound} {ledger : IncidentLedger} {position : Nat}
    {slot : IncidentSlot} (found : round[position]? = some slot) (other : Nat) :
    (recordIncident codec issuePriorityFieldId round (.begin position) next ledger).messagesOf
        other =
      ledger.messagesOf other ++
        if other = position then (messageFor codec issuePriorityFieldId slot.reported).toList
        else [] := by
  simp only [recordIncident, found, Option.bind_some]
  cases message : messageFor codec issuePriorityFieldId slot.reported with
  | some text => exact ledger.messagesOf_send position other text
  | none => simp

theorem outcomesOf_begin (round next : IncidentRound) (ledger : IncidentLedger)
    (position other : Nat) :
    (recordIncident codec issuePriorityFieldId round (.begin position) next ledger).outcomesOf
        other = ledger.outcomesOf other := by
  simp only [recordIncident]
  split
  · rfl
  · rfl

/-- The slot of a task that has begun. -/
theorem follows_begun {reported : ReportedResult} {phase : IncidentPhase}
    (failed : reported.isFailed = true)
    (isPhase : phase =
      match IncidentCreationInput.new issuePriorityFieldId reported.result with
      | .ok input => IncidentPhase.sending input.testCase
      | .error _ => .over) :
    IncidentSlot.Follows codec issuePriorityFieldId ⟨reported, phase⟩ reported
      (messageFor codec issuePriorityFieldId reported).toList [] := by
  subst isPhase
  cases built : IncidentCreationInput.new issuePriorityFieldId reported.result with
  | ok input =>
      refine ⟨rfl, testCase_of_new built, rfl, ?_, rfl⟩
      simp [messageFor, failed, built]
  | error error =>
      have noMessage : messageFor codec issuePriorityFieldId reported = none := by
        simp [messageFor, failed, built]
      rw [noMessage]
      exact ⟨by rw [noMessage], rfl, rfl⟩

theorem IncidentsAccounted.step {state next : IncidentRound × IncidentLedger}
    {event : IncidentEvent}
    (accounted : IncidentsAccounted codec issuePriorityFieldId allExecutionResults state)
    (stepped : recordedIncidentStep codec issuePriorityFieldId state event = some next) :
    IncidentsAccounted codec issuePriorityFieldId allExecutionResults next := by
  obtain ⟨isStep, recorded⟩ := StepSystem.observed_eq_some.mp stepped
  cases event with
  | begin position =>
      simp only [IncidentRound.step] at isStep
      split at isStep
      · rename_i current found
        refine accounted.move found (Option.some.inj isStep).symm ?_ ?_
        · intro other different
          rw [recorded, messagesOf_begin found, if_neg different, List.append_nil,
            outcomesOf_begin]
          exact ⟨rfl, rfl⟩
        · rintro reported ⟨same, failed, noMessage, noOutcome⟩
          obtain rfl : current = reported := same
          rw [recorded, messagesOf_begin found, if_pos rfl, outcomesOf_begin, noMessage,
            noOutcome, List.nil_append]
          exact follows_begun failed rfl
      · cases isStep
  | sent position outcome =>
      simp only [IncidentRound.step] at isStep
      split at isStep
      · rename_i current testCase found
        refine accounted.move found (Option.some.inj isStep).symm ?_ ?_
        · intro other different
          rw [recorded]
          refine ⟨rfl, ?_⟩
          exact (state.2.outcomesOf_receive position other outcome).trans
            (by rw [if_neg different, List.append_nil])
        · rintro reported ⟨same, isCase, isMessage, single, noOutcome⟩
          obtain rfl : current = reported := same
          have received : next.2.outcomesOf position = [outcome] := by
            rw [recorded]
            exact (state.2.outcomesOf_receive position position outcome).trans
              (by rw [if_pos rfl, noOutcome, List.nil_append])
          have kept : next.2.messagesOf position = state.2.messagesOf position := by
            rw [recorded]
            rfl
          rw [received, kept]
          refine ⟨isMessage, single.symm, ?_⟩
          simp only [attached, isCase]
      · cases isStep

/-- **One incident for each failed test.** In every run in which the tasks are interleaved and
answered in any order: when all are over, every failed result for which an input could be built was
sent in one message of its own, no other result was sent, and each result is as before except for
the incident that the answer to its own message names; a request that raised, or was not sent,
leaves it as it was. -/
theorem incidents_follow_failures (codec : IncidentCodec) (issuePriorityFieldId : String)
    (allExecutionResults : List ReportedResult) {events : List IncidentEvent}
    {final : IncidentRound} {ledger : IncidentLedger}
    (ran : StepSystem.run (recordedIncidentStep codec issuePriorityFieldId)
      (.start allExecutionResults, .empty) events = some (final, ledger))
    (finished : final.finished = true) :
    (∀ position reported, allExecutionResults[position]? = some reported →
      ledger.messagesOf position =
          (messageFor codec issuePriorityFieldId reported).toList ∧
        (ledger.outcomesOf position).length = (ledger.messagesOf position).length) ∧
      final.map IncidentSlot.reported =
        allExecutionResults.mapIdx fun position reported =>
          attached codec reported (ledger.outcomesOf position) := by
  have accounted : IncidentsAccounted codec issuePriorityFieldId allExecutionResults
      (final, ledger) :=
    StepSystem.invariant_of_step
      (fun _ _ _ (holds : IncidentsAccounted codec issuePriorityFieldId allExecutionResults _)
        stepped => holds.step stepped)
      (incidentsAccounted_start allExecutionResults) ran
  obtain ⟨sameLength, every⟩ := accounted
  have settled : ∀ position reported, allExecutionResults[position]? = some reported →
      ∃ slot : IncidentSlot, final[position]? = some slot ∧
        ledger.messagesOf position = (messageFor codec issuePriorityFieldId reported).toList ∧
        (ledger.outcomesOf position).length = (ledger.messagesOf position).length ∧
        slot.reported = attached codec reported (ledger.outcomesOf position) := by
    intro position reported isResult
    obtain ⟨slot, isSlot, follows⟩ := every position reported isResult
    refine ⟨slot, isSlot, ?_⟩
    have ended := of_decide_eq_true
      (List.all_eq_true.mp finished slot (List.mem_of_getElem? isSlot))
    obtain ⟨current, phase⟩ := slot
    rcases ended with isNone | isOver
    · subst isNone
      obtain ⟨same, passed, noMessage, noOutcome⟩ := follows
      have none : messageFor codec issuePriorityFieldId reported = none := by
        simp [messageFor, passed]
      rw [noMessage, noOutcome, none]
      exact ⟨rfl, rfl, same⟩
    · subst isOver
      obtain ⟨isMessage, answered, same⟩ := follows
      exact ⟨isMessage.symm, answered, same⟩
  refine ⟨?_, ?_⟩
  · intro position reported isResult
    obtain ⟨slot, -, messages, outcomes, -⟩ := settled position reported isResult
    exact ⟨messages, outcomes⟩
  · apply List.ext_getElem?
    intro position
    rw [List.getElem?_map, List.getElem?_mapIdx]
    cases isResult : allExecutionResults[position]? with
    | none =>
        have outside : final.length ≤ position :=
          sameLength ▸ List.getElem?_eq_none_iff.mp isResult
        rw [List.getElem?_eq_none outside]
        rfl
    | some reported =>
        obtain ⟨slot, isSlot, -, -, same⟩ := settled position reported isResult
        rw [isSlot, Option.map_some, Option.map_some, same]

end Runs

/-! ## A concrete run -/

/-- An answer of the incident agent. -/
def incidentAnswer : String :=
  "\x7b\"incident_id\":7,\"incident_key\":\"BUG-7\",\"duplicates\":[]\x7d"

/-- The JSON of the records of the run. -/
def incidentCodec : IncidentCodec where
  modelDumpJson input := "\x7b\"test_execution_result\":\"" ++ input.testExecutionResult ++ "\"\x7d"
  agentExecutionError _ := none
  incidentCreationResult text :=
    if text = incidentAnswer then .ok ⟨some 7, some "BUG-7", []⟩
    else .error (.validationError "IncidentCreationResult" "duplicates")

/-- A result of a test. -/
def resultOf (key : String) (status : TestExecutionStatus) (description : Option String) :
    ReportedResult :=
  ⟨⟨[], some key, key, status, "No answer", none, "", "", description,
    some (TestCase.named key)⟩, none⟩

/-- A passed test, a failed one, one with an error, and one that was never described. -/
def incidentResults : List ReportedResult :=
  [resultOf "T-1" .passed (some "Chrome"), resultOf "T-2" .failed (some "Chrome"),
    resultOf "T-3" .error (some "Chrome"), resultOf "T-4" .failed none]

/-- The answer for the second result comes last, and the third request raises. -/
def incidentRun : List IncidentEvent :=
  [.begin 1, .begin 3, .begin 2, .sent 2 (.error (.httpException 408 "timed out")),
    .sent 1 (.ok (some ⟨"remote", ⟨.completed, "completed", ""⟩,
      [⟨"a-1", ArtifactName.executionResult, [⟨.text incidentAnswer, "", ""⟩]⟩]⟩))]

theorem incidents_follow_failures_of_answers :
    ∃ final ledger, StepSystem.run (recordedIncidentStep incidentCodec "priority")
        (.start incidentResults, .empty) incidentRun = some (final, ledger) ∧
      final.map IncidentSlot.reported =
        incidentResults.mapIdx fun position reported =>
          attached incidentCodec reported (ledger.outcomesOf position) := by
  have finished : ∃ state ∈ StepSystem.run (recordedIncidentStep incidentCodec "priority")
      (.start incidentResults, .empty) incidentRun, state.1.finished = true := by
    decide +kernel
  obtain ⟨⟨final, ledger⟩, ran, isFinished⟩ := finished
  exact ⟨final, ledger, ran,
    (incidents_follow_failures incidentCodec "priority" incidentResults ran isFinished).2⟩

end QuAIA.Orchestrator
