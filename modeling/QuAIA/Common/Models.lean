import Mathlib.Data.List.Basic

/-!
Contract: the records that the agents and the orchestrator exchange.

Owns: test cases, execution results, A2A parts, artifacts and tasks, and the
exceptions that the modelled code raises and catches.

Does not own: the fields of these records that no modelled function reads.

Raw bytes are lists of bytes; a timestamp is the string that the source stores.
-/

set_option autoImplicit false

namespace QuAIA.Common

/-! ## Exceptions -/

/-- An exception the modelled code can observe. `validationError` is pydantic's,
raised for one field of one model. -/
inductive PyError where
  | httpException (statusCode : Nat) (detail : String)
  | validationError (model field : String)
  | exception (message : String)
deriving DecidableEq, Repr

/-- `str(e)`. The text of a validation error is cut after the failing field. -/
def PyError.str : PyError → String
  | .httpException statusCode detail => s!"{statusCode}: {detail}"
  | .validationError model field => s!"1 validation error for {model}\n{field}"
  | .exception message => message

/-- An `f"{value}"` field holding an optional string. -/
def formatOptional : Option String → String
  | none => "None"
  | some text => text

/-! ## Test cases -/

structure TestStep where
  action : String
  expectedResults : String
  testData : List String
deriving DecidableEq, Repr

/-- `TestCase`: every field is mutable, and `key` is `None` until an id is
assigned or the generating model fills it. -/
structure TestCase where
  key : Option String
  labels : List String
  name : String
  summary : String
  comment : String
  preconditions : Option String
  steps : List TestStep
  parentIssueKey : Option String
deriving DecidableEq, Repr

/-- A test case with a key and no content. -/
def TestCase.named (key : String) : TestCase :=
  ⟨some key, [], key, "", "", none, [], none⟩

/-! ## A2A parts, artifacts and tasks -/

/-- The content of an A2A part: exactly one of its fields is set. -/
inductive PartContent where
  | text (text : String)
  | raw (raw : List UInt8)
  | other
deriving DecidableEq, Repr

structure Part where
  content : PartContent
  mediaType : String
  filename : String
deriving DecidableEq, Repr

/-- `part.raw` of a part for which `part.HasField("raw")`. -/
def Part.raw? (part : Part) : Option (List UInt8) :=
  match part.content with
  | .raw raw => some raw
  | _ => none

structure Artifact where
  artifactId : String
  name : String
  parts : List Part
deriving DecidableEq, Repr

inductive TaskState where
  | unspecified
  | submitted
  | working
  | completed
  | failed
  | canceled
  | inputRequired
  | rejected
  | authRequired
deriving DecidableEq, Repr

/-- An A2A task status: `stateText` is what `f"{state!s}"` prints and `message`
the text that `get_message_text` reads from the status message. -/
structure A2ATaskStatus where
  state : TaskState
  stateText : String
  message : String
deriving DecidableEq, Repr

structure Task where
  id : String
  status : A2ATaskStatus
  artifacts : List Artifact
deriving DecidableEq, Repr

/-- `ArtifactName`. -/
def ArtifactName.logs : String := "logs"

def ArtifactName.executionResult : String := "agent_execution_result"

def ArtifactName.usage : String := "agent_usage"

def ArtifactName.trace : String := "agent_trace"

/-! ## Execution results -/

structure FileArtifact where
  name : String
  raw : List UInt8
  mediaType : String
deriving DecidableEq, Repr

structure TestStepResult where
  stepDescription : String
  testData : List String
  expectedResults : String
  actualResults : String
  success : Bool
  errorMessage : String
deriving DecidableEq, Repr

inductive TestExecutionStatus where
  | passed
  | failed
  | error
deriving DecidableEq, Repr

/-- `TestExecutionResult`. Attribute assignment is not validated, so a key can
become `None` after construction. -/
structure TestExecutionResult where
  stepResults : List TestStepResult
  testCaseKey : Option String
  testCaseName : String
  testExecutionStatus : TestExecutionStatus
  generalErrorMessage : String
  artifacts : Option (List FileArtifact)
  startTimestamp : String
  endTimestamp : String
  systemDescription : Option String
  testCase : Option TestCase
deriving DecidableEq, Repr

/-- The constructor call used for error results: pydantic rejects a missing
key. -/
def TestExecutionResult.error (testCase : TestCase) (generalErrorMessage startTimestamp
    endTimestamp systemDescription : String) : Except PyError TestExecutionResult :=
  match testCase.key with
  | none => .error (.validationError "TestExecutionResult" "testCaseKey")
  | some key => .ok {
      stepResults := []
      testCaseKey := some key
      testCaseName := testCase.name
      testExecutionStatus := .error
      generalErrorMessage := generalErrorMessage
      artifacts := none
      startTimestamp := startTimestamp
      endTimestamp := endTimestamp
      systemDescription := some systemDescription
      testCase := some testCase }

theorem TestExecutionResult.error_testCase {testCase : TestCase} {message start stop
    description : String} {result : TestExecutionResult}
    (built : TestExecutionResult.error testCase message start stop description = .ok result) :
    result.testCase = some testCase := by
  unfold TestExecutionResult.error at built
  cases keyed : testCase.key with
  | none => rw [keyed] at built; cases built
  | some key =>
      rw [keyed] at built
      cases built
      rfl

/-- A test case with a key always gets its error result. -/
theorem TestExecutionResult.error_isOk {testCase : TestCase} (keyed : testCase.key ≠ none)
    (message start stop description : String) :
    ∃ result, TestExecutionResult.error testCase message start stop description = .ok result := by
  obtain ⟨key, isKey⟩ := Option.ne_none_iff_exists'.mp keyed
  simp [TestExecutionResult.error, isKey]

end QuAIA.Common
