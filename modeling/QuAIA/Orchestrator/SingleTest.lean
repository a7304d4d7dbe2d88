import QuAIA.Common.Models

/-!
Contract: one test execution, between the answer of the remote agent and the
execution result (`_execute_single_test` and the artifact readers it uses).

Owns: status validation, text and file extraction, and the result record that
is built from the extractor's answer. The two suspensions of the function, the
remote call and the extractor call, split it into `sentSingleTest` and
`extractedSingleTest`.

Does not own: the remote call itself and the extracting model.
-/

set_option autoImplicit false

namespace QuAIA.Orchestrator

open QuAIA.Common

/-! ## Artifact readers -/

/-- `_validate_task_status` for a task that is present. -/
def validateTaskStatus (task : Option Task) (taskDescription : String) : Except PyError Task :=
  match task with
  | none =>
      .error (.httpException 500
        s!"Something went wrong while executing the task for {taskDescription}.")
  | some task =>
      if task.status.state = .completed then .ok task
      else
        .error (.httpException 500
          (s!"Task for {taskDescription} has an unexpected status '{task.status.stateText}'. " ++
            s!"Root cause: {task.status.message}"))

def getArtifactsFromTask (task : Option Task) (taskDescription : String) :
    Except PyError (List Artifact) :=
  match validateTaskStatus task taskDescription with
  | .error error => .error error
  | .ok task =>
      if task.artifacts.isEmpty then
        .error (.httpException 500
          ("Received no execution results from the agent after it executed " ++
            s!"{taskDescription}."))
      else .ok task.artifacts

/-- The non-empty texts of all parts, in order. -/
def textParts (artifacts : List Artifact) : List String :=
  artifacts.flatMap fun artifact =>
    artifact.parts.filterMap fun part =>
      match part.content with
      | .text text => if text.isEmpty then none else some text
      | _ => none

/-- `_get_text_content_from_artifacts` with content expected. -/
def getTextContentFromArtifacts (artifacts : List Artifact) (taskDescription : String) :
    Except PyError (List String) :=
  if (textParts artifacts).isEmpty then
    .error (.httpException 500
      s!"Received no text results from the agent after it executed {taskDescription}.")
  else .ok (textParts artifacts)

/-- Raw parts as files, without the bookkeeping artifacts. -/
def getFileContentsFromArtifacts (artifacts : List Artifact) : List FileArtifact :=
  artifacts.flatMap fun artifact =>
    if artifact.name = ArtifactName.usage ∨ artifact.name = ArtifactName.trace then []
    else
      artifact.parts.filterMap fun part =>
        part.raw?.map fun raw => ⟨part.filename, raw, part.mediaType⟩

/-! ## `_execute_single_test` -/

def singleTestDescription (testCase : TestCase) (testType : String) : String :=
  s!"Execution of test case {formatOptional testCase.key} (type: {testType})"

/-- What the function holds while the extractor runs. -/
structure Extraction where
  agentName : String
  artifacts : List Artifact
  userPrompt : String
  startTimestamp : String
  endTimestamp : String
deriving DecidableEq, Repr

/-- From the end of the remote call to the extractor call. -/
def sentSingleTest (agentName : String) (testCase : TestCase) (testType : String)
    (startTimestamp endTimestamp : String) (sent : Except PyError (Option Task)) :
    Except PyError Extraction :=
  let taskDescription := singleTestDescription testCase testType
  let received : Except PyError (List Artifact) :=
    match sent with
    | .error error => .error error
    | .ok task => getArtifactsFromTask task taskDescription
  match received with
  | .error error =>
      .error (.httpException 500
        (s!"Failed to execute test case {formatOptional testCase.key}. " ++
          s!"Error: {error.str}"))
  | .ok artifacts =>
      if artifacts.isEmpty then
        .error (.httpException 500
          s!"No test case execution results received from agent {agentName}")
      else
        match getTextContentFromArtifacts artifacts taskDescription with
        | .error error => .error error
        | .ok texts => .ok {
            agentName := agentName
            artifacts := artifacts
            userPrompt := "\nTest case execution results:\n```" ++
              "\n".intercalate texts ++ "```\n"
            startTimestamp := startTimestamp
            endTimestamp := endTimestamp }

/-- The extractor's answer completed with what the orchestrator knows. -/
def completeResult (testCase : TestCase) (extraction : Extraction)
    (result : TestExecutionResult) : TestExecutionResult where
  stepResults := result.stepResults
  testCaseKey := testCase.key
  testCaseName := result.testCaseName
  testExecutionStatus := result.testExecutionStatus
  generalErrorMessage := result.generalErrorMessage
  artifacts := some (getFileContentsFromArtifacts extraction.artifacts)
  startTimestamp :=
    if result.startTimestamp.isEmpty then extraction.startTimestamp else result.startTimestamp
  endTimestamp :=
    if result.endTimestamp.isEmpty then extraction.endTimestamp else result.endTimestamp
  systemDescription :=
    if (result.systemDescription.getD "").isEmpty then
      some s!"Agent: {extraction.agentName}, Environment: Standard Test Environment"
    else result.systemDescription
  testCase := some testCase

/-- From the extractor's answer to the return. A failed or empty extraction
becomes an error result, whose construction fails when the test has no key. -/
def extractedSingleTest (testCase : TestCase) (extraction : Extraction)
    (extracted : Except PyError (Option TestExecutionResult)) :
    Except PyError TestExecutionResult :=
  let failed (error : PyError) :=
    TestExecutionResult.error testCase s!"Failed to extract test results: {error.str}"
      extraction.startTimestamp extraction.endTimestamp
      s!"Agent: {extraction.agentName}, Environment: Standard Test Environment"
  match extracted with
  | .error error => failed error
  | .ok none =>
      failed (.exception ("Couldn't map the test execution results received from the agent " ++
        "to the expected format."))
  | .ok (some result) => .ok (completeResult testCase extraction result)

/-- Every result of an execution carries the executed test case. -/
theorem extractedSingleTest_testCase {testCase : TestCase} {extraction : Extraction}
    {extracted : Except PyError (Option TestExecutionResult)} {result : TestExecutionResult}
    (returned : extractedSingleTest testCase extraction extracted = .ok result) :
    result.testCase = some testCase := by
  cases extracted with
  | error error => exact TestExecutionResult.error_testCase returned
  | ok answer =>
      cases answer with
      | none => exact TestExecutionResult.error_testCase returned
      | some answer =>
          cases returned
          rfl

end QuAIA.Orchestrator
