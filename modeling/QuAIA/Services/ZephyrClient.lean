import QuAIA.Common.Models
import QuAIA.Library.Retry

/-!
Contract: the requests that create test cases and test executions in Zephyr.

Owns: `_request` with its retries, the requests of `create_test_cases` and
`create_test_execution`, and how many test cases and executions the server creates for one
element.

Does not own: the texts that are logged. The server is an arbitrary function: for every attempt
it says what the client gets back, and whether the server has carried the request out. `int`
and the timestamp parser are arbitrary functions as well.
-/

set_option autoImplicit false

namespace QuAIA.Services

open QuAIA.Common
open QuAIA.Library

/-! ## `_request` -/

/-- What the client reads of a decoded body: `key` and `id` are `none` where they are missing or
falsy, `values` is their number. -/
structure ResponseBody where
  key : Option String
  id : Option Int
  values : Nat
deriving DecidableEq

/-- What `request_fn` returns or raises. The error of a body is that of `response.json()`. -/
inductive Reply where
  | response (status : Nat) (body : Except PyError ResponseBody)
  | timeoutException
  | connectError
  | otherException (message : String)

/-- One attempt, and whether the server has applied it. -/
structure Exchange where
  reply : Reply
  applied : Bool

/-- `RetryConfig.MAX_RETRIES`. -/
def maxRetries : Nat := 3

/-- `RetryConfig.RETRYABLE_STATUS_CODES`. -/
def retryableStatusCodes : List Nat := [404, 429, 500, 502, 503, 504]

/-- The failures after which `_request` tries again while attempts are left. -/
def Reply.retryable : Reply → Bool
  | .response status _ => retryableStatusCodes.contains status
  | .timeoutException => true
  | .connectError => true
  | .otherException _ => false

/-- `raise_for_status` and the exceptions: what is left to the caller of the last attempt. -/
def Reply.outcome : Reply → Except PyError (Except PyError ResponseBody)
  | .response status body =>
      if 200 ≤ status ∧ status < 300 then .ok body
      else .error (.exception s!"HTTPStatusError {status}")
  | .timeoutException => .error (.exception "TimeoutException")
  | .connectError => .error (.exception "ConnectError")
  | .otherException message => .error (.exception message)

/-- The loop of `_request`, with the attempts that follow the next one. -/
def requestLoop : Nat → (Nat → Exchange) →
    List Exchange × Except PyError (Except PyError ResponseBody)
  | 0, attempts => ([attempts 0], (attempts 0).reply.outcome)
  | retries + 1, attempts =>
      if (attempts 0).reply.retryable then
        let (later, outcome) := requestLoop retries fun k => attempts (k + 1)
        (attempts 0 :: later, outcome)
      else ([attempts 0], (attempts 0).reply.outcome)

def request (attempts : Nat → Exchange) :
    List Exchange × Except PyError (Except PyError ResponseBody) :=
  requestLoop (maxRetries - 1) attempts

/-! ## Requests -/

structure StepPayload where
  description : String
  expectedResult : String
  testData : String
deriving DecidableEq

structure StepResultPayload where
  statusName : String
  actualResult : String
  actualEndDate : Option String
deriving DecidableEq

structure ExecutionPayload where
  projectKey : String
  testCaseKey : String
  testCycleKey : String
  statusName : String
  comment : String
  testScriptResults : List StepResultPayload
  actualStartDate : Option String
  actualEndDate : Option String
  versionId : Option String
deriving DecidableEq

inductive ZephyrRequest where
  | createTestCase (projectKey name objective : String) (precondition : Option String)
  | addTestSteps (testCaseKey : String) (items : List StepPayload)
  | linkTestCase (testCaseKey : String) (issueId : Int)
  | getTestSteps (testCaseKey : String)
  | createTestExecution (payload : ExecutionPayload)
  | linkTestExecution (executionId : Int) (issueId : Int ⊕ String)
deriving DecidableEq

/-- The requests that create a test case, or a test execution, when they are applied. -/
def ZephyrRequest.creates : ZephyrRequest → Bool
  | .createTestCase _ _ _ _ => true
  | .createTestExecution _ => true
  | _ => false

/-- An attempt of a request. -/
structure Sent where
  request : ZephyrRequest
  exchange : Exchange

/-- The attempts that were made, and what a call returns or raises. -/
structure Calls (α : Type) where
  sent : List Sent
  outcome : Except PyError α

namespace Calls

variable {α β : Type}

def pure (value : α) : Calls α := ⟨[], .ok value⟩

def andThen (calls : Calls α) (next : α → Calls β) : Calls β :=
  match calls.outcome with
  | .ok value => ⟨calls.sent ++ (next value).sent, (next value).outcome⟩
  | .error error => ⟨calls.sent, .error error⟩

/-- Python code between two requests. -/
def compute (outcome : Except PyError α) : Calls α := ⟨[], outcome⟩

/-- The test cases or executions that the attempts have created. -/
def created (calls : Calls α) : Nat :=
  calls.sent.countP fun sent => sent.request.creates && sent.exchange.applied

end Calls

/-- The attempts of the requests that are made for one element of a list, by the number of the
request and of the attempt. -/
abbrev Server := Nat → Nat → Exchange

/-- One request of an element. -/
def Server.send (server : Server) (number : Nat) (zephyrRequest : ZephyrRequest) :
    Calls (Except PyError ResponseBody) :=
  let (exchanges, outcome) := request (server number)
  ⟨exchanges.map fun exchange => ⟨zephyrRequest, exchange⟩, outcome⟩

section Loop

variable {α β : Type} (turn : Nat → α → Calls β)

/-- A loop over a list: the calls of the turns that it comes to, and what it collects or
raises. -/
def eachElement : Nat → List α → List (Calls β) × Except PyError (List β)
  | _, [] => ([], .ok [])
  | position, element :: rest =>
      match (turn position element).outcome with
      | .error error => ([turn position element], .error error)
      | .ok value =>
          let (turns, outcome) := eachElement (position + 1) rest
          (turn position element :: turns, outcome.map (value :: ·))

end Loop

/-! ## `create_test_cases` -/

section CreateTestCases

variable (int : String → Except PyError Int) (projectKey userStoryId : String)

def stepPayload (step : TestStep) : StepPayload where
  description := step.action
  expectedResult := step.expectedResults.replace "\n" "<br>"
  testData := ("<br>".intercalate step.testData).replace "\n" ""

/-- The requests after a test case was created with a key: its steps and its link. -/
def completeTestCase (server : Server) (testCase : TestCase) (key : String) :
    Calls (Option String) :=
  let addSteps : Calls Unit :=
    if testCase.steps.isEmpty then .pure ()
    else
      (server.send 1 (.addTestSteps key (testCase.steps.map stepPayload))).andThen fun _ =>
        .pure ()
  addSteps.andThen fun _ =>
    (Calls.compute (int userStoryId)).andThen fun issueId =>
      (server.send 2 (.linkTestCase key issueId)).andThen fun _ => .pure (some key)

/-- One turn of the loop: the key of the created test case, if the server has answered with
one. -/
def createTestCase (server : Server) (testCase : TestCase) : Calls (Option String) :=
  (server.send 0 (.createTestCase projectKey testCase.name testCase.summary
      testCase.preconditions)).andThen fun body =>
    (Calls.compute body).andThen fun created =>
      match created.key with
      | none => .pure none
      | some key => completeTestCase int userStoryId server testCase key

def createTestCases (servers : Nat → Server) (testCases : List TestCase) :
    List (Calls (Option String)) × Except PyError (List String) :=
  let (turns, outcome) := eachElement
    (fun position => createTestCase int projectKey userStoryId (servers position)) 0 testCases
  (turns, outcome.map List.reduceOption)

end CreateTestCases

/-! ## `create_test_execution` -/

structure StepReport where
  success : Bool
  errorMessage : String
  actualResults : String
  executionEndTimestamp : Option String

structure DuplicateIssue where
  issueId : String
  issueKey : String

structure IncidentCreationResult where
  incidentId : Option Int
  incidentKey : Option String
  duplicates : List DuplicateIssue

/-- The fields of a `TestExecutionResult` that the client reads. -/
structure ExecutionReport where
  stepResults : List StepReport
  testCaseKey : String
  testExecutionStatus : TestExecutionStatus
  generalErrorMessage : String
  startTimestamp : String
  endTimestamp : String
  incidentCreationResult : Option IncidentCreationResult

section CreateTestExecution

variable (parseTimestamp : String → Option String) (projectKey testCycleKey : String)
  (versionId : Option String)

def stepResultPayload (step : StepReport) : StepResultPayload where
  statusName := if step.success then "Pass" else "Fail"
  actualResult := if step.errorMessage = "" then step.actualResults else step.errorMessage
  actualEndDate :=
    (step.executionEndTimestamp.filter fun text => text ≠ "").bind parseTimestamp

/-- The payload of a step that was not executed. -/
def notExecuted : StepResultPayload :=
  ⟨"Not Executed", "This step was not executed because a previous step failed.", none⟩

def executionComment (report : ExecutionReport) : String :=
  let comment := if report.testExecutionStatus = .passed then "" else report.generalErrorMessage
  match report.incidentCreationResult with
  | none => comment
  | some incident =>
      let withIncident :=
        match incident.incidentKey with
        | some key => if key = "" then comment else comment ++ s!"<br>Incident created: {key}"
        | none => comment
      if incident.duplicates.isEmpty then withIncident
      else
        withIncident ++ "\n\nPotential duplicates found: " ++
          ", ".intercalate (incident.duplicates.map DuplicateIssue.issueKey)

def executionPayload (report : ExecutionReport) (totalSteps : Nat) : ExecutionPayload :=
  let executed := report.stepResults.map (stepResultPayload parseTimestamp)
  { projectKey := projectKey
    testCaseKey := report.testCaseKey
    testCycleKey := testCycleKey
    statusName := if report.testExecutionStatus = .passed then "Pass" else "Fail"
    comment := executionComment report
    testScriptResults := executed ++ List.replicate (totalSteps - executed.length) notExecuted
    actualStartDate := parseTimestamp report.startTimestamp
    actualEndDate := parseTimestamp report.endTimestamp
    versionId := versionId.filter fun version => version ≠ "" }

/-- The issues that are linked to an execution: the incident, and its duplicates. -/
def linkedIssues (report : ExecutionReport) : List (Int ⊕ String) :=
  match report.incidentCreationResult with
  | none => []
  | some incident =>
      ((incident.incidentId.filter fun id => id ≠ 0).toList.map .inl) ++
        ((incident.duplicates.map DuplicateIssue.issueId).filter fun id => id ≠ "").map .inr

def linkIssues (server : Server) (executionId : Int) :
    Nat → List (Int ⊕ String) → Calls Unit
  | _, [] => .pure ()
  | number, issueId :: rest =>
      (server.send number (.linkTestExecution executionId issueId)).andThen fun _ =>
        linkIssues server executionId (number + 1) rest

/-- `_get_test_steps`. -/
def getTestSteps (server : Server) (testCaseKey : String) : Calls ResponseBody :=
  (server.send 0 (.getTestSteps testCaseKey)).andThen Calls.compute

/-- One turn of the loop. -/
def executionTurn (server : Server) (report : ExecutionReport) : Calls Unit :=
  (getTestSteps server report.testCaseKey).andThen fun stepData =>
    (server.send 1 (.createTestExecution
        (executionPayload parseTimestamp projectKey testCycleKey versionId report
          stepData.values))).andThen fun body =>
      (Calls.compute body).andThen fun created =>
        match created.id with
        | none => .pure ()
        | some executionId => linkIssues server executionId 2 (linkedIssues report)

def createTestExecution (servers : Nat → Server) (reports : List ExecutionReport) :
    List (Calls Unit) × Except PyError (List Unit) :=
  eachElement (fun position =>
    executionTurn parseTimestamp projectKey testCycleKey versionId (servers position)) 0
      reports

end CreateTestExecution

/-! ## What is created -/

/-- An attempt that the server has applied fails retryably, and a later attempt of the request
is applied as well. -/
def CreatesAgain (attempts : Nat → Exchange) : Prop :=
  Retry.Repeats (fun exchange : Exchange => exchange.reply.retryable) Exchange.applied
    (maxRetries - 1) attempts

/-- The loop comes to a position of the list. -/
def Comes {α β : Type} (turn : Nat → α → Calls β) (elements : List α) (position : Nat) : Prop :=
  ∀ earlier < position, ∀ element ∈ elements[earlier]?,
    ∃ value, (turn earlier element).outcome = .ok value

theorem requestLoop_sent (retries : Nat) (attempts : Nat → Exchange) :
    (requestLoop retries attempts).1 =
      Retry.made (fun exchange : Exchange => exchange.reply.retryable) retries attempts := by
  induction retries generalizing attempts with
  | zero => rfl
  | succ retries inductionHypothesis =>
      rw [requestLoop, Retry.made]
      split
      · rw [← inductionHypothesis]
      · rfl

section Counting

variable {α β : Type}

theorem created_andThen (calls : Calls α) (next : α → Calls β) :
    (calls.andThen next).created =
      calls.created + match calls.outcome with
        | .ok value => (next value).created
        | .error _ => 0 := by
  unfold Calls.andThen
  split
  · simp only [Calls.created, List.countP_append]
  · simp only [Calls.created, Nat.add_zero]

theorem created_andThen_of_rest {calls : Calls α} {next : α → Calls β}
    (rest : ∀ value, (next value).created = 0) :
    (calls.andThen next).created = calls.created := by
  rw [created_andThen]
  split
  · rw [rest, Nat.add_zero]
  · rfl

theorem created_andThen_eq_zero {calls : Calls α} {next : α → Calls β}
    (first : calls.created = 0) (rest : ∀ value, (next value).created = 0) :
    (calls.andThen next).created = 0 :=
  (created_andThen_of_rest rest).trans first

@[simp] theorem created_pure (value : α) : (Calls.pure value).created = 0 := rfl

@[simp] theorem created_compute (outcome : Except PyError α) :
    (Calls.compute outcome).created = 0 := rfl

variable (server : Server) (number : Nat)

theorem created_send_other {zephyrRequest : ZephyrRequest}
    (other : zephyrRequest.creates = false) : (server.send number zephyrRequest).created = 0 := by
  simp [Server.send, Calls.created, other]

/-- One request creates as often as its attempts are applied. -/
theorem created_send_le_one_iff {zephyrRequest : ZephyrRequest}
    (creates : zephyrRequest.creates = true) :
    (server.send number zephyrRequest).created ≤ 1 ↔ ¬ CreatesAgain (server number) := by
  rw [CreatesAgain, ← Retry.countP_made_le_one_iff, ← requestLoop_sent]
  have counted : (server.send number zephyrRequest).created =
      (requestLoop (maxRetries - 1) (server number)).1.countP Exchange.applied := by
    simp only [Server.send, request, Calls.created, List.countP_map, Function.comp_def, creates,
      Bool.true_and]
  rw [counted]

theorem created_completeTestCase (int : String → Except PyError Int) (userStoryId : String)
    (testCase : TestCase) (key : String) :
    (completeTestCase int userStoryId server testCase key).created = 0 := by
  have addsSteps : ∀ items, ((server.send 1 (.addTestSteps key items)).andThen
      fun _ => .pure ()).created = 0 :=
    fun items => created_andThen_eq_zero (created_send_other server 1 rfl) fun _ => rfl
  have links : ∀ issueId : Int, ((server.send 2 (.linkTestCase key issueId)).andThen
      fun _ => .pure (some key)).created = 0 :=
    fun issueId => created_andThen_eq_zero (created_send_other server 2 rfl) fun _ => rfl
  apply created_andThen_eq_zero
  · split
    · rfl
    · exact addsSteps _
  · intro _
    exact created_andThen_eq_zero rfl links

theorem created_linkIssues (executionId : Int) (issues : List (Int ⊕ String)) :
    (linkIssues server executionId number issues).created = 0 := by
  induction issues generalizing number with
  | nil => rfl
  | cons issueId rest inductionHypothesis =>
      exact created_andThen_eq_zero (created_send_other server number rfl)
        fun _ => inductionHypothesis (number + 1)

/-- A turn for a test case creates what its first request creates. -/
theorem createTestCase_created_iff (int : String → Except PyError Int)
    (projectKey userStoryId : String) (testCase : TestCase) :
    (createTestCase int projectKey userStoryId server testCase).created ≤ 1 ↔
      ¬ CreatesAgain (server 0) := by
  have completes : ∀ created : ResponseBody,
      (match created.key with
        | none => Calls.pure none
        | some key => completeTestCase int userStoryId server testCase key).created = 0 := by
    intro created
    split
    · rfl
    · exact created_completeTestCase server int userStoryId testCase _
  have rest : ∀ body : Except PyError ResponseBody, ((Calls.compute body).andThen fun created =>
      match created.key with
        | none => Calls.pure none
        | some key => completeTestCase int userStoryId server testCase key).created = 0 :=
    fun body => created_andThen_eq_zero rfl completes
  rw [createTestCase, created_andThen_of_rest rest]
  exact created_send_le_one_iff server 0 rfl

/-- A turn for a result creates what its second request creates, if it comes to it. -/
theorem executionTurn_created_iff (parseTimestamp : String → Option String)
    (projectKey testCycleKey : String) (versionId : Option String) (report : ExecutionReport) :
    (executionTurn parseTimestamp projectKey testCycleKey versionId server report).created ≤ 1 ↔
      ((∃ stepData, (getTestSteps server report.testCaseKey).outcome = .ok stepData) →
        ¬ CreatesAgain (server 1)) := by
  have readsOnly : (getTestSteps server report.testCaseKey).created = 0 :=
    created_andThen_eq_zero (created_send_other server 0 rfl) fun body => created_compute body
  have links : ∀ created : ResponseBody,
      (match created.id with
        | none => Calls.pure ()
        | some executionId => linkIssues server executionId 2 (linkedIssues report)).created =
          0 := by
    intro created
    split
    · rfl
    · exact created_linkIssues server 2 _ _
  have rest : ∀ body : Except PyError ResponseBody, ((Calls.compute body).andThen fun created =>
      match created.id with
        | none => Calls.pure ()
        | some executionId =>
            linkIssues server executionId 2 (linkedIssues report)).created = 0 :=
    fun body => created_andThen_eq_zero rfl links
  rw [executionTurn, created_andThen, readsOnly, Nat.zero_add]
  split
  · rename_i stepData answered
    rw [created_andThen_of_rest rest, created_send_le_one_iff server 1 rfl]
    exact ⟨fun once _ => once, fun once => once ⟨stepData, answered⟩⟩
  · rename_i error failed
    refine ⟨fun _ answered => ?_, fun _ => Nat.zero_le 1⟩
    obtain ⟨stepData, isOk⟩ := answered
    rw [failed] at isOk
    cases isOk

end Counting

/-! ## The loops -/

section Loops

variable {α β : Type} (turn : Nat → α → Calls β)

theorem comes_succ {first : α} {rest : List α} {position : Nat} :
    Comes turn (first :: rest) (position + 1) ↔
      (∃ value, (turn 0 first).outcome = .ok value) ∧
        Comes (fun earlier => turn (earlier + 1)) rest position := by
  constructor
  · intro comes
    refine ⟨comes 0 (Nat.succ_pos position) first rfl, ?_⟩
    intro earlier before element found
    exact comes (earlier + 1) (Nat.succ_lt_succ before) element found
  · rintro ⟨firstOk, comes⟩ earlier before element found
    cases earlier with
    | zero =>
        obtain rfl : first = element := Option.some.inj found
        exact firstOk
    | succ earlier => exact comes earlier (Nat.lt_of_succ_lt_succ before) element found

/-- What holds of every turn that is made holds of every turn that the loop comes to. -/
theorem forall_turns_iff (property : Calls β → Prop) (start : Nat) (elements : List α) :
    (∀ calls ∈ (eachElement turn start elements).1, property calls) ↔
      ∀ position element, elements[position]? = some element →
        Comes (fun earlier => turn (start + earlier)) elements position →
          property (turn (start + position) element) := by
  induction elements generalizing start with
  | nil =>
      constructor
      · intro _ position element found
        cases found
      · intro _ calls member
        cases member
  | cons first rest inductionHypothesis =>
      have later := inductionHypothesis (start + 1)
      have shifted : (fun earlier => turn (start + (earlier + 1))) =
          fun earlier => turn (start + 1 + earlier) := by
        funext earlier
        rw [Nat.add_assoc, Nat.add_comm 1 earlier]
      cases outcome : (turn start first).outcome with
      | error error =>
          have turns : (eachElement turn start (first :: rest)).1 = [turn start first] := by
            simp only [eachElement, outcome]
          rw [turns]
          constructor
          · intro every position element found comes
            cases position with
            | zero =>
                obtain rfl : first = element := Option.some.inj found
                exact every _ (List.mem_singleton.mpr rfl)
            | succ position =>
                obtain ⟨value, isOk⟩ := ((comes_succ _).mp comes).1
                rw [Nat.add_zero, outcome] at isOk
                cases isOk
          · intro every calls member
            rw [List.mem_singleton.mp member]
            exact every 0 first rfl fun earlier before => absurd before (Nat.not_lt_zero earlier)
      | ok value =>
          have turns : (eachElement turn start (first :: rest)).1 =
              turn start first :: (eachElement turn (start + 1) rest).1 := by
            simp only [eachElement, outcome]
          rw [turns, List.forall_mem_cons, later]
          constructor
          · rintro ⟨here, every⟩ position element found comes
            cases position with
            | zero =>
                obtain rfl : first = element := Option.some.inj found
                exact here
            | succ position =>
                have restComes := ((comes_succ _).mp comes).2
                rw [shifted] at restComes
                rw [congrFun shifted position]
                exact every position element found restComes
          · intro every
            refine ⟨every 0 first rfl fun earlier before =>
              absurd before (Nat.not_lt_zero earlier), ?_⟩
            intro position element found restComes
            rw [← shifted] at restComes
            have here := every (position + 1) element found
              ((comes_succ _).mpr ⟨⟨value, outcome⟩, restComes⟩)
            rwa [congrFun shifted position] at here

end Loops

/-- **At-most-once creation.** For one test case, or one execution result, at most one test
case, or execution, is created, exactly if no create request that the call comes to is repeated
after the server has applied it and then applied again. -/
theorem zephyr_createsOnce_iff (int : String → Except PyError Int)
    (parseTimestamp : String → Option String) (projectKey userStoryId testCycleKey : String)
    (versionId : Option String) (servers : Nat → Server) (testCases : List TestCase)
    (reports : List ExecutionReport) :
    ((∀ calls ∈ (createTestCases int projectKey userStoryId servers testCases).1,
        calls.created ≤ 1) ↔
      ∀ position testCase, testCases[position]? = some testCase →
        Comes (fun earlier => createTestCase int projectKey userStoryId (servers earlier))
          testCases position →
        ¬ CreatesAgain (servers position 0)) ∧
    ((∀ calls ∈ (createTestExecution parseTimestamp projectKey testCycleKey versionId servers
          reports).1, calls.created ≤ 1) ↔
      ∀ position report, reports[position]? = some report →
        Comes (fun earlier => executionTurn parseTimestamp projectKey testCycleKey versionId
          (servers earlier)) reports position →
        (∃ stepData,
          (getTestSteps (servers position) report.testCaseKey).outcome = .ok stepData) →
        ¬ CreatesAgain (servers position 1)) := by
  constructor
  · have turns := forall_turns_iff
      (fun position => createTestCase int projectKey userStoryId (servers position))
      (fun calls => calls.created ≤ 1) 0 testCases
    simp only [Nat.zero_add, createTestCase_created_iff] at turns
    exact turns
  · have turns := forall_turns_iff
      (fun position =>
        executionTurn parseTimestamp projectKey testCycleKey versionId (servers position))
      (fun calls => calls.created ≤ 1) 0 reports
    simp only [Nat.zero_add, executionTurn_created_iff] at turns
    exact turns

/-- The server applies the first create request, but answers it with 503; it applies the second
one as well. -/
def unavailableOnce : Server := fun _ attempt =>
  match attempt with
  | 0 => ⟨.response 503 (.error (.exception "no JSON")), true⟩
  | _ => ⟨.response 201 (.ok ⟨some "QA-T2", some 2, 0⟩), true⟩

/-- Two test cases are created for one. -/
theorem unavailableOnce_createsTwo :
    ¬ ∀ int projectKey userStoryId servers testCases,
      ∀ calls ∈ (createTestCases int projectKey userStoryId servers testCases).1,
        calls.created ≤ 1 := by
  intro once
  have counted := once (fun _ => .ok 7) "QA" "7" (fun _ => unavailableOnce) [TestCase.named "login"]
    (createTestCase (fun _ => .ok 7) "QA" "7" unavailableOnce (TestCase.named "login"))
    (List.mem_singleton.mpr rfl)
  exact absurd counted (by decide)

end QuAIA.Services
