import Mathlib.Data.List.DropRight
import QuAIA.Common.Models

/-!
Contract: the client of the Feishu Project (Meego) Open API, as far as the
write-back of test cases uses it.

Owns: the requests that the client sends, the loop that creates work items and
returns the compacted list of their ids, and the outcome of each single
creation.

Does not own: tokens and headers. Everything that `_post` and `_patch` raise,
from a missing token to an error code in the answer, is the server's answer here.
-/

set_option autoImplicit false

namespace QuAIA.Common

/-- The Meego settings of `config`. -/
structure MeegoConfig where
  baseUrl : Option String
  pluginId : Option String
  pluginSecret : Option String
  projectKey : String

/-- `bool(value)` of an optional string. -/
def truthy (value : Option String) : Bool := value.any fun text => text ≠ ""

/-- `MEEGO_PLUGIN_ID and MEEGO_PLUGIN_SECRET`. -/
def MeegoConfig.isConfigured (config : MeegoConfig) : Bool :=
  truthy config.pluginId && truthy config.pluginSecret

structure MeegoClient where
  baseUrl : String
  defaultProjectKey : String

/-- `text.rstrip("/")`. -/
def rstripSlash (text : String) : String :=
  String.ofList (text.toList.rdropWhile fun character => character = '/')

def MeegoClient.new (config : MeegoConfig) (projectKey : Option String) :
    Except PyError MeegoClient :=
  let baseUrl := rstripSlash (config.baseUrl.getD "")
  if baseUrl = "" then .error (.exception "MEEGO_BASE_URL is not configured.")
  else .ok ⟨baseUrl, if truthy projectKey then projectKey.getD "" else config.projectKey⟩

/-! ## Requests -/

inductive HttpMethod where
  | post
  | patch
deriving DecidableEq, Repr

inductive FieldValue where
  | text (text : String)
  | options (options : List String)
deriving DecidableEq, Repr

/-- The JSON body: a new work item, changed fields, or a comment. -/
inductive MeegoPayload where
  | workItem (workItemTypeKey : String) (fields : List (String × FieldValue))
  | fields (fields : List (String × FieldValue))
  | comment (content : String) (type : Nat)
deriving DecidableEq, Repr

structure MeegoRequest where
  method : HttpMethod
  url : String
  payload : MeegoPayload
deriving DecidableEq, Repr

/-- The member `work_item_id` of an answer's `data`. -/
inductive WorkItemId where
  | absent
  | null
  | number (value : Int)
  | text (value : String)
deriving DecidableEq, Repr

/-- `str(data.get("work_item_id", ""))`. -/
def WorkItemId.str : WorkItemId → String
  | .absent => ""
  | .null => "None"
  | .number value => toString value
  | .text value => value

/-- The server's answer to a request, which may depend on the number of requests
that the run sent before. -/
abbrev MeegoServer := Nat → MeegoRequest → Except PyError WorkItemId

def testCaseTypeKey : String := "test_cases"

def fieldSteps : String := "field_023f96"

def fieldExpected : String := "field_2c7371"

def fieldLabels : String := "field_65e1cc"

/-- One numbered line for each step, and one more for its data. -/
def stepsText (steps : List TestStep) : String :=
  "\n".intercalate (steps.mapIdx fun index step =>
    s!"{index + 1}. {step.action}" ++
      if step.testData.isEmpty then "" else "\n   Data: " ++ ", ".intercalate step.testData)

def expectedText (steps : List TestStep) : String :=
  "\n".intercalate ((steps.map TestStep.expectedResults).filter fun expected => expected ≠ "")

namespace MeegoClient

def createRequest (client : MeegoClient) (projectKey : String) (testCase : TestCase) :
    MeegoRequest where
  method := .post
  url := s!"{client.baseUrl}/open_api/{projectKey}/work_item/create"
  payload := .workItem testCaseTypeKey
    [("name", .text testCase.name),
      ("description", .text (testCase.preconditions.getD "")),
      (fieldSteps, .text (stepsText testCase.steps)),
      (fieldExpected, .text (expectedText testCase.steps))]

def addLabelsRequest (client : MeegoClient) (testCaseKey : String) (labels : List String) :
    MeegoRequest where
  method := .patch
  url := s!"{client.baseUrl}/open_api/{client.defaultProjectKey}/work_item/{testCaseKey}"
  payload := .fields [(fieldLabels, .options labels)]

def addCommentRequest (client : MeegoClient) (testCaseKey comment : String) :
    MeegoRequest where
  method := .post
  url := s!"{client.baseUrl}/open_api/{client.defaultProjectKey}/work_item/{testCaseKey}" ++
    "/comment/create"
  payload := .comment comment 1

/-! ## Creation -/

/-- The loop of `create_test_cases`: an answer without an id adds nothing. -/
def createLoop (client : MeegoClient) (server : MeegoServer) (projectKey : String) :
    Nat → List String → List TestCase → Except PyError (List String)
  | _, createdIds, [] => .ok createdIds
  | sent, createdIds, testCase :: rest =>
      match server sent (client.createRequest projectKey testCase) with
      | .error error => .error error
      | .ok answer =>
          createLoop client server projectKey (sent + 1)
            (if answer.str = "" then createdIds else createdIds ++ [answer.str]) rest

def createTestCases (client : MeegoClient) (server : MeegoServer) (testCases : List TestCase)
    (projectKey : String) : Except PyError (List String) :=
  client.createLoop server projectKey 0 [] testCases

end MeegoClient

/-- The id of the work item that an answer reports as created, if it reports one. -/
def WorkItemId.created : WorkItemId → Option String
  | .absent => none
  | .null => none
  | .number value => some (toString value)
  | .text value => if value = "" then none else some value

/-- The id that the client lists for an answer, which is `None` for a null one. -/
def WorkItemId.listed (answer : WorkItemId) : Option String :=
  if answer.str = "" then none else some answer.str

/-- What was answered to each single creation: at each position the answer to the request made
from the test case at that position. -/
def MeegoClient.answers (client : MeegoClient) (server : MeegoServer) (projectKey : String) :
    Nat → List TestCase → Except PyError (List WorkItemId)
  | _, [] => .ok []
  | sent, testCase :: rest =>
      match server sent (client.createRequest projectKey testCase) with
      | .error error => .error error
      | .ok answer => (client.answers server projectKey (sent + 1) rest).map (answer :: ·)

section Answers

variable {client : MeegoClient} {server : MeegoServer} {projectKey : String}

theorem repr_int_ne_empty (value : Int) : value.repr ≠ "" := by
  cases value with
  | ofNat value => exact Nat.repr_ne_empty
  | negSucc value => simp [Int.repr]

/-- Only a null answer is listed without a work item. -/
theorem WorkItemId.listed_eq_some_iff {answer : WorkItemId} {id : String} :
    answer.listed = some id ↔ answer.created = some id ∨ (answer = .null ∧ id = "None") := by
  cases answer with
  | absent => simp [listed, str, created]
  | null =>
      rw [listed, str, if_neg (by decide), created]
      simpa using ⟨Eq.symm, Eq.symm⟩
  | number value =>
      have listedEq : (number value).listed = some (toString value) :=
        if_neg (repr_int_ne_empty value)
      simp [listedEq, created]
  | text value =>
      have listedEq : (text value).listed = (text value).created := rfl
      simp [listedEq]

theorem WorkItemId.mem_listed_iff {answers : List WorkItemId} {id : String} :
    id ∈ answers.filterMap WorkItemId.listed ↔
      id ∈ answers.filterMap WorkItemId.created ∨ (.null ∈ answers ∧ id = "None") := by
  simp only [List.mem_filterMap, listed_eq_some_iff]
  constructor
  · rintro ⟨answer, member, created | ⟨rfl, isNone⟩⟩
    · exact Or.inl ⟨answer, member, created⟩
    · exact Or.inr ⟨member, isNone⟩
  · rintro (⟨answer, member, created⟩ | ⟨member, isNone⟩)
    · exact ⟨answer, member, Or.inl created⟩
    · exact ⟨.null, member, Or.inr ⟨rfl, isNone⟩⟩

theorem MeegoClient.createLoop_eq (sent : Nat) (createdIds : List String)
    (testCases : List TestCase) :
    client.createLoop server projectKey sent createdIds testCases =
      (client.answers server projectKey sent testCases).map
        fun answers => createdIds ++ answers.filterMap WorkItemId.listed := by
  induction testCases generalizing sent createdIds with
  | nil =>
      show Except.ok createdIds = Except.ok (createdIds ++ [])
      rw [List.append_nil]
  | cons testCase rest inductionHypothesis =>
      unfold MeegoClient.createLoop MeegoClient.answers
      cases server sent (client.createRequest projectKey testCase) with
      | error error => rfl
      | ok answer =>
          dsimp only
          rw [inductionHypothesis]
          cases client.answers server projectKey (sent + 1) rest with
          | error error => rfl
          | ok answers =>
              simp only [Except.map, List.filterMap_cons, WorkItemId.listed]
              by_cases noId : answer.str = ""
              · rw [if_pos noId, if_pos noId]
              · rw [if_neg noId, if_neg noId, List.append_assoc]
                rfl

/-- **What the client returns** is the list of the ids that it lists. -/
theorem MeegoClient.createTestCases_eq (testCases : List TestCase) :
    client.createTestCases server testCases projectKey =
      (client.answers server projectKey 0 testCases).map
        (List.filterMap WorkItemId.listed) := by
  unfold MeegoClient.createTestCases
  rw [MeegoClient.createLoop_eq]
  rfl

theorem MeegoClient.length_answers {sent : Nat} {testCases : List TestCase}
    {answers : List WorkItemId}
    (answered : client.answers server projectKey sent testCases = .ok answers) :
    answers.length = testCases.length := by
  induction testCases generalizing sent answers with
  | nil =>
      cases answered
      rfl
  | cons testCase rest inductionHypothesis =>
      unfold MeegoClient.answers at answered
      cases isAnswer : server sent (client.createRequest projectKey testCase) with
      | error error =>
          rw [isAnswer] at answered
          cases answered
      | ok answer =>
          rw [isAnswer] at answered
          cases others : client.answers server projectKey (sent + 1) rest with
          | error error =>
              simp only [others, Except.map] at answered
              cases answered
          | ok answers =>
              simp only [others, Except.map] at answered
              cases answered
              rw [List.length_cons, List.length_cons, inductionHypothesis others]

end Answers

end QuAIA.Common
