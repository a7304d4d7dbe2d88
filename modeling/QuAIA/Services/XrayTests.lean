import QuAIA.Common.Models
import Mathlib.Data.List.Nodup
import Mathlib.Data.List.ReduceOption

/-!
Contract: the tests that are kept in Xray, as they are created in bulk and as they are fetched.

Owns: the server with its tests, `_fetch_test_cases_by_jql`, the requests of
`create_test_cases`, and when a created issue has the steps of its own test case.

Does not own: requests that fail, the language of the queries, which the server reads by an
arbitrary function, and answers with a null where the server promises a value.
-/

set_option autoImplicit false

namespace QuAIA.Services.XrayClient

open QuAIA.Common

/-! ## The server -/

/-- A step, as it is stored and as it is uploaded. -/
structure StoredStep where
  action : String
  data : String
  result : String
deriving DecidableEq, Repr

/-- What is read of the field `jira` of a result. A field that is missing is `none`; the
preconditions can also be null, and the parent can be without a key. -/
structure JiraFields where
  summary : Option String
  preconditions : Option (Option String)
  parent : Option (Option String)
  labels : Option (List String)
deriving DecidableEq, Repr

structure StoredTest where
  issueId : String
  steps : Option (List StoredStep)
  jira : Option JiraFields
deriving DecidableEq, Repr

/-- The tests in the order of the answers, and how the server reads a query. -/
structure XrayServer where
  tests : List StoredTest
  selects : String → StoredTest → Bool
  distinct : (tests.map StoredTest.issueId).Nodup

namespace XrayServer

def matching (server : XrayServer) (jql : String) : List StoredTest :=
  server.tests.filter (server.selects jql)

/-- `getTests`: at most `limit` results. -/
def getTests (server : XrayServer) (jql : String) (limit : Nat) : List StoredTest :=
  (server.matching jql).take limit

end XrayServer

/-! ## `_fetch_test_cases_by_jql` -/

def readStep (step : StoredStep) : TestStep where
  action := step.action
  expectedResults := step.result
  testData := [step.data]

def readTest (result : StoredTest) : TestCase :=
  let jiraFields := result.jira.getD ⟨none, none, none, none⟩
  { key := some result.issueId
    name := jiraFields.summary.getD ""
    summary := jiraFields.summary.getD ""
    preconditions := jiraFields.preconditions.getD (some "")
    steps := (result.steps.getD []).map readStep
    parentIssueKey := jiraFields.parent.getD none
    labels := jiraFields.labels.getD []
    comment := "" }

/-- The default of `max_results`. -/
def maxResults : Nat := 100

def fetchTestCasesByJql (server : XrayServer) (jql : String) : List TestCase :=
  (server.getTests jql maxResults).map readTest

/-! ## `create_test_cases` -/

/-- An issue of the answer to the bulk request. -/
structure CreatedIssue where
  id : String
  key : String
deriving DecidableEq, Repr

/-- The requests that follow the bulk request. -/
inductive XrayRequest where
  | updateTest (issueId : String) (steps : List StoredStep)
  | linkIssues (linkType inwardIssue outwardIssue : String)
deriving DecidableEq, Repr

/-- A step of the payload of `_add_steps_to_test_case`. The test data is not uploaded. -/
def stepInput (step : TestStep) : StoredStep where
  action := step.action
  data := ""
  result := step.expectedResults

/-- The upload for one created issue. -/
def addStepsToTestCase (issue : CreatedIssue) (testCaseData : TestCase) : List XrayRequest :=
  if testCaseData.steps.isEmpty then []
  else [.updateTest issue.id (testCaseData.steps.map stepInput)]

/-- The loop over the created issues, from the position `i` on. -/
def addSteps (testCases : List TestCase) :
    Nat → List CreatedIssue → List XrayRequest × Except PyError Unit
  | _, [] => ([], .ok ())
  | i, issue :: rest =>
      match testCases[i]? with
      | none => ([], .error (.exception "list index out of range"))
      | some testCaseData =>
          let (later, outcome) := addSteps testCases (i + 1) rest
          (addStepsToTestCase issue testCaseData ++ later, outcome)

/-- `create_test_cases` after the bulk request: the requests, and the keys or what is raised. -/
def createTestCases (testCases : List TestCase) (userStoryId : String)
    (createdIssues : List CreatedIssue) : List XrayRequest × Except PyError (List String) :=
  match addSteps testCases 0 createdIssues with
  | (uploads, .error error) => (uploads, .error error)
  | (uploads, .ok ()) =>
      let createdTestCaseKeys := createdIssues.map CreatedIssue.key
      (uploads ++ createdTestCaseKeys.map fun key => .linkIssues "Relates" key userStoryId,
        .ok createdTestCaseKeys)

/-! ## What the server does with the requests -/

/-- The steps of a test are replaced. -/
def StoredTest.handle (test : StoredTest) : XrayRequest → StoredTest
  | .updateTest issueId steps =>
      if test.issueId = issueId then { test with steps := some steps } else test
  | .linkIssues _ _ _ => test

theorem StoredTest.issueId_handle (test : StoredTest) (xrayRequest : XrayRequest) :
    (test.handle xrayRequest).issueId = test.issueId := by
  cases xrayRequest with
  | updateTest issueId steps =>
      rw [handle]
      split <;> rfl
  | linkIssues linkType inwardIssue outwardIssue => rfl

namespace XrayServer

def handle (server : XrayServer) (xrayRequest : XrayRequest) : XrayServer where
  tests := server.tests.map fun test => test.handle xrayRequest
  selects := server.selects
  distinct := by
    rw [List.map_map]
    have sameIds : (StoredTest.issueId ∘ fun test => test.handle xrayRequest) =
        StoredTest.issueId := funext fun test => test.issueId_handle xrayRequest
    rw [sameIds]
    exact server.distinct

/-- What the server answers to the bulk request: for every test case the issue that is created,
if it is. The issues are new, and the query for the key of one selects it. -/
structure BulkAnswer (server : XrayServer) (testCases : List TestCase) where
  outcomes : List (Option CreatedIssue)
  answersEach : outcomes.length = testCases.length
  fresh : (server.tests.map StoredTest.issueId ++
    outcomes.reduceOption.map CreatedIssue.id).Nodup
  selectsKey : ∀ issue ∈ outcomes.reduceOption, ∀ test,
    server.selects s!"issue = {issue.key}" test = decide (test.issueId = issue.id)

variable {server : XrayServer} {testCases : List TestCase}

/-- `jira_issues_response["issues"]`. -/
def BulkAnswer.issues (answer : BulkAnswer server testCases) : List CreatedIssue :=
  answer.outcomes.reduceOption

/-- The created issues with the test cases that they were created from. -/
def BulkAnswer.made (answer : BulkAnswer server testCases) : List (TestCase × CreatedIssue) :=
  (testCases.zip answer.outcomes).filterMap fun entry => entry.2.map fun issue => (entry.1, issue)

/-- The test of a created issue, before its steps are uploaded. Its summary is the name of the test
case, as the bulk request has it. -/
def newTest (made : TestCase × CreatedIssue) : StoredTest where
  issueId := made.2.id
  steps := some []
  jira := some ⟨some made.1.name, none, none, some []⟩

theorem map_snd_made (answer : BulkAnswer server testCases) :
    answer.made.map Prod.snd = answer.issues := by
  have unzipped : (testCases.zip answer.outcomes).map Prod.snd = answer.outcomes :=
    List.map_snd_zip (Nat.le_of_eq answer.answersEach)
  have issuesOfZip := congrArg List.reduceOption unzipped
  rw [BulkAnswer.made, BulkAnswer.issues, ← issuesOfZip, List.reduceOption, List.filterMap_map,
    List.map_filterMap]
  congr 1
  funext entry
  cases isCreated : entry.2 <;> simp [isCreated]

/-- The server with the created issues. -/
def created (answer : BulkAnswer server testCases) : XrayServer where
  tests := server.tests ++ answer.made.map newTest
  selects := server.selects
  distinct := by
    have ids : (answer.made.map newTest).map StoredTest.issueId =
        answer.issues.map CreatedIssue.id := by
      rw [← map_snd_made, List.map_map, List.map_map]
      rfl
    rw [List.map_append, ids]
    exact answer.fresh

theorem selects_foldl_handle (server : XrayServer) (requests : List XrayRequest) :
    (requests.foldl handle server).selects = server.selects := by
  induction requests generalizing server with
  | nil => rfl
  | cons xrayRequest rest inductionHypothesis =>
      exact inductionHypothesis (server.handle xrayRequest)

theorem tests_foldl_handle (server : XrayServer) (requests : List XrayRequest) :
    (requests.foldl handle server).tests =
      server.tests.map fun test => requests.foldl StoredTest.handle test := by
  induction requests generalizing server with
  | nil => exact (List.map_id server.tests).symm
  | cons xrayRequest rest inductionHypothesis =>
      rw [List.foldl_cons, inductionHypothesis, handle, List.map_map]
      rfl

end XrayServer

/-! ## Which steps an issue gets -/

/-- The uploads for issues and the test cases at their positions. -/
def uploads (pairs : List (CreatedIssue × TestCase)) : List XrayRequest :=
  pairs.flatMap fun pair => addStepsToTestCase pair.1 pair.2

/-- The test cases are taken by the positions of the created issues. -/
theorem addSteps_eq (testCases : List TestCase) {i : Nat} {issues : List CreatedIssue}
    (enough : i + issues.length ≤ testCases.length) :
    addSteps testCases i issues = (uploads (issues.zip (testCases.drop i)), .ok ()) := by
  induction issues generalizing i with
  | nil => rfl
  | cons issue rest inductionHypothesis =>
      rw [List.length_cons] at enough
      have inside : i < testCases.length := by omega
      have later := inductionHypothesis (i := i + 1) (by omega)
      rw [addSteps, List.getElem?_eq_getElem inside, List.drop_eq_getElem_cons inside]
      simp only [later]
      rfl

theorem issueId_foldl_handle (test : StoredTest) (requests : List XrayRequest) :
    (requests.foldl StoredTest.handle test).issueId = test.issueId := by
  induction requests generalizing test with
  | nil => rfl
  | cons xrayRequest rest inductionHypothesis =>
      exact (inductionHypothesis (test.handle xrayRequest)).trans (test.issueId_handle xrayRequest)

section Uploads

variable {pairs : List (CreatedIssue × TestCase)} {issue : CreatedIssue} {testCaseData : TestCase}
  {test : StoredTest}

theorem foldl_addSteps_of_ne (differs : test.issueId ≠ issue.id) :
    (addStepsToTestCase issue testCaseData).foldl StoredTest.handle test = test := by
  rw [addStepsToTestCase]
  split
  · rfl
  · exact if_neg differs

theorem steps_foldl_addSteps (same : test.issueId = issue.id) (blank : test.steps.getD [] = []) :
    ((addStepsToTestCase issue testCaseData).foldl StoredTest.handle test).steps.getD [] =
      testCaseData.steps.map stepInput := by
  rw [addStepsToTestCase]
  split
  next noSteps => rw [List.foldl_nil, blank, List.isEmpty_iff.mp noSteps, List.map_nil]
  next =>
    have uploaded : test.handle (.updateTest issue.id (testCaseData.steps.map stepInput)) =
        { test with steps := some (testCaseData.steps.map stepInput) } := if_pos same
    rw [List.foldl_cons, List.foldl_nil, uploaded, Option.getD_some]

/-- A test gets no steps from uploads for other issues. -/
theorem foldl_uploads_of_not_mem (absent : test.issueId ∉ pairs.map fun pair => pair.1.id) :
    (uploads pairs).foldl StoredTest.handle test = test := by
  induction pairs with
  | nil => rfl
  | cons pair rest inductionHypothesis =>
      rw [List.map_cons, List.mem_cons, not_or] at absent
      rw [uploads, List.flatMap_cons, List.foldl_append, foldl_addSteps_of_ne absent.1]
      exact inductionHypothesis absent.2

/-- A test without steps gets those that are uploaded for its own issue. -/
theorem steps_foldl_uploads (distinct : (pairs.map fun pair => pair.1.id).Nodup)
    (member : (issue, testCaseData) ∈ pairs) (same : test.issueId = issue.id)
    (blank : test.steps.getD [] = []) :
    ((uploads pairs).foldl StoredTest.handle test).steps.getD [] =
      testCaseData.steps.map stepInput := by
  induction pairs with
  | nil => cases member
  | cons pair rest inductionHypothesis =>
      rw [List.map_cons, List.nodup_cons] at distinct
      rw [uploads, List.flatMap_cons, List.foldl_append]
      rcases List.mem_cons.mp member with isPair | later
      · subst isPair
        have absent : ((addStepsToTestCase issue testCaseData).foldl StoredTest.handle
            test).issueId ∉ rest.map fun pair => pair.1.id := by
          rw [issueId_foldl_handle, same]
          exact distinct.1
        have others := foldl_uploads_of_not_mem absent
        rw [uploads] at others
        rw [others]
        exact steps_foldl_addSteps same blank
      · have inRest : test.issueId ∈ rest.map fun pair => pair.1.id :=
          same ▸ List.mem_map_of_mem (f := fun pair => pair.1.id) later
        have differs : test.issueId ≠ pair.1.id := fun isHead => distinct.1 (isHead ▸ inRest)
        rw [foldl_addSteps_of_ne differs]
        exact inductionHypothesis distinct.2 later

end Uploads

/-- One test of a list has an id. -/
theorem filter_issueId_eq {tests : List StoredTest}
    (distinct : (tests.map StoredTest.issueId).Nodup) {test : StoredTest} (member : test ∈ tests) :
    (tests.filter fun other => decide (other.issueId = test.issueId)) = [test] := by
  induction tests with
  | nil => cases member
  | cons head rest inductionHypothesis =>
      rw [List.map_cons, List.nodup_cons] at distinct
      rcases List.mem_cons.mp member with rfl | later
      · have others : (rest.filter fun other => decide (other.issueId = test.issueId)) = [] := by
          refine List.filter_eq_nil_iff.mpr fun other inside isSame => distinct.1 ?_
          exact of_decide_eq_true isSame ▸ List.mem_map_of_mem inside
        simp [others]
      · have differs : head.issueId ≠ test.issueId := fun isSame =>
          distinct.1 (isSame ▸ List.mem_map_of_mem later)
        rw [List.filter_cons_of_neg (by simpa using differs)]
        exact inductionHypothesis distinct.2 later
/-! ## Bulk creation -/

namespace XrayServer

section Bulk

variable {server : XrayServer} {testCases : List TestCase} (answer : BulkAnswer server testCases)
  (userStoryId : String)

/-- The server when `create_test_cases` is done. -/
def completed : XrayServer :=
  (createTestCases testCases userStoryId answer.issues).1.foldl handle (created answer)

/-- Every created issue has the steps of its own test case, and they are read back from it. -/
structure Aligned : Prop where
  given : ∀ made ∈ answer.made, ∀ test ∈ (completed answer userStoryId).tests,
    test.issueId = made.2.id → test.steps.getD [] = made.1.steps.map stepInput
  readBack : ∀ made ∈ answer.made,
    (fetchTestCasesByJql (completed answer userStoryId) s!"issue = {made.2.key}").map
      TestCase.steps = [made.1.steps]

/-- What is uploaded of a step. -/
def outline (step : TestStep) : String × String := (step.action, step.expectedResults)

/-- A test case has the steps of another one, up to their test data. -/
def SameOutline (testCase other : TestCase) : Prop :=
  testCase.steps.map outline = other.steps.map outline

/-- Every step of a test case has the empty text as its test data. -/
def BlankData (testCase : TestCase) : Prop := ∀ step ∈ testCase.steps, step.testData = [""]

/-- The test case at the position that a created issue has among the created issues is like the
one it was created from, and has no test data. -/
def Undisturbed : Prop :=
  ∀ (position : Nat) (made : TestCase × CreatedIssue) (atPosition : TestCase),
    answer.made[position]? = some made → testCases[position]? = some atPosition →
      SameOutline made.1 atPosition ∧ BlankData made.1

theorem length_issues_le : answer.issues.length ≤ testCases.length := by
  rw [← answer.answersEach]
  exact List.reduceOption_length_le answer.outcomes

/-- The keys of the created issues are returned. -/
theorem createTestCases_eq :
    createTestCases testCases userStoryId answer.issues =
      (uploads (answer.issues.zip testCases) ++
          (answer.issues.map CreatedIssue.key).map fun key =>
            .linkIssues "Relates" key userStoryId,
        .ok (answer.issues.map CreatedIssue.key)) := by
  have enough : 0 + answer.issues.length ≤ testCases.length := by
    rw [Nat.zero_add]
    exact length_issues_le answer
  rw [createTestCases, addSteps_eq testCases enough, List.drop_zero]

theorem foldl_links (keys : List String) (test : StoredTest) :
    (keys.map fun key => XrayRequest.linkIssues "Relates" key userStoryId).foldl
      StoredTest.handle test = test := by
  induction keys with
  | nil => rfl
  | cons key rest inductionHypothesis => exact inductionHypothesis

theorem tests_completed :
    (completed answer userStoryId).tests = (created answer).tests.map fun test =>
      (uploads (answer.issues.zip testCases)).foldl StoredTest.handle test := by
  rw [completed, tests_foldl_handle, createTestCases_eq]
  refine List.map_congr_left fun test _ => ?_
  rw [List.foldl_append, foldl_links]

/-- The issue at a position has the steps of the test case at this position. -/
theorem exists_test_of_position {position : Nat} {made : TestCase × CreatedIssue}
    {atPosition : TestCase} (isMade : answer.made[position]? = some made)
    (isRequested : testCases[position]? = some atPosition) :
    ∃ test ∈ (completed answer userStoryId).tests, test.issueId = made.2.id ∧
      test.steps.getD [] = atPosition.steps.map stepInput := by
  have isIssue : answer.issues[position]? = some made.2 := by
    rw [← map_snd_made, List.getElem?_map, isMade]
    rfl
  have paired : (made.2, atPosition) ∈ answer.issues.zip testCases :=
    List.mem_of_getElem? (List.getElem?_zip_eq_some.mpr ⟨isIssue, isRequested⟩)
  have distinct : ((answer.issues.zip testCases).map fun pair => pair.1.id).Nodup := by
    have issuesOfZip := List.map_fst_zip (length_issues_le answer)
    have ids := answer.fresh.of_append_right
    rw [← BulkAnswer.issues, ← issuesOfZip, List.map_map] at ids
    exact ids
  refine ⟨(uploads (answer.issues.zip testCases)).foldl StoredTest.handle (newTest made), ?_,
    issueId_foldl_handle _ _, steps_foldl_uploads distinct paired rfl rfl⟩
  rw [tests_completed]
  refine List.mem_map_of_mem (List.mem_append_right _ ?_)
  exact List.mem_map_of_mem (List.mem_of_getElem? isMade)

/-- Its test is the one that the query for its key selects. -/
theorem matching_completed {made : TestCase × CreatedIssue} (isMade : made ∈ answer.made)
    {test : StoredTest} (member : test ∈ (completed answer userStoryId).tests)
    (isTest : test.issueId = made.2.id) :
    (completed answer userStoryId).matching s!"issue = {made.2.key}" = [test] := by
  have isIssue : made.2 ∈ answer.outcomes.reduceOption := by
    rw [← BulkAnswer.issues, ← map_snd_made]
    exact List.mem_map_of_mem isMade
  have reads : (completed answer userStoryId).selects s!"issue = {made.2.key}" =
      fun other => decide (other.issueId = test.issueId) := by
    rw [completed, selects_foldl_handle, isTest]
    exact funext (answer.selectsKey made.2 isIssue)
  rw [matching, reads]
  exact filter_issueId_eq (completed answer userStoryId).distinct member

theorem map_readStep_stepInput (steps : List TestStep) :
    (steps.map stepInput).map readStep =
      steps.map fun step => { step with testData := [""] } := by
  rw [List.map_map]
  rfl

/-- What is read back of a created issue. -/
theorem readBack_eq {position : Nat} {made : TestCase × CreatedIssue} {atPosition : TestCase}
    (isMade : answer.made[position]? = some made)
    (isRequested : testCases[position]? = some atPosition) :
    (fetchTestCasesByJql (completed answer userStoryId) s!"issue = {made.2.key}").map
      TestCase.steps = [atPosition.steps.map fun step => { step with testData := [""] }] := by
  obtain ⟨test, member, isTest, uploaded⟩ :=
    exists_test_of_position answer userStoryId isMade isRequested
  rw [fetchTestCasesByJql, getTests, matching_completed answer userStoryId
    (List.mem_of_getElem? isMade) member isTest, ← map_readStep_stepInput, ← uploaded]
  rfl

/-- Steps are those of others without their data exactly when they have the same outline and no
data. -/
theorem steps_eq_blank_iff (testCase other : TestCase) :
    testCase.steps = (other.steps.map fun step => { step with testData := [""] }) ↔
      SameOutline testCase other ∧ BlankData testCase := by
  constructor
  · intro same
    constructor
    · rw [SameOutline, same, List.map_map]
      rfl
    · intro step member
      rw [same] at member
      obtain ⟨original, -, rfl⟩ := List.mem_map.mp member
      rfl
  · rintro ⟨sameOutline, blankData⟩
    have rebuilt : ∀ steps : List TestStep,
        (steps.map fun step => ({ step with testData := [""] } : TestStep)) =
          (steps.map outline).map fun entry => ⟨entry.1, entry.2, [""]⟩ := by
      intro steps
      rw [List.map_map]
      rfl
    have unchanged : testCase.steps.map (fun step => { step with testData := [""] }) =
        testCase.steps := by
      refine (List.map_congr_left fun step member => ?_).trans (List.map_id testCase.steps)
      rw [← blankData step member]
      rfl
    rw [← unchanged, rebuilt, rebuilt, sameOutline]

/-- **Bulk creation.** Every created issue has the steps of its own test case, and they are read
back, exactly when the test case at its position among the created ones has the same actions and
results and its own steps have no test data. -/
theorem aligned_iff : Aligned answer userStoryId ↔ Undisturbed answer := by
  constructor
  · intro aligned position made atPosition isMade isRequested
    have read := aligned.readBack made (List.mem_of_getElem? isMade)
    rw [readBack_eq answer userStoryId isMade isRequested] at read
    exact (steps_eq_blank_iff made.1 atPosition).mp (List.singleton_inj.mp read).symm
  · intro undisturbed
    -- A created issue has a position, and so has a requested test case.
    have located : ∀ made ∈ answer.made, ∃ (position : Nat) (atPosition : TestCase),
        answer.made[position]? = some made ∧ testCases[position]? = some atPosition := by
      intro made isMade
      obtain ⟨position, isPosition⟩ := List.getElem?_of_mem isMade
      have inside := (List.getElem?_eq_some_iff.mp isPosition).1
      have enough := length_issues_le answer
      rw [← map_snd_made, List.length_map] at enough
      exact ⟨position, _, isPosition, List.getElem?_eq_getElem (Nat.lt_of_lt_of_le inside enough)⟩
    constructor
    · intro made isMade test member isTest
      obtain ⟨position, atPosition, isPosition, isRequested⟩ := located made isMade
      obtain ⟨found, isFound, sameId, uploaded⟩ :=
        exists_test_of_position answer userStoryId isPosition isRequested
      have first := matching_completed answer userStoryId isMade member isTest
      rw [matching_completed answer userStoryId isMade isFound sameId] at first
      have sameOutline := (undisturbed position made atPosition isPosition isRequested).1
      have factored : ∀ steps : List TestStep, steps.map stepInput =
          (steps.map outline).map fun entry => ⟨entry.1, "", entry.2⟩ := by
        intro steps
        rw [List.map_map]
        rfl
      rw [← List.singleton_inj.mp first, uploaded, factored, factored, sameOutline]
    · intro made isMade
      obtain ⟨position, atPosition, isPosition, isRequested⟩ := located made isMade
      have condition := undisturbed position made atPosition isPosition isRequested
      rw [readBack_eq answer userStoryId isPosition isRequested,
        (steps_eq_blank_iff made.1 atPosition).mpr condition]

end Bulk

/-- Two test cases, of one step each. -/
def shopTestCases : List TestCase :=
  [{ TestCase.named "login" with steps := [⟨"log in", "logged in", [""]⟩] },
    { TestCase.named "logout" with steps := [⟨"log out", "logged out", [""]⟩] }]

/-- A server without tests, on which a query for the key `SHOP-2` selects the issue 10002. -/
def emptyShop : XrayServer where
  tests := []
  selects jql test := decide (jql = "issue = SHOP-2" ∧ test.issueId = "10002")
  distinct := List.nodup_nil

/-- Only the second test case is created. -/
def partialAnswer : BulkAnswer emptyShop shopTestCases where
  outcomes := [none, some ⟨"10002", "SHOP-2"⟩]
  answersEach := rfl
  fresh := by decide
  selectsKey := by
    intro issue isIssue test
    rw [List.mem_singleton.mp isIssue]
    exact decide_eq_decide.mpr ⟨fun selected => selected.2, fun isTest => ⟨rfl, isTest⟩⟩

/-- It gets the steps of the first one. -/
theorem partialAnswer_misaligned :
    ¬∀ (server : XrayServer) (testCases : List TestCase) (answer : BulkAnswer server testCases)
      (userStoryId : String), Aligned answer userStoryId := by
  intro aligned
  have isMade : partialAnswer.made[0]? =
      some (shopTestCases[1], (⟨"10002", "SHOP-2"⟩ : CreatedIssue)) := rfl
  have isRequested : shopTestCases[0]? = some shopTestCases[0] := rfl
  have read := (aligned _ _ partialAnswer "SHOP-1").readBack _ (List.mem_of_getElem? isMade)
  rw [readBack_eq partialAnswer "SHOP-1" isMade isRequested] at read
  exact absurd read (by decide)

end XrayServer

end QuAIA.Services.XrayClient
