import QuAIA.Library.Dict
import QuAIA.Library.Substring
import QuAIA.Services.ZephyrClient

/-!
Contract: the test cases that are read back from Zephyr.

Owns: `_parse_tc_json` with the decoding of steps, and for which steps it undoes the encoding
of `create_test_cases`; the search of `fetch_ready_for_execution_test_cases_by_labels` with
its paging, and when it ends with all the test cases it is to find.

Does not own: failed requests and their retries. The server answers every request here; an
inline field that is `null` where only a missing one is handled is left out.
-/

set_option autoImplicit false

namespace QuAIA.Services

open QuAIA.Common
open QuAIA.Library

/-! ## `_parse_tc_json` -/

/-- `step.get("inline", {})`; `none` is a field that is missing. -/
structure InlineStep where
  description : Option String
  expectedResult : Option String
  testData : Option String
deriving DecidableEq, Repr

/-- `text.split("<br>")`. -/
def splitLineBreaks (text : String) : List String :=
  (Substring.splitOn "<br>".toList text.toList).map String.ofList

def parseStep (inlineData : InlineStep) : TestStep where
  action := inlineData.description.getD ""
  expectedResults := (inlineData.expectedResult.getD "").replace "<br>" "\n"
  testData := splitLineBreaks (inlineData.testData.getD "")

/-- The fields of a test case that the client reads. `statusId` is `tc["status"]["id"]`. -/
structure ZephyrTestCase where
  key : String
  name : Option String
  objective : Option String
  precondition : Option String
  labels : Option (List String)
  statusId : Option Int
deriving DecidableEq, Repr

/-- `_parse_tc_json`, with the steps that the server answers. -/
def parseTcJson (issueKey : Option String) (tc : ZephyrTestCase) (values : List InlineStep) :
    TestCase where
  key := some tc.key
  labels := tc.labels.getD []
  name := tc.name.getD ""
  summary := tc.objective.getD ""
  comment := ""
  preconditions := tc.precondition
  steps := values.map parseStep
  parentIssueKey := issueKey

/-! ## Steps that come back -/

/-- The server stores the uploaded fields as they are. -/
def StepPayload.stored (payload : StepPayload) : InlineStep :=
  ⟨some payload.description, some payload.expectedResult, some payload.testData⟩

/-- No text has a line break that the other side writes, the test data have none of either
kind, and there are some. -/
structure Survives (step : TestStep) : Prop where
  expectedResults : ¬ "<br>".toList <:+: step.expectedResults.toList
  some : step.testData ≠ []
  testData : ∀ item ∈ step.testData, '\n' ∉ item.toList ∧ ¬ "<br>".toList <:+: item.toList

theorem lineBreak_ne_nil : "<br>".toList ≠ [] := by decide

theorem lineBreak_unbordered : Substring.Unbordered "<br>".toList := by decide

theorem newline_not_mem_lineBreak : '\n' ∉ "<br>".toList := by decide

theorem expectedResults_iff (text : String) :
    (text.replace "\n" "<br>").replace "<br>" "\n" = text ↔
      ¬ "<br>".toList <:+: text.toList := by
  have newline : "\n".toList = ['\n'] := rfl
  rw [← String.toList_inj, Substring.toList_replace (by decide),
    Substring.toList_replace (by decide), newline]
  exact Substring.replace_replace_iff lineBreak_ne_nil lineBreak_unbordered
    newline_not_mem_lineBreak text.toList

theorem testData_iff (items : List String) :
    splitLineBreaks (("<br>".intercalate items).replace "\n" "") = items ↔
      items ≠ [] ∧ ∀ item ∈ items, '\n' ∉ item.toList ∧ ¬ "<br>".toList <:+: item.toList := by
  have newline : "\n".toList = ['\n'] := rfl
  have empty : "".toList = [] := rfl
  have pieces := Substring.splitOn_remove_iff lineBreak_ne_nil lineBreak_unbordered
    newline_not_mem_lineBreak (items.map String.toList)
  have back : ∀ texts : List (List Char),
      texts.map String.ofList = items ↔ texts = items.map String.toList := by
    intro texts
    constructor
    · rintro rfl
      simp
    · rintro rfl
      simp
  rw [splitLineBreaks, Substring.toList_replace (by decide), String.toList_intercalate, newline,
    empty, back, pieces]
  simp

theorem parseStep_iff (step : TestStep) :
    parseStep (stepPayload step).stored = step ↔ Survives step := by
  obtain ⟨action, expectedResults, testData⟩ := step
  have expected := expectedResults_iff expectedResults
  have data := testData_iff testData
  simp only [parseStep, StepPayload.stored, stepPayload, Option.getD_some, TestStep.mk.injEq,
    true_and, expected, data]
  constructor
  · rintro ⟨clean, some, items⟩
    exact ⟨clean, some, items⟩
  · rintro ⟨clean, some, items⟩
    exact ⟨clean, some, items⟩

/-- **Steps come back** exactly when each of them survives. -/
theorem parse_uploaded_iff (issueKey : Option String) (tc : ZephyrTestCase)
    (steps : List TestStep) :
    (parseTcJson issueKey tc ((steps.map stepPayload).map StepPayload.stored)).steps = steps ↔
      ∀ step ∈ steps, Survives step := by
  have each : (parseTcJson issueKey tc ((steps.map stepPayload).map StepPayload.stored)).steps =
      steps.map fun step => parseStep (stepPayload step).stored := by
    simp [parseTcJson, Function.comp_def]
  have mapped : (steps.map fun step => parseStep (stepPayload step).stored) = steps ↔
      ∀ step ∈ steps, parseStep (stepPayload step).stored = id step := by
    conv_lhs => rhs; rw [← List.map_id steps]
    exact List.map_inj_left
  rw [each, mapped]
  constructor
  · intro same step member
    exact (parseStep_iff step).mp (same step member)
  · intro survive step member
    exact (parseStep_iff step).mpr (survive step member)

/-- A step without test data comes back with an empty text. -/
theorem empty_testData_changed :
    (parseTcJson none ⟨"P-T1", none, none, none, none, none⟩
        (([⟨"Open the page", "It is shown", []⟩].map stepPayload).map
          StepPayload.stored)).steps ≠ [⟨"Open the page", "It is shown", []⟩] := by
  intro same
  have data : splitLineBreaks (("<br>".intercalate []).replace "\n" "") = [] :=
    congrArg TestStep.testData (List.head_eq_of_cons_eq same)
  exact ((testData_iff []).mp data).1 rfl

/-! ## The server -/

structure ZephyrStatus where
  id : Option Int
  name : Option String
  archived : Bool
deriving DecidableEq, Repr

/-- The parameters of a search. -/
structure SearchParams where
  projectKey : String
  maxResults : Nat
  startAt : Nat
deriving DecidableEq, Repr

/-- An answer to a search. -/
structure Page where
  maxResults : Nat
  values : List ZephyrTestCase
  isLast : Bool
deriving DecidableEq, Repr

/-- What a server has of a project, and the most test cases that it puts on a page. -/
structure Catalogue where
  testCases : List ZephyrTestCase
  statuses : List ZephyrStatus
  testSteps : String → List InlineStep
  pageSize : Nat

/-- The page that the parameters select. The last one has the last test case. -/
def Catalogue.page (catalogue : Catalogue) (params : SearchParams) : Page :=
  let size := min params.maxResults catalogue.pageSize
  { maxResults := size
    values := (catalogue.testCases.drop params.startAt).take size
    isLast := decide (catalogue.testCases.length ≤ params.startAt + size) }

/-! ## The search -/

/-- `TEST_FOR_EXECUTION_READY_STATUS_NAME`. -/
def readyStatusName : String := "Approved"

/-- `_get_test_case_status_id_by_name`. Lowering is that of ASCII: no other character is
lowered to one of the name. -/
def getTestCaseStatusIdByName (statuses : List ZephyrStatus) (statusName : String) :
    Except PyError Int :=
  let found := statuses.find? fun status =>
    decide ((status.name.getD "").toLower = statusName.toLower) && !status.archived
  match found.bind ZephyrStatus.id with
  | none => .error (.exception s!"Status '{statusName}' is not a valid test case status.")
  | some id =>
      if id = 0 then
        .error (.exception s!"Status '{statusName}' is not a valid test case status.")
      else .ok id

section Search

variable (catalogue : Catalogue) (targetLabels : List String)

/-- `self._parse_tc_json(client, None, tc)`. -/
def Catalogue.parse (tc : ZephyrTestCase) : TestCase :=
  parseTcJson none tc (catalogue.testSteps tc.key)

/-- The loop over the target labels for one test case. -/
def addToLabels (found : Dict String (List TestCase)) (tc : ZephyrTestCase) :
    Dict String (List TestCase) :=
  targetLabels.foldl (fun found targetLabel =>
    if targetLabel ∈ tc.labels.getD [] then
      found.set targetLabel (found.getD targetLabel [] ++ [catalogue.parse tc])
    else found) found

/-- The loop over the test cases of one page. -/
def collectPage (targetStatusId : Int) (found : Dict String (List TestCase))
    (values : List ZephyrTestCase) : Dict String (List TestCase) :=
  values.foldl (fun found tc =>
    if tc.statusId = some targetStatusId then addToLabels catalogue targetLabels found tc
    else found) found

/-- The loop over the pages; `none` when the fuel is used up. The parameters are made before
the loop, which only moves its own `start_at`. -/
def fetchPages (targetStatusId : Int) (params : SearchParams) :
    Nat → Nat → Nat → Dict String (List TestCase) → Option (Dict String (List TestCase))
  | 0, _, _, _ => none
  | fuel + 1, startAt, maxResults, found =>
      let data := catalogue.page params
      let maxResults := if data.maxResults = 0 then maxResults else data.maxResults
      let found := collectPage catalogue targetLabels targetStatusId found data.values
      if data.isLast then some found
      else fetchPages targetStatusId params fuel (startAt + maxResults) maxResults found

/-- `fetch_ready_for_execution_test_cases_by_labels`, with fuel for its pages. -/
def fetchReadyForExecutionTestCasesByLabels (projectKey : String) (maxResults : Nat)
    (fuel : Nat) : Option (Except PyError (Dict String (List TestCase))) :=
  match getTestCaseStatusIdByName catalogue.statuses readyStatusName with
  | .error error => some (.error error)
  | .ok targetStatusId =>
      (fetchPages catalogue targetLabels targetStatusId ⟨projectKey, maxResults, 0⟩ fuel 0
        maxResults .empty).map .ok

end Search

/-! ## What is found -/

section Found

variable {catalogue : Catalogue} {targetLabels : List String} {targetStatusId : Int}

/-- A test case is to be found under a label. -/
def ZephyrTestCase.Ready (targetStatusId : Int) (label : String) (tc : ZephyrTestCase) : Prop :=
  tc.statusId = some targetStatusId ∧ label ∈ tc.labels.getD []

instance (targetStatusId : Int) (label : String) :
    DecidablePred (ZephyrTestCase.Ready targetStatusId label) :=
  fun _ => instDecidableAnd

/-- The test cases to be found under a label. -/
def Catalogue.ready (catalogue : Catalogue) (targetStatusId : Int) (label : String) :
    List TestCase :=
  (catalogue.testCases.filter fun tc => decide (tc.Ready targetStatusId label)).map
    catalogue.parse

/-- The search ends. Under each target label it has found the approved test cases of the whole
catalogue with that label, each once, and nothing under another label. -/
def Fetches (catalogue : Catalogue) (projectKey : String) (targetLabels : List String)
    (maxResults : Nat) : Prop :=
  ∃ targetStatusId fuel found,
    getTestCaseStatusIdByName catalogue.statuses readyStatusName = .ok targetStatusId ∧
      fetchReadyForExecutionTestCasesByLabels catalogue targetLabels projectKey maxResults fuel =
        some (.ok found) ∧
      ∀ label, found.getD label [] =
        if label ∈ targetLabels then catalogue.ready targetStatusId label else []

theorem addToLabels_getD (distinct : targetLabels.Nodup) (found : Dict String (List TestCase))
    (tc : ZephyrTestCase) (label : String) :
    (addToLabels catalogue targetLabels found tc).getD label [] =
      found.getD label [] ++
        if label ∈ targetLabels ∧ label ∈ tc.labels.getD [] then [catalogue.parse tc] else [] := by
  unfold addToLabels
  induction targetLabels generalizing found with
  | nil => simp
  | cons first rest inductionHypothesis =>
      obtain ⟨absent, distinctRest⟩ := List.nodup_cons.mp distinct
      rw [List.foldl_cons, inductionHypothesis distinctRest]
      by_cases same : label = first
      · subst same
        by_cases carries : label ∈ tc.labels.getD []
        · simp [carries, absent, Dict.getD]
        · simp [carries]
      · have unchanged : ∀ cases, (found.set first cases).getD label [] = found.getD label [] := by
          intro cases
          rw [Dict.getD, Dict.get?_set_other _ _ same, Dict.getD]
        split
        · rw [unchanged]
          simp [same]
        · simp [same]

theorem collectPage_getD (distinct : targetLabels.Nodup) (found : Dict String (List TestCase))
    (values : List ZephyrTestCase) (label : String) :
    (collectPage catalogue targetLabels targetStatusId found values).getD label [] =
      found.getD label [] ++
        if label ∈ targetLabels then
          (values.filter fun tc => decide (tc.Ready targetStatusId label)).map catalogue.parse
        else [] := by
  unfold collectPage
  induction values generalizing found with
  | nil => simp
  | cons tc rest inductionHypothesis =>
      rw [List.foldl_cons, inductionHypothesis, List.filter_cons]
      by_cases approved : tc.statusId = some targetStatusId
      · rw [if_pos approved, addToLabels_getD distinct]
        by_cases target : label ∈ targetLabels
        · by_cases carries : label ∈ tc.labels.getD []
          · simp [target, carries, ZephyrTestCase.Ready, approved]
          · simp [target, carries, ZephyrTestCase.Ready]
        · simp [target]
      · simp [approved, ZephyrTestCase.Ready]

/-- More than one page is never the last. -/
theorem fetchPages_eq_none {params : SearchParams} (isFirst : params.startAt = 0)
    (more : min params.maxResults catalogue.pageSize < catalogue.testCases.length) (fuel : Nat)
    (startAt maxResults : Nat) (found : Dict String (List TestCase)) :
    fetchPages catalogue targetLabels targetStatusId params fuel startAt maxResults found =
      none := by
  have notLast : (catalogue.page params).isLast = false := by
    rw [Catalogue.page, decide_eq_false_iff_not, isFirst]
    omega
  induction fuel generalizing startAt maxResults found with
  | zero => rfl
  | succ fuel inductionHypothesis =>
      rw [fetchPages, notLast]
      exact inductionHypothesis _ _ _

theorem fetchReady_eq_none {maxResults : Nat}
    (approved : getTestCaseStatusIdByName catalogue.statuses readyStatusName =
      .ok targetStatusId)
    (more : min maxResults catalogue.pageSize < catalogue.testCases.length)
    (projectKey : String) (fuel : Nat) :
    fetchReadyForExecutionTestCasesByLabels catalogue targetLabels projectKey maxResults fuel =
      none := by
  have never : fetchPages catalogue targetLabels targetStatusId ⟨projectKey, maxResults, 0⟩
      fuel 0 maxResults .empty = none := fetchPages_eq_none rfl more fuel 0 maxResults .empty
  rw [fetchReadyForExecutionTestCasesByLabels, approved]
  dsimp only
  rw [never]
  rfl

/-- **The search is complete** exactly when there is an approved status and all test cases
are on the first page. -/
theorem fetches_iff (catalogue : Catalogue) (projectKey : String) (targetLabels : List String)
    (distinct : targetLabels.Nodup) (maxResults : Nat) :
    Fetches catalogue projectKey targetLabels maxResults ↔
      (∃ targetStatusId, getTestCaseStatusIdByName catalogue.statuses readyStatusName =
          .ok targetStatusId) ∧
        catalogue.testCases.length ≤ min maxResults catalogue.pageSize := by
  constructor
  · rintro ⟨targetStatusId, fuel, found, approved, fetched, -⟩
    refine ⟨⟨targetStatusId, approved⟩, Nat.le_of_not_lt fun more => ?_⟩
    rw [fetchReady_eq_none approved more] at fetched
    cases fetched
  · rintro ⟨⟨targetStatusId, approved⟩, fits⟩
    have last : (catalogue.page ⟨projectKey, maxResults, 0⟩).isLast = true := by
      rw [Catalogue.page, decide_eq_true_iff]
      dsimp only
      omega
    have all : (catalogue.page ⟨projectKey, maxResults, 0⟩).values = catalogue.testCases :=
      List.take_of_length_le fits
    refine ⟨targetStatusId, 1, collectPage catalogue targetLabels targetStatusId .empty
      catalogue.testCases, approved, ?_, ?_⟩
    · rw [fetchReadyForExecutionTestCasesByLabels, approved]
      dsimp only
      rw [fetchPages, last, all]
      rfl
    · intro label
      rw [collectPage_getD distinct]
      rfl

/-- Two approved test cases, and pages of the given size. -/
def smokeTests (pageSize : Nat) : Catalogue where
  testCases := [⟨"P-T1", some "Login", none, none, some ["smoke"], some 7⟩,
    ⟨"P-T2", some "Logout", none, none, some ["smoke"], some 7⟩]
  statuses := [⟨some 7, some "Approved", false⟩]
  testSteps := fun _ => []
  pageSize := pageSize

theorem fetches_smokeTests : Fetches (smokeTests 50) "P" ["smoke"] 100 :=
  (fetches_iff (smokeTests 50) "P" ["smoke"] (by decide) 100).mpr
    ⟨⟨7, by decide +kernel⟩, by decide⟩

/-- With one test case on a page, the first page is asked for again and again. -/
theorem search_never_ends :
    getTestCaseStatusIdByName (smokeTests 1).statuses readyStatusName = .ok 7 ∧
      ∀ fuel, fetchReadyForExecutionTestCasesByLabels (smokeTests 1) ["smoke"] "P" 100 fuel =
        none := by
  have approved : getTestCaseStatusIdByName (smokeTests 1).statuses readyStatusName = .ok 7 := by
    decide +kernel
  exact ⟨approved, fetchReady_eq_none approved (by decide) "P"⟩

end Found

end QuAIA.Services
