import QuAIA.Common.Models
import QuAIA.Library.Json.Fragments

/-!
Contract: test cases as JSON values, the way pydantic dumps and validates them.

Owns: `model_dump` of test steps, test cases and review requests, one validation that
takes every dump back, and the texts and names of a dump.

Does not own: the conversions of pydantic that no dump needs.
-/

set_option autoImplicit false

namespace QuAIA.Common

open QuAIA.Library

/-! ## Dumps -/

def dumpTexts (texts : List String) : Json := .array (texts.map Json.ofString)

def dumpOptional : Option String → Json
  | none => .null
  | some text => .ofString text

/-- `TestStep.model_dump`. -/
def TestStep.modelDump (step : TestStep) : Json :=
  .object [
    (Json.pointsOf "action", .ofString step.action),
    (Json.pointsOf "expected_results", .ofString step.expectedResults),
    (Json.pointsOf "test_data", dumpTexts step.testData)]

/-- `TestCase.model_dump`. -/
def TestCase.modelDump (testCase : TestCase) : Json :=
  .object [
    (Json.pointsOf "key", dumpOptional testCase.key),
    (Json.pointsOf "labels", dumpTexts testCase.labels),
    (Json.pointsOf "name", .ofString testCase.name),
    (Json.pointsOf "summary", .ofString testCase.summary),
    (Json.pointsOf "comment", .ofString testCase.comment),
    (Json.pointsOf "preconditions", dumpOptional testCase.preconditions),
    (Json.pointsOf "steps", .array (testCase.steps.map TestStep.modelDump)),
    (Json.pointsOf "parent_issue_key", dumpOptional testCase.parentIssueKey)]

/-! ## Validation -/

def validateTexts (value : Json) : Option (List String) := value.items?.bind (List.mapM Json.text?)

def validateOptional : Json → Option (Option String)
  | .null => some none
  | value => value.text?.map some

def TestStep.modelValidate (value : Json) : Option TestStep := do
  let action ← (value.field? (Json.pointsOf "action")).bind Json.text?
  let expectedResults ← (value.field? (Json.pointsOf "expected_results")).bind Json.text?
  let testData ← (value.field? (Json.pointsOf "test_data")).bind validateTexts
  return { action, expectedResults, testData }

def TestCase.modelValidate (value : Json) : Option TestCase := do
  let key ← (value.field? (Json.pointsOf "key")).bind validateOptional
  let labels ← (value.field? (Json.pointsOf "labels")).bind validateTexts
  let name ← (value.field? (Json.pointsOf "name")).bind Json.text?
  let summary ← (value.field? (Json.pointsOf "summary")).bind Json.text?
  let comment ← (value.field? (Json.pointsOf "comment")).bind Json.text?
  let preconditions ← (value.field? (Json.pointsOf "preconditions")).bind validateOptional
  let steps ← ((value.field? (Json.pointsOf "steps")).bind Json.items?).bind
    (List.mapM TestStep.modelValidate)
  let parentIssueKey ← (value.field? (Json.pointsOf "parent_issue_key")).bind validateOptional
  return { key, labels, name, summary, comment, preconditions, steps, parentIssueKey }

/-- A list is read back when each of its elements is. -/
theorem mapM_map {α : Type} {write : α → Json} {read : Json → Option α}
    (back : ∀ value, read (write value) = some value) (values : List α) :
    (values.map write).mapM read = some values := by
  induction values with
  | nil => rfl
  | cons value rest inductionHypothesis =>
      rw [List.map_cons, List.mapM_cons, back value, inductionHypothesis]
      rfl

theorem validateTexts_dumpTexts (texts : List String) :
    validateTexts (dumpTexts texts) = some texts :=
  mapM_map Json.text?_ofString texts

theorem validateOptional_dumpOptional (text : Option String) :
    validateOptional (dumpOptional text) = some text := by
  cases text with
  | none => rfl
  | some text =>
      have read := Json.text?_ofString text
      show (Json.ofString text).text?.map some = some (some text)
      rw [read]
      rfl

theorem TestStep.modelValidate_modelDump (step : TestStep) :
    TestStep.modelValidate step.modelDump = some step := by
  have action : step.modelDump.field? (Json.pointsOf "action") =
      some (.ofString step.action) := rfl
  have expectedResults : step.modelDump.field? (Json.pointsOf "expected_results") =
      some (.ofString step.expectedResults) := rfl
  have testData : step.modelDump.field? (Json.pointsOf "test_data") =
      some (dumpTexts step.testData) := rfl
  simp [TestStep.modelValidate, action, expectedResults, testData, Json.text?_ofString,
    validateTexts_dumpTexts]

theorem TestCase.modelValidate_modelDump (testCase : TestCase) :
    TestCase.modelValidate testCase.modelDump = some testCase := by
  have eachStep := mapM_map TestStep.modelValidate_modelDump testCase.steps
  have key : testCase.modelDump.field? (Json.pointsOf "key") =
      some (dumpOptional testCase.key) := rfl
  have labels : testCase.modelDump.field? (Json.pointsOf "labels") =
      some (dumpTexts testCase.labels) := rfl
  have name : testCase.modelDump.field? (Json.pointsOf "name") =
      some (.ofString testCase.name) := rfl
  have summary : testCase.modelDump.field? (Json.pointsOf "summary") =
      some (.ofString testCase.summary) := rfl
  have comment : testCase.modelDump.field? (Json.pointsOf "comment") =
      some (.ofString testCase.comment) := rfl
  have preconditions : testCase.modelDump.field? (Json.pointsOf "preconditions") =
      some (dumpOptional testCase.preconditions) := rfl
  have steps : testCase.modelDump.field? (Json.pointsOf "steps") =
      some (.array (testCase.steps.map TestStep.modelDump)) := rfl
  have parentIssueKey : testCase.modelDump.field? (Json.pointsOf "parent_issue_key") =
      some (dumpOptional testCase.parentIssueKey) := rfl
  simp only [TestCase.modelValidate, key, labels, name, summary, comment, preconditions, steps,
    parentIssueKey, Json.text?_ofString, validateTexts_dumpTexts, validateOptional_dumpOptional,
    Json.items?, Option.bind_some, eachStep]
  rfl

/-! ## What a dump is made of -/

theorem pointsOf_valid (text : String) : ∀ point ∈ Json.pointsOf text, point.isValidChar := by
  intro point member
  obtain ⟨character, _, rfl⟩ := List.mem_map.mp member
  exact character.valid

theorem writable_ofString (text : String) : Json.Writable (.ofString text) :=
  .string (pointsOf_valid text)

theorem writable_dumpTexts (texts : List String) : Json.Writable (dumpTexts texts) := by
  apply Json.Writable.array
  intro item member
  obtain ⟨text, _, rfl⟩ := List.mem_map.mp member
  exact writable_ofString text

theorem writable_dumpOptional (text : Option String) : Json.Writable (dumpOptional text) := by
  cases text with
  | none => exact .null
  | some text => exact writable_ofString text

theorem TestStep.writable_modelDump (step : TestStep) : Json.Writable step.modelDump := by
  apply Json.Writable.object
  · simp only [List.forall_mem_cons]
    exact ⟨pointsOf_valid _, pointsOf_valid _, pointsOf_valid _, by simp⟩
  · simp only [List.forall_mem_cons]
    exact ⟨writable_ofString _, writable_ofString _, writable_dumpTexts _, by simp⟩

theorem TestCase.writable_modelDump (testCase : TestCase) : Json.Writable testCase.modelDump := by
  have steps : Json.Writable (.array (testCase.steps.map TestStep.modelDump)) := by
    apply Json.Writable.array
    intro item member
    obtain ⟨step, _, rfl⟩ := List.mem_map.mp member
    exact step.writable_modelDump
  apply Json.Writable.object
  · simp only [List.forall_mem_cons]
    exact ⟨pointsOf_valid _, pointsOf_valid _, pointsOf_valid _, pointsOf_valid _,
      pointsOf_valid _, pointsOf_valid _, pointsOf_valid _, pointsOf_valid _, by simp⟩
  · simp only [List.forall_mem_cons]
    exact ⟨writable_dumpOptional _, writable_dumpTexts _, writable_ofString _,
      writable_ofString _, writable_ofString _, writable_dumpOptional _, steps,
      writable_dumpOptional _, by simp⟩

def TestStep.fieldNames : List String := ["action", "expected_results", "test_data"]

def TestCase.fieldNames : List String :=
  ["key", "labels", "name", "summary", "comment", "preconditions", "steps", "parent_issue_key"]

theorem allNames_dumpTexts (texts : List String) : Json.allNames (dumpTexts texts) = [] := by
  show Json.allNamesOfItems (texts.map Json.ofString) = []
  induction texts with
  | nil => rfl
  | cons text rest inductionHypothesis => exact inductionHypothesis

theorem allNames_dumpOptional (text : Option String) : Json.allNames (dumpOptional text) = [] := by
  cases text <;> rfl

theorem TestStep.allNames_modelDump (step : TestStep) :
    Json.allNames step.modelDump = TestStep.fieldNames.map Json.pointsOf := by
  simp [TestStep.modelDump, Json.allNames, Json.allNamesOfFields, Json.ofString,
    allNames_dumpTexts, TestStep.fieldNames]

theorem TestCase.allNames_modelDump (testCase : TestCase) :
    Json.allNames testCase.modelDump =
      ["key", "labels", "name", "summary", "comment", "preconditions", "steps"].map
          Json.pointsOf ++
        (Json.allNamesOfItems (testCase.steps.map TestStep.modelDump) ++
          [Json.pointsOf "parent_issue_key"]) := by
  simp [TestCase.modelDump, Json.allNames, Json.allNamesOfFields, Json.ofString,
    allNames_dumpTexts, allNames_dumpOptional]

/-- A dump has no names but those of its fields. -/
theorem TestCase.mem_fieldNames (testCase : TestCase) {name : List Nat}
    (member : name ∈ Json.allNames testCase.modelDump) :
    ∃ field ∈ TestCase.fieldNames ++ TestStep.fieldNames, Json.pointsOf field = name := by
  rw [testCase.allNames_modelDump] at member
  rcases List.mem_append.mp member with inCase | later
  · obtain ⟨field, inFields, same⟩ := List.mem_map.mp inCase
    have known : ["key", "labels", "name", "summary", "comment", "preconditions", "steps"] ⊆
        TestCase.fieldNames ++ TestStep.fieldNames := by
      simp [TestCase.fieldNames]
    exact ⟨field, known inFields, same⟩
  rcases List.mem_append.mp later with inSteps | isParent
  · obtain ⟨item, inItems, named⟩ := Json.mem_allNamesOfItems inSteps
    obtain ⟨step, _, rfl⟩ := List.mem_map.mp inItems
    rw [step.allNames_modelDump] at named
    obtain ⟨field, inFields, same⟩ := List.mem_map.mp named
    exact ⟨field, List.mem_append_right _ inFields, same⟩
  · exact ⟨"parent_issue_key", by simp [TestCase.fieldNames],
      (List.mem_singleton.mp isParent).symm⟩

end QuAIA.Common
