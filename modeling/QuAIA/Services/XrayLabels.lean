import QuAIA.Library.Dict
import QuAIA.Services.XrayTests
import Mathlib.Data.List.Count

/-!
Contract: the tests of an execution run, by their labels.

Owns: the grouping of `fetch_ready_for_execution_test_cases_by_labels`, and when no matching test
is left out of a group or entered twice.

Does not own: the query language; the tests that match are those that the server finds for the
text of the query.
-/

set_option autoImplicit false

namespace QuAIA.Services.XrayClient

open QuAIA.Common
open QuAIA.Library

/-! ## `fetch_ready_for_execution_test_cases_by_labels` -/

def readyForExecutionJql (projectKey : String) (targetLabels : List String) : String :=
  "project = " ++ projectKey ++ " AND labels in (" ++
    ", ".intercalate (targetLabels.map fun label => "\"" ++ label ++ "\"") ++ ")"

/-- `test_cases_by_label[label].append(tc)`. -/
def appendToLabel (tc : TestCase) (testCasesByLabel : Dict String (List TestCase))
    (label : String) : Dict String (List TestCase) :=
  testCasesByLabel.set label (testCasesByLabel.getD label [] ++ [tc])

/-- The turn of the loop for one test case. -/
def groupTestCase (targetLabels : List String)
    (testCasesByLabel : Dict String (List TestCase)) (tc : TestCase) :
    Dict String (List TestCase) :=
  (tc.labels.filter fun label => targetLabels.contains label).foldl (appendToLabel tc)
    testCasesByLabel

def fetchReadyForExecutionTestCasesByLabels (server : XrayServer) (projectKey : String)
    (targetLabels : List String) : Dict String (List TestCase) :=
  (fetchTestCasesByJql server (readyForExecutionJql projectKey targetLabels)).foldl
    (groupTestCase targetLabels) Dict.empty

/-! ## What a label collects -/

/-- The test cases in turn, each as often as it lists the label. -/
def collected (label : String) (testCases : List TestCase) : List TestCase :=
  testCases.flatMap fun tc => List.replicate (tc.labels.count label) tc

theorem getD_appendToLabel (tc : TestCase) (testCasesByLabel : Dict String (List TestCase))
    (label other : String) :
    (appendToLabel tc testCasesByLabel label).getD other [] =
      testCasesByLabel.getD other [] ++ if other = label then [tc] else [] := by
  rw [appendToLabel, Dict.getD, Dict.get?_set]
  split
  next same => rw [same, Option.getD_some]
  next => rw [List.append_nil, Dict.getD]

theorem getD_foldl_appendToLabel (tc : TestCase) (labels : List String) (label : String)
    (testCasesByLabel : Dict String (List TestCase)) :
    (labels.foldl (appendToLabel tc) testCasesByLabel).getD label [] =
      testCasesByLabel.getD label [] ++ List.replicate (labels.count label) tc := by
  induction labels generalizing testCasesByLabel with
  | nil => exact (List.append_nil _).symm
  | cons head rest inductionHypothesis =>
      rw [List.foldl_cons, inductionHypothesis, getD_appendToLabel, List.append_assoc,
        List.count_cons]
      by_cases same : label = head
      · rw [if_pos same, if_pos (beq_iff_eq.mpr same.symm), Nat.add_comm, List.replicate_add]
        rfl
      · rw [if_neg same, if_neg (fun isHead => same (beq_iff_eq.mp isHead).symm)]
        rfl

/-- Under a target label the test cases are entered as often as they list it. -/
theorem getD_foldl_groupTestCase {targetLabels : List String} {label : String}
    (isTarget : label ∈ targetLabels) (testCases : List TestCase)
    (testCasesByLabel : Dict String (List TestCase)) :
    (testCases.foldl (groupTestCase targetLabels) testCasesByLabel).getD label [] =
      testCasesByLabel.getD label [] ++ collected label testCases := by
  induction testCases generalizing testCasesByLabel with
  | nil => exact (List.append_nil _).symm
  | cons tc rest inductionHypothesis =>
      have wanted : targetLabels.contains label = true := List.contains_iff_mem.mpr isTarget
      rw [List.foldl_cons, inductionHypothesis, groupTestCase, getD_foldl_appendToLabel,
        List.count_filter wanted, List.append_assoc]
      rfl

theorem count_collected {testCases : List TestCase} (distinct : testCases.Nodup)
    (label : String) (tc : TestCase) :
    (collected label testCases).count tc = if tc ∈ testCases then tc.labels.count label else 0 := by
  induction testCases with
  | nil => rfl
  | cons head rest inductionHypothesis =>
      have later := inductionHypothesis distinct.of_cons
      rw [collected] at later ⊢
      rw [List.flatMap_cons, List.count_append, List.count_replicate, later]
      by_cases same : head = tc
      · subst same
        simp [(List.nodup_cons.mp distinct).1]
      · simp [same, Ne.symm same]

/-! ## Completeness -/

namespace XrayServer

section Labels

variable (server : XrayServer) (projectKey : String) (targetLabels : List String)

/-- The tests that the server has for the query. -/
def ready : List StoredTest := server.matching (readyForExecutionJql projectKey targetLabels)

def carries (label : String) (test : StoredTest) : Bool := (readTest test).labels.contains label

/-- Under every target label there is each matching test that carries it, exactly once. -/
def Complete : Prop :=
  ∀ label ∈ targetLabels,
    ((fetchReadyForExecutionTestCasesByLabels server projectKey targetLabels).getD label []).Perm
      (((server.ready projectKey targetLabels).filter (carries label)).map readTest)

/-- A matching test that carries a target label is among the first hundred, and lists it once. -/
def WithinLimit : Prop :=
  ∀ label ∈ targetLabels, ∀ test ∈ server.ready projectKey targetLabels,
    label ∈ (readTest test).labels →
      test ∈ (server.ready projectKey targetLabels).take maxResults ∧
        (readTest test).labels.count label = 1

variable {server projectKey targetLabels}

theorem getD_fetchReady {label : String} (isTarget : label ∈ targetLabels) :
    (fetchReadyForExecutionTestCasesByLabels server projectKey targetLabels).getD label [] =
      collected label
        (((server.ready projectKey targetLabels).take maxResults).map readTest) := by
  rw [fetchReadyForExecutionTestCasesByLabels, getD_foldl_groupTestCase isTarget]
  rfl

/-- Tests are told apart by what is read of them. -/
theorem readTest_injOn {test other : StoredTest} (isTest : test ∈ server.tests)
    (isOther : other ∈ server.tests) (same : readTest test = readTest other) : test = other := by
  have sameId : test.issueId = other.issueId :=
    Option.some.inj (congrArg TestCase.key same)
  exact List.inj_on_of_nodup_map server.distinct isTest isOther sameId

theorem mem_tests_of_ready {test : StoredTest}
    (member : test ∈ server.ready projectKey targetLabels) : test ∈ server.tests :=
  (List.mem_filter.mp member).1

theorem nodup_map_readTest {tests : List StoredTest} (fromServer : tests.Sublist server.tests) :
    (tests.map readTest).Nodup := by
  have distinct : server.tests.Nodup := server.distinct.of_map
  exact (distinct.sublist fromServer).map_on fun test isTest other isOther same =>
    readTest_injOn (fromServer.subset isTest) (fromServer.subset isOther) same

theorem sublist_ready : (server.ready projectKey targetLabels).Sublist server.tests :=
  List.filter_sublist

/-- **Labels of a run.** No matching test is left out or entered twice exactly when those that
carry a target label are among the first hundred and list it once. -/
theorem complete_iff :
    Complete server projectKey targetLabels ↔ WithinLimit server projectKey targetLabels := by
  have fromServer : (server.ready projectKey targetLabels).Sublist server.tests := sublist_ready
  have fetchedNodup := nodup_map_readTest ((List.take_sublist maxResults _).trans fromServer)
  have carryingNodup := fun label =>
    nodup_map_readTest ((List.filter_sublist (p := carries label)).trans fromServer)
  refine forall₂_congr fun label isTarget => ?_
  rw [getD_fetchReady isTarget, List.perm_iff_count]
  simp only [count_collected fetchedNodup]
  constructor
  · intro sameCounts test isReady isCarried
    have entered : readTest test ∈
        ((server.ready projectKey targetLabels).filter (carries label)).map readTest :=
      List.mem_map_of_mem (List.mem_filter.mpr ⟨isReady, List.contains_iff_mem.mpr isCarried⟩)
    have once := sameCounts (readTest test)
    rw [List.count_eq_one_of_mem (carryingNodup label) entered] at once
    split at once
    next isFetched =>
      obtain ⟨other, isTaken, same⟩ := List.mem_map.mp isFetched
      have sameTest : other = test :=
        readTest_injOn (mem_tests_of_ready (List.mem_of_mem_take isTaken))
          (mem_tests_of_ready isReady) same
      exact ⟨sameTest ▸ isTaken, once⟩
    next => cases once
  · intro within tc
    by_cases entered : tc ∈
        ((server.ready projectKey targetLabels).filter (carries label)).map readTest
    · rw [List.count_eq_one_of_mem (carryingNodup label) entered]
      obtain ⟨test, isCarrying, rfl⟩ := List.mem_map.mp entered
      obtain ⟨isReady, isCarried⟩ := List.mem_filter.mp isCarrying
      obtain ⟨isTaken, once⟩ := within test isReady (List.contains_iff_mem.mp isCarried)
      rw [if_pos (List.mem_map_of_mem isTaken), once]
    · rw [List.count_eq_zero_of_not_mem entered]
      split
      next isFetched =>
        obtain ⟨test, isTaken, rfl⟩ := List.mem_map.mp isFetched
        refine List.count_eq_zero_of_not_mem fun isCarried => entered ?_
        exact List.mem_map_of_mem (List.mem_filter.mpr
          ⟨List.mem_of_mem_take isTaken, List.contains_iff_mem.mpr isCarried⟩)
      next => rfl

end Labels

theorem toString_injective : Function.Injective fun index : Nat => toString index := by
  intro first second same
  have sameText : toString first = toString second := same
  have digits : Nat.toDigits 10 first = Nat.toDigits 10 second := by
    rw [← Nat.toList_repr, ← Nat.toList_repr, ← Nat.toString_eq_repr, ← Nat.toString_eq_repr,
      sameText]
  rw [← Nat.ofDigitChars_ten_toDigits (n := first), digits, Nat.ofDigitChars_ten_toDigits]

theorem nodup_toString (size : Nat) : ((List.range size).map fun i => toString i).Nodup :=
  List.nodup_range.map toString_injective

/-- As many tests with one label, all found by every query. -/
def smokeShop (size : Nat)
    (distinct : ((List.range size).map fun i => toString i).Nodup) : XrayServer where
  tests := (List.range size).map fun i =>
    ⟨toString i, some [], some ⟨some "test", none, none, some ["smoke"]⟩⟩
  selects _ _ := true
  distinct := by
    rw [List.map_map]
    exact distinct

/-- Of 101 matching tests one is left out. -/
theorem smokeShop_incomplete :
    ¬∀ (server : XrayServer) (projectKey : String) (targetLabels : List String),
      targetLabels.Nodup → Complete server projectKey targetLabels := by
  intro complete
  have grouped := complete (smokeShop 101 (nodup_toString 101)) "SHOP" ["smoke"]
    (List.nodup_singleton "smoke") "smoke" (List.mem_singleton_self "smoke")
  exact absurd grouped.length_eq (by decide +kernel)

end XrayServer

end QuAIA.Services.XrayClient
