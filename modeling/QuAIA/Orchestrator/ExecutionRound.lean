import QuAIA.Library.Grouping
import QuAIA.Orchestrator.TestGroup.Conservation

/-!
Contract: the execution of all automated tests of a project (`execute_tests` from the fetched tests
to the collected results).

Owns: the grouping of the tests by label; the selection of agents for each label; the groups, which
run next to each other and to other actors; and that, when all groups have returned, every test is
reported exactly once for each of its labels that was served.

Does not own: the steps inside a group, and the answers of the routing model, which are arguments
of the steps. No task is cancelled.
-/

set_option autoImplicit false

namespace QuAIA.Orchestrator

open QuAIA.Common
open QuAIA.Library

/-! ## Grouping -/

/-- `OrchestratorConfig.AUTOMATED_TC_LABEL`. -/
def automatedTcLabel : String := "automated"

/-- The turn of `_group_test_cases_by_labels` for one test case. -/
def groupByLabels (groupedTestCases : Dict String (List TestCase)) (tc : TestCase) :
    Dict String (List TestCase) :=
  tc.labels.foldl
    (fun grouped label =>
      if label ≠ automatedTcLabel then Grouping.append grouped (label, tc) else grouped)
    groupedTestCases

def groupTestCasesByLabels (automatedTestCases : List TestCase) : Dict String (List TestCase) :=
  automatedTestCases.foldl groupByLabels .empty

/-- Each test with each of its labels but the automated one, as often as it lists it. -/
def labelPairs (testCases : List TestCase) : List (String × TestCase) :=
  testCases.flatMap fun tc =>
    (tc.labels.filter fun label => label ≠ automatedTcLabel).map fun label => (label, tc)

theorem groupByLabels_eq (grouped : Dict String (List TestCase)) (tc : TestCase) :
    groupByLabels grouped tc = (labelPairs [tc]).foldl Grouping.append grouped := by
  rw [labelPairs, List.flatMap_singleton, List.foldl_map, List.foldl_filter]
  simp [groupByLabels]

theorem groupTestCasesByLabels_eq (testCases : List TestCase) :
    groupTestCasesByLabels testCases = Grouping.group (labelPairs testCases) := by
  have folded : ∀ grouped : Dict String (List TestCase),
      testCases.foldl groupByLabels grouped =
        (labelPairs testCases).foldl Grouping.append grouped := by
    induction testCases with
    | nil => exact fun _ => rfl
    | cons tc rest inductionHypothesis =>
        intro grouped
        have split : labelPairs (tc :: rest) = labelPairs [tc] ++ labelPairs rest := by
          simp [labelPairs]
        rw [List.foldl_cons, inductionHypothesis, groupByLabels_eq, split, List.foldl_append]
  exact folded .empty

/-! ## Selection -/

/-- Where the selection for one label is: not begun, waiting for the model with the agents that
were available, or over. -/
inductive SelectionPhase where
  | scheduled
  | asking (available : List AgentId)
  | selected (agentIds : List AgentId)

structure LabelSelection where
  label : String
  testCases : List TestCase
  phase : SelectionPhase

/-- `valid_agent_ids` of `_select_all_suitable_agent_ids`, after the model's answer. -/
def validAgentIds (registry : AgentRegistry) (available selectedAgentIds : List AgentId) :
    List AgentId :=
  selectedAgentIds.filter fun agentId => registry.contains agentId && available.contains agentId

/-- The agents of a label: a selection that raised has none. -/
def selectedForLabel (registry : AgentRegistry) (available : List AgentId)
    (answer : Except PyError (List AgentId)) : List AgentId :=
  match answer with
  | .ok selectedAgentIds => validAgentIds registry available selectedAgentIds
  | .error _ => []

/-! ## Execution -/

/-- Where the execution of one group is: not begun, returned at once because none of its agents is
registered, or under way and then returned. -/
inductive GroupCall where
  | scheduled (agentIds : List AgentId)
  | skipped
  | running (group : TestGroup)

structure LabelExecution where
  label : String
  testCases : List TestCase
  call : GroupCall

/-- The results of a group that has returned. -/
def LabelExecution.results? (execution : LabelExecution) : Option (List TestExecutionResult) :=
  match execution.call with
  | .scheduled _ => none
  | .skipped => some []
  | .running group => if group.phase = .returned then some group.results else none

def LabelExecution.isRunning (execution : LabelExecution) : Bool :=
  match execution.call with
  | .running _ => true
  | _ => false

inductive RoundPhase where
  | selecting (labels : List LabelSelection)
  | executing (groups : List LabelExecution)

/-- One call of `_request_all_test_cases_execution` with the state it shares with other actors. -/
structure ExecutionRound where
  shared : Shared
  phase : RoundPhase

inductive RoundEvent where
  | ask (index : Nat)
  | answered (index : Nat) (answer : Except PyError (List AgentId))
  | selectedAll
  | begin (index : Nat)
  | group (index : Nat) (now : Instant) (event : GroupEvent)
  | environment (shared : Shared)

/-- The labels for which agents were selected, when all selections are over. -/
def scheduledGroups : List LabelSelection → Option (List LabelExecution)
  | [] => some []
  | ⟨label, testCases, .selected agentIds⟩ :: rest =>
      (scheduledGroups rest).map fun groups =>
        if agentIds.isEmpty then groups else ⟨label, testCases, .scheduled agentIds⟩ :: groups
  | _ :: _ => none

namespace ExecutionRound

/-- With an empty registry no label gets an agent. -/
def start (shared : Shared) (grouped : Dict String (List TestCase)) :
    ExecutionRound :=
  if shared.registry.isEmpty then ⟨shared, .executing []⟩
  else ⟨shared, .selecting (grouped.entries.map fun entry => ⟨entry.1, entry.2, .scheduled⟩)⟩

def step (maxSlots : Nat) (round : ExecutionRound) : RoundEvent → Option ExecutionRound
  | .environment shared => some { round with shared := shared }
  | .ask index =>
      match round.phase with
      | .selecting labels =>
          match labels[index]? with
          | some ⟨label, testCases, .scheduled⟩ =>
              let available := round.shared.registry.getAvailableAgents maxSlots
              some { round with
                phase := .selecting (labels.set index ⟨label, testCases, .asking available⟩) }
          | _ => none
      | _ => none
  | .answered index answer =>
      match round.phase with
      | .selecting labels =>
          match labels[index]? with
          | some ⟨label, testCases, .asking available⟩ =>
              let agentIds := selectedForLabel round.shared.registry available answer
              some { round with
                phase := .selecting (labels.set index ⟨label, testCases, .selected agentIds⟩) }
          | _ => none
      | _ => none
  | .selectedAll =>
      match round.phase with
      | .selecting labels =>
          (scheduledGroups labels).map fun groups => { round with phase := .executing groups }
      | _ => none
  | .begin index =>
      match round.phase with
      | .executing groups =>
          match groups[index]? with
          | some ⟨label, testCases, .scheduled agentIds⟩ =>
              let call :=
                match executeTestGroup round.shared.registry label testCases agentIds with
                | none => GroupCall.skipped
                | some group => .running group
              some { round with phase := .executing (groups.set index ⟨label, testCases, call⟩) }
          | _ => none
      | _ => none
  | .group index now event =>
      match round.phase with
      | .executing groups =>
          match groups[index]? with
          | some ⟨label, testCases, .running group⟩ =>
              (group.step round.shared.registry now event).map fun (effects, next) =>
                ⟨round.shared.applyAll effects,
                  .executing (groups.set index ⟨label, testCases, .running next⟩)⟩
          | _ => none
      | _ => none

/-- `all_execution_results`, when every group has returned. -/
def allExecutionResults (round : ExecutionRound) : Option (List TestExecutionResult) :=
  match round.phase with
  | .selecting _ => none
  | .executing groups => (groups.mapM LabelExecution.results?).map List.flatten

/-- The labels whose groups have run. -/
def served (round : ExecutionRound) : List String :=
  match round.phase with
  | .selecting _ => []
  | .executing groups => (groups.filter LabelExecution.isRunning).map LabelExecution.label

end ExecutionRound

/-! ## The invariant -/

def LabelSelection.entry (selection : LabelSelection) : String × List TestCase :=
  (selection.label, selection.testCases)

def LabelExecution.entry (execution : LabelExecution) : String × List TestCase :=
  (execution.label, execution.testCases)

/-- A group that runs accounts for the tests of its label. -/
def LabelExecution.Accounted (execution : LabelExecution) : Prop :=
  ∀ group, execution.call = .running group →
    ∃ lost, Orchestrator.Accounted execution.testCases lost group

/-- The labels are those of the grouping, and every group accounts for its tests. -/
def RoundAccounted (grouped : Dict String (List TestCase)) (round : ExecutionRound) : Prop :=
  match round.phase with
  | .selecting labels => labels.map LabelSelection.entry = grouped.entries
  | .executing groups =>
      (groups.map LabelExecution.entry).Sublist grouped.entries ∧
        ∀ execution ∈ groups, execution.Accounted

section Invariant

variable {grouped : Dict String (List TestCase)} {round next : ExecutionRound}

theorem roundAccounted_start (shared : Shared) (grouped : Dict String (List TestCase)) :
    RoundAccounted grouped (.start shared grouped) := by
  unfold ExecutionRound.start
  split
  · exact ⟨List.nil_sublist _, fun _ member => absurd member List.not_mem_nil⟩
  · show (grouped.entries.map _).map _ = _
    rw [List.map_map]
    exact List.map_id _

theorem scheduledGroups_spec {labels : List LabelSelection} {groups : List LabelExecution}
    (scheduled : scheduledGroups labels = some groups) :
    (groups.map LabelExecution.entry).Sublist (labels.map LabelSelection.entry) ∧
      ∀ execution ∈ groups, execution.Accounted := by
  induction labels generalizing groups with
  | nil =>
      cases scheduled
      exact ⟨List.Sublist.refl _, fun _ member => absurd member List.not_mem_nil⟩
  | cons selection rest inductionHypothesis =>
      obtain ⟨label, testCases, phase⟩ := selection
      cases phase with
      | scheduled => cases scheduled
      | asking available => cases scheduled
      | selected agentIds =>
          obtain ⟨others, restScheduled, rfl⟩ := Option.map_eq_some_iff.mp scheduled
          obtain ⟨sublist, accounted⟩ := inductionHypothesis restScheduled
          by_cases none : agentIds.isEmpty = true
          · rw [if_pos none]
            exact ⟨sublist.cons _, accounted⟩
          · rw [if_neg none]
            refine ⟨sublist.cons_cons _, ?_⟩
            intro execution member
            rcases List.mem_cons.mp member with rfl | inRest
            · intro group isRunning
              cases isRunning
            · exact accounted execution inRest

/-- A selection that goes on keeps its label and its tests. -/
theorem RoundAccounted.select {shared : Shared} {labels : List LabelSelection} {index : Nat}
    {label : String} {testCases : List TestCase} {before after : SelectionPhase}
    (accounted : RoundAccounted grouped ⟨shared, .selecting labels⟩)
    (found : labels[index]? = some ⟨label, testCases, before⟩) :
    RoundAccounted grouped
      ⟨shared, .selecting (labels.set index ⟨label, testCases, after⟩)⟩ := by
  have same : (labels.set index ⟨label, testCases, after⟩).map LabelSelection.entry =
      labels.map LabelSelection.entry := map_set_of_same found rfl
  exact same.trans accounted

/-- A group that goes on keeps its label and its tests. -/
theorem RoundAccounted.execute {shared later : Shared} {groups : List LabelExecution} {index : Nat}
    {label : String} {testCases : List TestCase} {before after : GroupCall}
    (accounted : RoundAccounted grouped ⟨shared, .executing groups⟩)
    (found : groups[index]? = some ⟨label, testCases, before⟩)
    (kept : LabelExecution.Accounted ⟨label, testCases, after⟩) :
    RoundAccounted grouped
      ⟨later, .executing (groups.set index ⟨label, testCases, after⟩)⟩ := by
  obtain ⟨sublist, every⟩ := accounted
  refine ⟨?_, forall_mem_set every kept⟩
  have same : (groups.set index ⟨label, testCases, after⟩).map LabelExecution.entry =
      groups.map LabelExecution.entry := map_set_of_same found rfl
  exact same ▸ sublist

theorem RoundAccounted.step {maxSlots : Nat} {event : RoundEvent}
    (accounted : RoundAccounted grouped round) (stepped : round.step maxSlots event = some next) :
    RoundAccounted grouped next := by
  obtain ⟨shared, phase⟩ := round
  cases event with
  | environment other =>
      cases stepped
      exact accounted
  | ask index =>
      simp only [ExecutionRound.step] at stepped
      split at stepped
      · rename_i labels
        split at stepped
        · rename_i label testCases found
          cases stepped
          exact accounted.select found
        · cases stepped
      · cases stepped
  | answered index answer =>
      simp only [ExecutionRound.step] at stepped
      split at stepped
      · rename_i labels
        split at stepped
        · rename_i label testCases available found
          cases stepped
          exact accounted.select found
        · cases stepped
      · cases stepped
  | selectedAll =>
      simp only [ExecutionRound.step] at stepped
      split at stepped
      · rename_i labels
        obtain ⟨groups, scheduled, rfl⟩ := Option.map_eq_some_iff.mp stepped
        obtain ⟨sublist, every⟩ := scheduledGroups_spec scheduled
        have isEntries : labels.map LabelSelection.entry = grouped.entries := accounted
        exact ⟨isEntries ▸ sublist, every⟩
      · cases stepped
  | begin index =>
      simp only [ExecutionRound.step] at stepped
      split at stepped
      · rename_i groups
        split at stepped
        · rename_i label testCases agentIds found
          cases stepped
          refine accounted.execute found ?_
          intro group isRunning
          cases started : executeTestGroup shared.registry label testCases agentIds with
          | none =>
              rw [started] at isRunning
              cases isRunning
          | some other =>
              rw [started] at isRunning
              cases isRunning
              exact ⟨[], executeTestGroup_accounted started⟩
        · cases stepped
      · cases stepped
  | group index now event =>
      simp only [ExecutionRound.step] at stepped
      split at stepped
      · rename_i groups
        split at stepped
        · rename_i label testCases group found
          obtain ⟨⟨effects, moved⟩, isStep, rfl⟩ := Option.map_eq_some_iff.mp stepped
          refine accounted.execute found ?_
          intro other isRunning
          cases isRunning
          obtain ⟨lost, isAccounted⟩ := accounted.2 _ (List.mem_of_getElem? found) group rfl
          obtain ⟨gone, kept⟩ := isAccounted.step (TestGroup.stepped_of_step isStep)
          exact ⟨lost ++ gone, kept⟩
        · cases stepped
      · cases stepped

end Invariant

/-! ## The results -/

/-- The tests of the groups that have run. -/
def executedEntries (groups : List LabelExecution) : List (String × List TestCase) :=
  (groups.filter LabelExecution.isRunning).map LabelExecution.entry

theorem results_perm {groups : List LabelExecution} {nested : List (List TestExecutionResult)}
    (returned : groups.mapM LabelExecution.results? = some nested)
    (accounted : ∀ execution ∈ groups, execution.Accounted) :
    (nested.flatten.map (·.testCase)).Perm
      ((Grouping.pairsOf (executedEntries groups)).map fun pair => some pair.2) := by
  induction groups generalizing nested with
  | nil =>
      cases returned
      exact List.Perm.refl _
  | cons execution rest inductionHypothesis =>
      rw [List.mapM_cons] at returned
      obtain ⟨results, first, later⟩ := Option.bind_eq_some_iff.mp returned
      obtain ⟨others, restReturned, same⟩ := Option.bind_eq_some_iff.mp later
      cases same
      have rest' := inductionHypothesis restReturned
        (fun other member => accounted other (List.mem_cons_of_mem _ member))
      obtain ⟨label, testCases, call⟩ := execution
      cases call with
      | scheduled agentIds => cases first
      | skipped =>
          cases first
          exact rest'
      | running group =>
          simp only [LabelExecution.results?] at first
          split at first
          · rename_i isReturned
            cases first
            obtain ⟨lost, isAccounted⟩ := accounted _ List.mem_cons_self group rfl
            have reported := isAccounted.reported_of_returned isReturned
            show ((group.results ++ others.flatten).map _).Perm
              (((testCases.map fun item => (label, item)) ++
                Grouping.pairsOf (executedEntries rest)).map _)
            rw [List.map_append, List.map_append, List.map_map]
            exact reported.append rest'
          · cases first

/-- A part of the entries of a dictionary is what its keys select. -/
theorem filter_keys_perm {grouped : Dict String (List TestCase)}
    {entries : List (String × List TestCase)} (sublist : entries.Sublist grouped.entries) :
    entries.Perm (grouped.entries.filter fun entry => entry.1 ∈ entries.map Prod.fst) := by
  have distinct : grouped.entries.Nodup := grouped.nodup.of_map
  refine (List.perm_ext_iff_of_nodup (distinct.sublist sublist) (distinct.filter _)).mpr ?_
  intro entry
  rw [List.mem_filter, decide_eq_true_eq]
  constructor
  · intro member
    exact ⟨sublist.subset member, List.mem_map_of_mem member⟩
  · rintro ⟨inDict, listed⟩
    obtain ⟨other, member, sameKey⟩ := List.mem_map.mp listed
    have same : other = entry :=
      List.inj_on_of_nodup_map grouped.nodup (sublist.subset member) inDict sameKey
    exact same ▸ member

theorem pairsOf_filter (entries : List (String × List TestCase)) (keep : String → Bool) :
    Grouping.pairsOf (entries.filter fun entry => keep entry.1) =
      (Grouping.pairsOf entries).filter fun pair => keep pair.1 := by
  induction entries with
  | nil => rfl
  | cons entry rest inductionHypothesis =>
      rw [Grouping.pairsOf_cons, List.filter_append, ← inductionHypothesis]
      cases kept : keep entry.1 with
      | true => simp [kept, Grouping.pairsOf_cons, List.filter_map, Function.comp_def]
      | false => simp [kept, List.filter_map, Function.comp_def]

/-- **Once for each label that was served.** In every run in which the selections and the groups
are interleaved with each other and with other actors, whatever the model selects: when all groups
have returned, the reported tests are the automated tests, each exactly as often as it lists a label
whose group has run. -/
theorem execution_reports_each_label_once (maxSlots : Nat) (shared : Shared)
    (automatedTestCases : List TestCase) {events : List RoundEvent}
    {final : ExecutionRound} {results : List TestExecutionResult}
    (ran : StepSystem.run (ExecutionRound.step maxSlots)
      (.start shared (groupTestCasesByLabels automatedTestCases)) events = some final)
    (returned : final.allExecutionResults = some results) :
    (results.map (·.testCase)).Perm
      (((labelPairs automatedTestCases).filter fun pair => pair.1 ∈ final.served).map
        fun pair => some pair.2) := by
  let grouped := groupTestCasesByLabels automatedTestCases
  have accounted : RoundAccounted grouped final :=
    StepSystem.invariant_of_step
      (fun _ _ _ (holds : RoundAccounted grouped _) stepped => holds.step stepped)
      (roundAccounted_start shared grouped) ran
  obtain ⟨after, phase⟩ := final
  cases phase with
  | selecting labels => cases returned
  | executing groups =>
      obtain ⟨sublist, every⟩ := accounted
      obtain ⟨nested, isNested, rfl⟩ := Option.map_eq_some_iff.mp returned
      have pairs : (Grouping.pairsOf grouped.entries).Perm (labelPairs automatedTestCases) := by
        rw [show grouped = _ from groupTestCasesByLabels_eq automatedTestCases]
        exact Grouping.pairsOf_group_perm _
      have executed : (executedEntries groups).Sublist grouped.entries :=
        (List.filter_sublist.map _).trans sublist
      have keys : (executedEntries groups).map Prod.fst =
          (groups.filter LabelExecution.isRunning).map LabelExecution.label := by
        rw [executedEntries, List.map_map]
        rfl
      refine (results_perm isNested every).trans (List.Perm.map _ ?_)
      have selected : (Grouping.pairsOf (executedEntries groups)).Perm
          (Grouping.pairsOf (grouped.entries.filter fun entry =>
            decide (entry.1 ∈ (executedEntries groups).map Prod.fst))) :=
        (filter_keys_perm executed).flatMap_right _
      have filtered := pairsOf_filter grouped.entries fun label =>
        decide (label ∈ (executedEntries groups).map Prod.fst)
      rw [filtered, keys] at selected
      exact selected.trans (pairs.filter _)

def labelledTests : List TestCase :=
  [{ TestCase.named "T-1" with labels := ["automated", "UI", "API"] },
    { TestCase.named "T-2" with labels := ["automated", "DB"] }]

/-- A task that completed with one test result. -/
def executedTask : Task :=
  ⟨"remote", ⟨.completed, "completed", ""⟩,
    [⟨"a-1", "agent_execution_result", [⟨.text "passed", "text/plain", ""⟩]⟩]⟩

/-- The groups of two labels run next to each other; no agent is selected for the third label. -/
def labelledRun : List RoundEvent :=
  [.ask 0, .ask 2, .answered 2 (.error (.httpException 500 "unavailable")), .ask 1,
    .answered 1 (.ok ["agent-2", "agent-3"]), .answered 0 (.ok ["agent-1"]), .selectedAll,
    .begin 0, .begin 1,
    .group 1 ⟨0, "start"⟩ (.resume 0 "task-1"), .group 0 ⟨0, "start"⟩ (.resume 0 "task-2"),
    .group 0 ⟨4, "done"⟩ (.sent 0 (.ok (some executedTask))),
    .group 0 ⟨5, "extracted"⟩ (.extracted 0 (.ok none) "task-3"),
    .group 1 ⟨6, "done"⟩ (.sent 0 (.ok (some executedTask))),
    .group 1 ⟨7, "extracted"⟩ (.extracted 0 (.ok none) "task-4"),
    .group 1 ⟨8, "joined"⟩ .joined, .group 0 ⟨8, "joined"⟩ .joined,
    .group 0 ⟨8, "stop"⟩ (.take 0 "task-3"), .group 1 ⟨8, "stop"⟩ (.take 0 "task-4"),
    .group 0 ⟨9, "end"⟩ .gathered, .group 1 ⟨9, "end"⟩ .gathered]

theorem execution_reports_each_label_once_interleaved :
    ∃ final ∈ StepSystem.run (ExecutionRound.step 4)
        (.start (Shared.withAgents ["agent-1", "agent-2"])
          (groupTestCasesByLabels labelledTests)) labelledRun,
      final.served = ["UI", "API"] ∧ ∃ results ∈ final.allExecutionResults,
        (results.map (·.testCase)).Perm
          (((labelPairs labelledTests).filter fun pair => pair.1 ∈ final.served).map
            fun pair => some pair.2) := by
  have finished : ∃ final ∈ StepSystem.run (ExecutionRound.step 4)
        (.start (Shared.withAgents ["agent-1", "agent-2"])
          (groupTestCasesByLabels labelledTests)) labelledRun,
      final.served = ["UI", "API"] ∧ final.allExecutionResults.isSome = true := by
    decide +kernel
  obtain ⟨final, ran, served, returned⟩ := finished
  obtain ⟨results, same⟩ := Option.isSome_iff_exists.mp returned
  exact ⟨final, ran, served, results, same,
    execution_reports_each_label_once 4 _ labelledTests ran same⟩

end QuAIA.Orchestrator
