import QuAIA.Agents.TestCaseGeneration
import QuAIA.Common.Models
import QuAIA.Library.Gathering

/-!
Contract: the calls in batches by which test cases are generated and reviewed.

Owns: the batches, the merging of their results, and the tools of the two agents from their
lists on; that each item is in one call; that the tools end; and what they return and store,
whatever the order of the answers.

Does not own: the answers of the model. The document and the attachments are the same in all
calls of a tool, and the answer to a call is a function of its batch and its number. A task is
not cancelled.
-/

set_option autoImplicit false

namespace QuAIA.Agents

open QuAIA.Common
open QuAIA.Library

/-! ## The code -/

section Code

variable {α β : Type}

/-- `itertools.batched` behind the first items of a batch. Python refuses the size 0. -/
def batchedFrom (size : Nat) : List α → List α → List (List α)
  | current, [] => if current.isEmpty then [] else [current]
  | current, item :: rest =>
      if current.length + 1 < size then batchedFrom size (current ++ [item]) rest
      else (current ++ [item]) :: batchedFrom size [] rest

def batched (items : List α) (size : Nat) : List (List α) := batchedFrom size [] items

/-- The arguments of a call that differ between the batches. -/
structure BatchCall (α : Type) where
  batch : List α
  batchNumber : Nat
  totalBatches : Nat

def batchCalls (items : List α) (batchSize : Nat) : List (BatchCall α) :=
  let batches := batched items batchSize
  batches.zipIdx.map fun entry => ⟨entry.1, entry.2 + 1, batches.length⟩

/-- `GeneratedTestCases` and `TestCaseReviewFeedbacks`: a list and the comments of the model. -/
structure BatchResult (β : Type) where
  items : List β
  llmComments : Option String

/-- `if result.llm_comments:` -/
def BatchResult.comment? (result : BatchResult β) : Option String :=
  result.llmComments.filter fun comment => comment ≠ ""

/-- The two lists that the results are added to. -/
structure BatchMerge (β : Type) where
  items : List β
  llmComments : List String

def BatchMerge.add (merged : BatchMerge β) (result : BatchResult β) : BatchMerge β :=
  ⟨merged.items ++ result.items, merged.llmComments ++ result.comment?.toList⟩

/-- The loop over the results from an index on. -/
def mergeResults (failure : String) :
    Nat → BatchMerge β → List (Except String (BatchResult β)) → Except String (BatchMerge β)
  | _, merged, [] => .ok merged
  | index, _, .error text :: _ => .error s!"{failure} for batch {index + 1}: {text}"
  | index, merged, .ok result :: rest => mergeResults failure (index + 1) (merged.add result) rest

/-- `"\n".join(llm_comments) or None` -/
def BatchMerge.result (merged : BatchMerge β) : BatchResult β :=
  let joined := "\n".intercalate merged.llmComments
  ⟨merged.items, if joined = "" then none else some joined⟩

/-- What differs between the two tools. Without a limit the calls are made at once. -/
structure BatchedTool where
  batchSize : Nat
  concurrencyLimit : Option Nat
  failure : String
  summary : Nat → String

/-- A run of a tool: its calls, `ctx.deps.result`, and how it ended. -/
structure ToolRun (α β : Type) where
  gathering : Gathering (BatchCall α) (Except String (BatchResult β))
  result : Option (BatchResult β)
  returned : Option (Except String String)

inductive ToolEvent where
  | call (event : GatherEvent)
  | gathered
deriving DecidableEq, Repr

namespace ToolRun

def start (tool : BatchedTool) (items : List α) (result : Option (BatchResult β)) :
    ToolRun α β :=
  ⟨.initial tool.concurrencyLimit (batchCalls items tool.batchSize), result, none⟩

/-- From the gathered results to the end of the tool. -/
def conclude (tool : BatchedTool) (run : ToolRun α β) : ToolRun α β :=
  match mergeResults tool.failure 0 ⟨[], []⟩ run.gathering.answers with
  | .error text => { run with returned := some (.error text) }
  | .ok merged =>
      { run with
        result := some merged.result
        returned := some (.ok (tool.summary merged.items.length)) }

def step (tool : BatchedTool) (respond : BatchCall α → Except String (BatchResult β))
    (run : ToolRun α β) : ToolEvent → Option (ToolRun α β)
  | .call event =>
      (run.gathering.step respond event).map fun gathering => { run with gathering := gathering }
  | .gathered =>
      if run.returned.isNone && run.gathering.finished then some (run.conclude tool) else none

end ToolRun

end Code

structure TestCaseReviewFeedback where
  testCaseId : String
  reviewFeedback : List String
deriving DecidableEq, Repr

/-- `_generate_test_cases` from the acceptance criteria on. -/
def generateTestCases (acBatchSize llmConcurrencyLimit : Nat) : BatchedTool where
  batchSize := acBatchSize
  concurrencyLimit := some llmConcurrencyLimit
  failure := "TC generation failed"
  summary count := s!"Successfully generated {count} test cases."

/-- `generate_test_cases_from_acs` -/
def generateTestCasesFromAcs (acBatchSize llmConcurrencyLimit : Nat)
    (criteria : List AcceptanceCriteriaItem) (result : Option (BatchResult TestCase)) :
    ToolRun AcceptanceCriteriaItem TestCase :=
  .start (generateTestCases acBatchSize llmConcurrencyLimit) criteria result

def reviewTestCases (testCaseReviewBatchSize : Nat) : BatchedTool where
  batchSize := testCaseReviewBatchSize
  concurrencyLimit := none
  failure := "Review failed"
  summary count := s!"Review completed. Reviewed {count} test cases."

/-- `_review_test_cases_with_attachments`, which refuses an empty list. -/
def reviewTestCasesWithAttachments (testCaseReviewBatchSize : Nat) (testCases : List TestCase)
    (result : Option (BatchResult TestCaseReviewFeedback)) :
    ToolRun TestCase TestCaseReviewFeedback :=
  if testCases.isEmpty then
    ⟨.initial none [], result, some (.error "No test cases available for review.")⟩
  else .start (reviewTestCases testCaseReviewBatchSize) testCases result

/-! ## What the tools promise -/

section Promise

variable {α β : Type}

/-- The results one after the other. -/
def concatenated (results : List (BatchResult β)) : BatchResult β :=
  BatchMerge.result ⟨results.flatMap BatchResult.items, results.filterMap BatchResult.comment?⟩

/-- Each item is in one of the calls, in its place, and the batches are within their size. -/
structure Partitioned (items : List α) (batchSize : Nat) (calls : List (BatchCall α)) : Prop where
  covers : calls.flatMap BatchCall.batch = items
  sizes : ∀ call ∈ calls, call.batch ≠ [] ∧ call.batch.length ≤ batchSize
  numbers : calls.map BatchCall.batchNumber = (List.range calls.length).map (· + 1)

/-- How a run of a tool stands: no call is made twice; it can go on until it ends, and it has
to end; at its end all calls were made, and it has stored and returned all results, or it
names the first call that failed; and it stores nothing else. -/
structure Settled (tool : BatchedTool) (respond : BatchCall α → Except String (BatchResult β))
    (calls : List (BatchCall α)) (result : Option (BatchResult β)) (events : List ToolEvent)
    (final : ToolRun α β) : Prop where
  once : final.gathering.submitted.Subperm calls
  goesOn : final.returned = none → ∃ event next, final.step tool respond event = some next
  ends : events.length ≤ 3 * calls.length + 1
  pending : final.returned = none → final.result = result
  submitted : ∀ outcome, final.returned = some outcome → final.gathering.submitted.Perm calls
  succeeds : ∀ outcome results, final.returned = some outcome →
    calls.map respond = results.map .ok →
      outcome = .ok (tool.summary (concatenated results).items.length) ∧
        final.result = some (concatenated results)
  fails : ∀ outcome before call after text, final.returned = some outcome →
    calls = before ++ call :: after → respond call = .error text →
      (∀ earlier ∈ before, ∃ batchResult, respond earlier = .ok batchResult) →
        outcome = .error s!"{tool.failure} for batch {call.batchNumber}: {text}" ∧
          final.result = result

/-- A tool that has been started with a list settles it in every run. -/
def Settles (tool : BatchedTool) (respond : BatchCall α → Except String (BatchResult β))
    (items : List α) (started : ToolRun α β) : Prop :=
  Partitioned items tool.batchSize (batchCalls items tool.batchSize) ∧
    ∀ events final, StepSystem.run (ToolRun.step tool respond) started events = some final →
      Settled tool respond (batchCalls items tool.batchSize) started.result events final

end Promise

/-! ## The batches -/

section Batches

variable {α β : Type} {size : Nat} {current items : List α}

theorem flatten_batchedFrom (size : Nat) (current items : List α) :
    (batchedFrom size current items).flatten = current ++ items := by
  induction items generalizing current with
  | nil =>
      rw [batchedFrom]
      split
      · rename_i isEmpty
        rw [List.isEmpty_iff.mp isEmpty]
        rfl
      · simp
  | cons item rest inductionHypothesis =>
      rw [batchedFrom]
      split
      · rw [inductionHypothesis, List.append_assoc, List.singleton_append]
      · rw [List.flatten_cons, inductionHypothesis, List.nil_append, List.append_assoc,
          List.singleton_append]

theorem length_batchedFrom (started : current.length < size) :
    ∀ batch ∈ batchedFrom size current items, batch ≠ [] ∧ batch.length ≤ size := by
  induction items generalizing current with
  | nil =>
      rw [batchedFrom]
      split
      · nofun
      · rename_i nonempty
        intro batch member
        rw [List.mem_singleton.mp member]
        exact ⟨fun isNil => nonempty (isNil ▸ rfl), Nat.le_of_lt started⟩
  | cons item rest inductionHypothesis =>
      have length : (current ++ [item]).length = current.length + 1 := by simp
      rw [batchedFrom]
      split
      · rename_i room
        exact inductionHypothesis (length ▸ room)
      · intro batch member
        rcases List.mem_cons.mp member with rfl | later
        · exact ⟨by simp, by omega⟩
        · have fresh : ([] : List α).length < size := Nat.zero_lt_of_lt started
          exact inductionHypothesis fresh batch later

theorem partitioned_batchCalls (items : List α) (sized : 0 < size) :
    Partitioned items size (batchCalls items size) where
  covers := by
    have batches : (batchCalls items size).map BatchCall.batch = batched items size := by
      simp [batchCalls, Function.comp_def]
    rw [List.flatMap, batches]
    exact flatten_batchedFrom size [] items
  sizes call member := by
    obtain ⟨entry, isEntry, rfl⟩ := List.mem_map.mp member
    exact length_batchedFrom sized entry.1 (List.fst_mem_of_mem_zipIdx isEntry)
  numbers := by
    have indices : (batched items size).zipIdx.map Prod.snd =
        List.range (batched items size).length := by
      rw [List.zipIdx_map_snd, ← List.range_eq_range']
    rw [batchCalls, List.map_map, List.length_map, List.length_zipIdx, ← indices, List.map_map]
    rfl

end Batches

/-! ## Merging -/

section Merging

variable {β : Type} {failure : String}

theorem mergeResults_ok (results : List (BatchResult β)) (index : Nat) (merged : BatchMerge β) :
    mergeResults failure index merged (results.map .ok) =
      .ok ⟨merged.items ++ results.flatMap BatchResult.items,
        merged.llmComments ++ results.filterMap BatchResult.comment?⟩ := by
  induction results generalizing index merged with
  | nil => simp [mergeResults]
  | cons result results inductionHypothesis =>
      rw [List.map_cons, mergeResults, inductionHypothesis, BatchMerge.add, List.flatMap_cons,
        List.append_assoc, List.append_assoc]
      cases comment : result.comment? with
      | none => simp [comment]
      | some text => simp [comment]

/-- The first failure ends the loop, and names its index. -/
theorem mergeResults_error {α : Type} {respond : α → Except String (BatchResult β)}
    {before : List α} (succeeded : ∀ earlier ∈ before, ∃ result, respond earlier = .ok result)
    (text : String) (later : List (Except String (BatchResult β))) (index : Nat)
    (merged : BatchMerge β) :
    mergeResults failure index merged (before.map respond ++ .error text :: later) =
      .error s!"{failure} for batch {index + before.length + 1}: {text}" := by
  induction before generalizing index merged with
  | nil => rfl
  | cons first before inductionHypothesis =>
      obtain ⟨⟨result, isResult⟩, rest⟩ := List.forall_mem_cons.mp succeeded
      rw [List.map_cons, isResult, List.cons_append, mergeResults, inductionHypothesis rest,
        List.length_cons, Nat.add_assoc index 1, Nat.add_comm 1]

end Merging

/-! ## Runs -/

section Runs

variable {α β : Type} {tool : BatchedTool} {respond : BatchCall α → Except String (BatchResult β)}
  {calls : List (BatchCall α)} {result : Option (BatchResult β)} {run next : ToolRun α β}

namespace ToolRun

/-- A run keeps its calls, and it has stored nothing before it has ended. -/
structure Underway (tool : BatchedTool) (respond : BatchCall α → Except String (BatchResult β))
    (calls : List (BatchCall α)) (result : Option (BatchResult β)) (run : ToolRun α β) :
    Prop where
  sound : run.gathering.Sound respond calls
  guarded : run.gathering.Guarded tool.concurrencyLimit
  pending : run.returned = none → run.result = result
  concluded : run.returned ≠ none → run.gathering.finished = true ∧
    run = conclude tool ⟨run.gathering, result, none⟩

/-- The number of steps that a run has before it. -/
def remaining (run : ToolRun α β) : Nat :=
  run.gathering.remaining + if run.returned = none then 1 else 0

theorem conclude_gathering (tool : BatchedTool) (run : ToolRun α β) :
    (run.conclude tool).gathering = run.gathering := by
  unfold conclude
  split <;> rfl

theorem conclude_returned (tool : BatchedTool) (run : ToolRun α β) :
    (run.conclude tool).returned ≠ none := by
  unfold conclude
  split <;> nofun

/-- The steps, each with what it found. -/
inductive Stepped (tool : BatchedTool) (respond : BatchCall α → Except String (BatchResult β))
    (run : ToolRun α β) : ToolEvent → ToolRun α β → Prop
  | call {event : GatherEvent} {gathering : Gathering (BatchCall α) (Except String (BatchResult β))}
      (stepped : Gathering.Stepped respond run.gathering event gathering) :
      Stepped tool respond run (.call event) { run with gathering := gathering }
  | gathered (unreturned : run.returned = none) (finished : run.gathering.finished = true) :
      Stepped tool respond run .gathered (run.conclude tool)

theorem stepped_of_step {event : ToolEvent} (isStep : run.step tool respond event = some next) :
    run.Stepped tool respond event next := by
  cases event with
  | call event =>
      obtain ⟨gathering, stepped, rfl⟩ := Option.map_eq_some_iff.mp isStep
      exact .call (Gathering.stepped_of_step stepped)
  | gathered =>
      simp only [step] at isStep
      split at isStep
      · rename_i ready
        cases isStep
        rw [Bool.and_eq_true, Option.isNone_iff_eq_none] at ready
        exact .gathered ready.1 ready.2
      · cases isStep

theorem remaining_of_stepped {event : ToolEvent} (stepped : run.Stepped tool respond event next) :
    next.remaining < run.remaining := by
  cases stepped with
  | call stepped => exact Nat.add_lt_add_right (Gathering.remaining_of_stepped stepped) _
  | gathered unreturned finished =>
      rw [remaining, remaining, conclude_gathering, if_neg (conclude_returned tool run),
        if_pos unreturned]
      exact Nat.lt_succ_self _

theorem underway_step {event : ToolEvent} (underway : run.Underway tool respond calls result)
    (stepped : run.Stepped tool respond event next) :
    next.Underway tool respond calls result := by
  cases stepped with
  | @call event gathering stepped =>
      have unreturned : run.returned = none := by
        by_contra returned
        have nothingLeft := Gathering.remaining_of_finished (underway.concluded returned).1
        have less := Gathering.remaining_of_stepped stepped
        omega
      exact ⟨Gathering.sound_step underway.sound stepped,
        Gathering.guarded_step underway.guarded stepped, underway.pending,
        fun returned => absurd unreturned returned⟩
  | gathered unreturned finished =>
      have same := conclude_gathering tool run
      refine ⟨same ▸ underway.sound, same ▸ underway.guarded,
        fun pending => absurd pending (conclude_returned tool run), fun _ => ⟨same ▸ finished, ?_⟩⟩
      rw [same, ← underway.pending unreturned, ← unreturned]

theorem underway_start (tool : BatchedTool)
    (respond : BatchCall α → Except String (BatchResult β)) (items : List α)
    (result : Option (BatchResult β)) :
    (start tool items result).Underway tool respond (batchCalls items tool.batchSize) result where
  sound := Gathering.sound_initial respond _ _
  guarded := Gathering.guarded_initial _ _
  pending _ := rfl
  concluded returned := absurd rfl returned

/-- A run that has not ended can go on: with a call, or with what was gathered. -/
theorem Underway.exists_step (underway : run.Underway tool respond calls result)
    (positive : ∀ limit ∈ tool.concurrencyLimit, 0 < limit) (unreturned : run.returned = none) :
    ∃ event next, run.step tool respond event = some next := by
  cases finished : run.gathering.finished with
  | false =>
      obtain ⟨event, gathering, stepped⟩ :=
        Gathering.exists_step respond underway.guarded positive finished
      exact ⟨.call event, { run with gathering := gathering }, by rw [step, stepped]; rfl⟩
  | true =>
      exact ⟨.gathered, run.conclude tool, by simp [step, unreturned, finished]⟩

/-- What a run that has ended was given by its calls. -/
theorem Underway.of_returned (underway : run.Underway tool respond calls result)
    {outcome : Except String String} (returned : run.returned = some outcome) :
    run.gathering.answers = calls.map respond ∧ run.gathering.submitted.Perm calls ∧
      run = conclude tool ⟨run.gathering, result, none⟩ := by
  obtain ⟨finished, concluded⟩ := underway.concluded (by rw [returned]; nofun)
  obtain ⟨answers, submitted⟩ := underway.sound.of_finished finished
  exact ⟨answers, submitted, concluded⟩

theorem Underway.succeeds (underway : run.Underway tool respond calls result)
    {outcome : Except String String} (returned : run.returned = some outcome)
    {results : List (BatchResult β)} (all : calls.map respond = results.map .ok) :
    outcome = .ok (tool.summary (concatenated results).items.length) ∧
      run.result = some (concatenated results) := by
  obtain ⟨answers, -, concluded⟩ := underway.of_returned returned
  rw [conclude, answers, all, mergeResults_ok] at concluded
  rw [concluded] at returned
  exact ⟨(Option.some.inj returned).symm, by rw [concluded]; rfl⟩

theorem Underway.fails (underway : run.Underway tool respond calls result)
    {outcome : Except String String} (returned : run.returned = some outcome)
    {before after : List (BatchCall α)} {call : BatchCall α} {text : String}
    (split : calls = before ++ call :: after) (failed : respond call = .error text)
    (succeeded : ∀ earlier ∈ before, ∃ batchResult, respond earlier = .ok batchResult) :
    outcome = .error s!"{tool.failure} for batch {before.length + 1}: {text}" ∧
      run.result = result := by
  obtain ⟨answers, -, concluded⟩ := underway.of_returned returned
  rw [conclude, answers, split, List.map_append, List.map_cons, failed,
    mergeResults_error succeeded, Nat.zero_add] at concluded
  rw [concluded] at returned
  exact ⟨(Option.some.inj returned).symm, by rw [concluded]⟩

end ToolRun

theorem Partitioned.batchNumber {items : List α} {size : Nat}
    (partitioned : Partitioned items size calls) {before after : List (BatchCall α)}
    {call : BatchCall α} (split : calls = before ++ call :: after) :
    call.batchNumber = before.length + 1 := by
  have numbers := congrArg (fun numbers => numbers[before.length]?) partitioned.numbers
  rw [split] at numbers
  simpa using numbers

/-- **Batched tool.** A tool that has been started with a list settles it, whatever the order
of its calls. -/
theorem settles_start (sized : 0 < tool.batchSize)
    (positive : ∀ limit ∈ tool.concurrencyLimit, 0 < limit)
    (respond : BatchCall α → Except String (BatchResult β)) (items : List α)
    (result : Option (BatchResult β)) :
    Settles tool respond items (ToolRun.start tool items result) := by
  have partitioned := partitioned_batchCalls items sized
  refine ⟨partitioned, fun events final ran => ?_⟩
  have underway : final.Underway tool respond (batchCalls items tool.batchSize) result :=
    StepSystem.invariant_of_step
      (fun _ _ _ holds isStep => ToolRun.underway_step holds (ToolRun.stepped_of_step isStep))
      (ToolRun.underway_start tool respond items result) ran
  have bounded := StepSystem.length_le_of_decreasing
    (fun _ _ _ isStep => ToolRun.remaining_of_stepped (ToolRun.stepped_of_step isStep)) ran
  have remaining : (ToolRun.start tool items result : ToolRun α β).remaining =
      3 * (batchCalls items tool.batchSize).length + 1 :=
    congrArg (· + 1) (Gathering.remaining_initial _ _)
  exact {
    once := underway.sound.subperm
    goesOn := underway.exists_step positive
    ends := by omega
    pending := underway.pending
    submitted := fun outcome returned => (underway.of_returned returned).2.1
    succeeds := fun outcome results returned all => underway.succeeds returned all
    fails := by
      intro outcome before call after text returned split failed succeeded
      rw [partitioned.batchNumber split]
      exact underway.fails returned split failed succeeded }

end Runs

/-! ## The two tools -/

/-- **Batched generation and review.** Whatever the model answers, both tools settle their
lists. A review of no test cases makes no call, stores nothing and is refused. -/
theorem batchedTools_settle (batchSize limit : Nat) (sized : 0 < batchSize) (limited : 0 < limit)
    (generated : BatchCall AcceptanceCriteriaItem → Except String (BatchResult TestCase))
    (reviewed : BatchCall TestCase → Except String (BatchResult TestCaseReviewFeedback))
    (testCasesBefore : Option (BatchResult TestCase))
    (feedbacksBefore : Option (BatchResult TestCaseReviewFeedback)) :
    (∀ criteria, Settles (generateTestCases batchSize limit) generated criteria
        (generateTestCasesFromAcs batchSize limit criteria testCasesBefore)) ∧
      (∀ testCases, testCases ≠ [] → Settles (reviewTestCases batchSize) reviewed testCases
        (reviewTestCasesWithAttachments batchSize testCases feedbacksBefore)) ∧
      ∀ events final, StepSystem.run (ToolRun.step (reviewTestCases batchSize) reviewed)
          (reviewTestCasesWithAttachments batchSize [] feedbacksBefore) events = some final →
        final.gathering.submitted = [] ∧ final.result = feedbacksBefore ∧
          final.returned = some (.error "No test cases available for review.") := by
  refine ⟨fun criteria => ?_, fun testCases nonempty => ?_, fun events final ran => ?_⟩
  · refine settles_start sized ?_ generated criteria testCasesBefore
    rintro _ ⟨⟩
    exact limited
  · rw [reviewTestCasesWithAttachments, if_neg (by simpa using nonempty)]
    refine settles_start sized ?_ reviewed testCases feedbacksBefore
    rintro _ ⟨⟩
  · have refused : ∀ event, ToolRun.step (reviewTestCases batchSize) reviewed
        (reviewTestCasesWithAttachments batchSize [] feedbacksBefore) event = none := by
      rintro ((index | index | index) | _) <;> rfl
    cases events with
    | nil =>
        obtain rfl := Option.some.inj ran
        exact ⟨rfl, rfl, rfl⟩
    | cons event rest =>
        obtain ⟨next, stepped, -⟩ := StepSystem.run_cons_eq_some.mp ran
        rw [refused event] at stepped
        cases stepped

/-- A test case for each criterion of a batch. -/
def caseForEach (call : BatchCall AcceptanceCriteriaItem) :
    Except String (BatchResult TestCase) :=
  .ok ⟨call.batch.map fun criterion => TestCase.named criterion.id, none⟩

/-- The second batch fails. -/
def secondReviewFails (call : BatchCall TestCase) :
    Except String (BatchResult TestCaseReviewFeedback) :=
  if call.batchNumber = 2 then .error "timeout" else .ok ⟨[], some "Nothing to add."⟩

/-- Two criteria in two batches, one after the other; and a review that fails in its second
batch. -/
theorem batchedTools_settle_two :
    Settles (generateTestCases 1 1) caseForEach [⟨"AC-1", "", "", ""⟩, ⟨"AC-2", "", "", ""⟩]
        (generateTestCasesFromAcs 1 1 [⟨"AC-1", "", "", ""⟩, ⟨"AC-2", "", "", ""⟩] none) ∧
      Settles (reviewTestCases 1) secondReviewFails [.named "TC-1", .named "TC-2"]
        (reviewTestCasesWithAttachments 1 [.named "TC-1", .named "TC-2"] none) := by
  have settle := batchedTools_settle 1 1 (by decide) (by decide) caseForEach secondReviewFails
    none none
  exact ⟨settle.1 _, settle.2.1 _ (List.cons_ne_nil _ _)⟩

/-- A review of no test cases does not return the empty list of feedbacks: it is refused. -/
theorem reviewOfNothing_refused :
    ¬Settles (reviewTestCases 10) secondReviewFails []
      (reviewTestCasesWithAttachments 10 [] none) := by
  rintro ⟨-, settled⟩
  have returned := ((settled [] _ rfl).succeeds _ [] rfl rfl).1
  cases returned

end QuAIA.Agents
