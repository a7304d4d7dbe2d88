import QuAIA.Common.MeegoClient
import QuAIA.Library.Compaction

/-!
Contract: the test case pipeline (`_run_pipeline`), from the generated test cases
to the labels and review comments in Feishu Project.

Owns: the three write-back functions, the pipeline around them, the exact
condition under which every created work item is given to its own test case,
and the exact condition under which labels and comments reach created work
items only.

Does not own: the remote agents. The answers of the generation, classification
and review agents are arbitrary, and may be exceptions.
-/

set_option autoImplicit false

namespace QuAIA.Orchestrator

open QuAIA.Common
open QuAIA.Library

/-! ## Work item ids -/

def assignKey (storyId : String) (testCase : TestCase) (key : String) : TestCase :=
  { testCase with key := some key, parentIssueKey := some storyId }

/-- The test cases after the call, which mutates them in place. The client pairs
the ids it could create with the test cases by position. -/
def writeTestCasesToFeishuProject (config : MeegoConfig) (server : MeegoServer)
    (testCases : List TestCase) (storyId projectKey : String) :
    Except PyError (List TestCase) :=
  if config.isConfigured then
    match MeegoClient.new config none with
    | .error error => .error error
    | .ok client =>
        match client.createTestCases server testCases projectKey with
        | .error error => .error error
        | .ok keys => .ok (updateZip (assignKey storyId) testCases keys)
  else
    .ok (testCases.mapIdx fun index testCase =>
      assignKey storyId testCase s!"MOCK-TC-{index + 1}")

/-- The set is a list here; only membership is asked. -/
def getKnownTestCaseKeys (testCases : List TestCase) : List String :=
  (testCases.filterMap TestCase.key).filter fun key => key ≠ ""

/-! ## Labels and comments -/

/-- `ClassifiedTestCase`, with the fields that are written back. -/
structure ClassifiedTestCase where
  issueKey : String
  labels : List String
deriving DecidableEq, Repr

structure TestCaseReviewFeedback where
  testCaseId : String
  reviewFeedback : List String
deriving DecidableEq, Repr

/-- A call of the client that addresses a work item by its key. -/
inductive MeegoCall where
  | addLabelsToTestCase (testCaseKey : String) (labels : List String)
  | addTestCaseReviewComment (testCaseKey : String) (comment : String)
deriving DecidableEq, Repr

def MeegoCall.testCaseKey : MeegoCall → String
  | .addLabelsToTestCase testCaseKey _ => testCaseKey
  | .addTestCaseReviewComment testCaseKey _ => testCaseKey

def MeegoCall.request (client : MeegoClient) : MeegoCall → MeegoRequest
  | .addLabelsToTestCase testCaseKey labels => client.addLabelsRequest testCaseKey labels
  | .addTestCaseReviewComment testCaseKey comment => client.addCommentRequest testCaseKey comment

/-- The loop of both write-backs: a target that is not known is skipped, and the
first call that raises ends the loop. The calls issued are returned with it. -/
def callKnown (client : MeegoClient) (server : MeegoServer) (known : List String) :
    Nat → List MeegoCall → List MeegoCall × Except PyError Unit
  | _, [] => ([], .ok ())
  | sent, call :: rest =>
      if call.testCaseKey ∈ known then
        match server sent (call.request client) with
        | .error error => ([call], .error error)
        | .ok _ =>
            let (calls, outcome) := callKnown client server known (sent + 1) rest
            (call :: calls, outcome)
      else callKnown client server known sent rest

/-- What both write-backs do with the calls for their items. -/
def writeBack (config : MeegoConfig) (server : MeegoServer) (sent : Nat)
    (testCases : List TestCase) (projectKey : String) (calls : List MeegoCall) :
    List MeegoCall × Except PyError Unit :=
  if config.isConfigured then
    match MeegoClient.new config (some projectKey) with
    | .error error => ([], .error error)
    | .ok client => callKnown client server (getKnownTestCaseKeys testCases) sent calls
  else ([], .ok ())

def writeTestCaseClassificationsToFeishuProject (config : MeegoConfig) (server : MeegoServer)
    (sent : Nat) (classifiedTestCases : List ClassifiedTestCase) (testCases : List TestCase)
    (projectKey : String) : List MeegoCall × Except PyError Unit :=
  writeBack config server sent testCases projectKey
    (classifiedTestCases.map fun classified =>
      .addLabelsToTestCase classified.issueKey classified.labels)

def writeTestCaseReviewFeedbacksToFeishuProject (config : MeegoConfig) (server : MeegoServer)
    (sent : Nat) (reviewFeedbacks : List TestCaseReviewFeedback) (testCases : List TestCase)
    (projectKey : String) : List MeegoCall × Except PyError Unit :=
  writeBack config server sent testCases projectKey
    (reviewFeedbacks.map fun feedback =>
      .addTestCaseReviewComment feedback.testCaseId ("\n".intercalate feedback.reviewFeedback))

/-! ## The pipeline -/

/-- The answers of the three remote agents of one run. -/
structure PipelineAgents where
  generation : Except PyError (List TestCase)
  classification : List TestCase → Except PyError (List ClassifiedTestCase)
  review : List TestCase → Except PyError (List TestCaseReviewFeedback)

/-- The calls that one run issues; any exception ends it. -/
def runPipeline (config : MeegoConfig) (server : MeegoServer) (agents : PipelineAgents)
    (storyId projectKey : String) : List MeegoCall :=
  match agents.generation with
  | .error _ => []
  | .ok generated =>
      match writeTestCasesToFeishuProject config server generated storyId projectKey with
      | .error _ => []
      | .ok testCases =>
          match agents.classification testCases with
          | .error _ => []
          | .ok classified =>
              let (labelCalls, labelled) := writeTestCaseClassificationsToFeishuProject config
                server generated.length classified testCases projectKey
              match labelled, agents.review testCases with
              | .ok _, .ok feedbacks =>
                  labelCalls ++ (writeTestCaseReviewFeedbacksToFeishuProject config server
                    (generated.length + labelCalls.length) feedbacks testCases projectKey).1
              | _, _ => labelCalls

/-- The answers to the creations of a run, when Meego is configured and all of them are
answered. -/
def pipelineAnswers (config : MeegoConfig) (server : MeegoServer) (projectKey : String)
    (testCases : List TestCase) : Option (List WorkItemId) :=
  if config.isConfigured then
    match MeegoClient.new config none with
    | .error _ => none
    | .ok client => (client.answers server projectKey 0 testCases).toOption
  else none

/-- The id that each of these answers is listed with, if any. -/
def pipelineCreations (config : MeegoConfig) (server : MeegoServer) (projectKey : String)
    (testCases : List TestCase) : Option (List (Option String)) :=
  (pipelineAnswers config server projectKey testCases).map (List.map WorkItemId.listed)

section WriteBack

variable {config : MeegoConfig} {server : MeegoServer} {projectKey : String}
  {testCases : List TestCase} {answers : List WorkItemId} {created : List (Option String)}

/-- The ids are compacted before they are paired. -/
theorem writeTestCases_of_answers (storyId : String)
    (answered : pipelineAnswers config server projectKey testCases = some answers) :
    writeTestCasesToFeishuProject config server testCases storyId projectKey =
      .ok (updateZip (assignKey storyId) testCases
        (answers.map WorkItemId.listed).reduceOption) := by
  unfold pipelineAnswers at answered
  unfold writeTestCasesToFeishuProject
  by_cases configured : config.isConfigured
  · rw [if_pos configured] at answered ⊢
    cases isClient : MeegoClient.new config none with
    | error error =>
        rw [isClient] at answered
        cases answered
    | ok client =>
        rw [isClient] at answered
        dsimp only at answered ⊢
        rw [MeegoClient.createTestCases_eq]
        cases isAnswer : client.answers server projectKey 0 testCases with
        | error error =>
            rw [isAnswer] at answered
            cases answered
        | ok outcomes =>
            rw [isAnswer] at answered
            cases answered
            simp only [Except.map, List.reduceOption, List.filterMap_map, Function.id_comp]
  · rw [if_neg configured] at answered
    cases answered

theorem length_of_answers
    (answered : pipelineAnswers config server projectKey testCases = some answers) :
    (answers.map WorkItemId.listed).length = testCases.length := by
  rw [List.length_map]
  unfold pipelineAnswers at answered
  split at answered
  · cases isClient : MeegoClient.new config none with
    | error error =>
        rw [isClient] at answered
        cases answered
    | ok client =>
        rw [isClient] at answered
        cases isAnswer : client.answers server projectKey 0 testCases with
        | error error =>
            simp only [isAnswer, Except.toOption] at answered
            cases answered
        | ok outcomes =>
            simp only [isAnswer, Except.toOption] at answered
            cases answered
            exact MeegoClient.length_answers isAnswer
  · cases answered

/-! ## Alignment -/

/-- Each created work item is the key of the test case it was made from, and no key
is the id of a work item made from another test case. -/
structure Aligned (created : List (Option String)) (testCases : List TestCase) : Prop where
  own : ∀ (index : Nat) (id : String), created[index]? = some (some id) →
    ∃ testCase, testCases[index]? = some testCase ∧ testCase.key = some id
  noOther : ∀ (index origin : Nat) (testCase : TestCase) (id : String),
    testCases[index]? = some testCase → testCase.key = some id →
      created[origin]? = some (some id) → index = origin

/-- The creations that leave the write-back aligned: no success after a failure, no
id twice, and no created id among the keys that stay as generated. -/
structure Alignable (created : List (Option String)) (testCases : List TestCase) : Prop where
  failuresLast : FailuresLast created
  distinct : created.reduceOption.Nodup
  unclaimed : ∀ testCase ∈ testCases.drop created.reduceOption.length,
    ∀ key ∈ testCase.key, key ∉ created.reduceOption

variable {storyId : String}

/-- The key of a test case after the pairing: the id at its position, or its own. -/
theorem key_of_written {written : TestCase} {index : Nat}
    (found : (updateZip (assignKey storyId) testCases created.reduceOption)[index]? =
      some written) :
    written.key = created.reduceOption[index]? ∨
      (created.reduceOption[index]? = none ∧ testCases[index]? = some written) := by
  cases paired : created.reduceOption[index]? with
  | none =>
      refine Or.inr ⟨rfl, ?_⟩
      rw [← found]
      exact (getElem?_updateZip_of_unpaired _ (List.getElem?_eq_none_iff.mp paired)).symm
  | some id =>
      left
      have within : index < testCases.length := by
        have bound := (List.getElem?_eq_some_iff.mp found).1
        rw [length_updateZip] at bound
        exact bound
      obtain ⟨testCase, isTest⟩ : ∃ testCase, testCases[index]? = some testCase :=
        ⟨_, List.getElem?_eq_getElem within⟩
      have assigned := getElem?_updateZip_of_paired (assignKey storyId) isTest paired
      obtain rfl : assignKey storyId testCase id = written :=
        Option.some.inj (assigned.symm.trans found)
      rfl

/-- Every id goes to some test case. -/
theorem assigned_of_paired (storyId : String) (sameLength : created.length = testCases.length)
    {index : Nat} {id : String} (paired : created.reduceOption[index]? = some id) :
    ∃ testCase, (updateZip (assignKey storyId) testCases created.reduceOption)[index]? =
      some (assignKey storyId testCase id) := by
  have within : index < testCases.length := by
    have bound := (List.getElem?_eq_some_iff.mp paired).1
    have compacted := List.reduceOption_length_le created
    omega
  exact ⟨_, getElem?_updateZip_of_paired _ (List.getElem?_eq_getElem within) paired⟩

theorem Alignable.aligned (alignable : Alignable created testCases)
    (sameLength : created.length = testCases.length) :
    Aligned created (updateZip (assignKey storyId) testCases created.reduceOption) where
  own index id isCreated := by
    have paired : created.reduceOption[index]? = some id := by
      rw [alignable.failuresLast.getElem?_reduceOption, isCreated]
      rfl
    obtain ⟨testCase, assigned⟩ := assigned_of_paired storyId sameLength paired
    exact ⟨_, assigned, rfl⟩
  noOther index origin written id found keyed isCreated := by
    have paired : created.reduceOption[origin]? = some id := by
      rw [alignable.failuresLast.getElem?_reduceOption, isCreated]
      rfl
    rcases key_of_written found with fromId | ⟨unpaired, own⟩
    · have same : created.reduceOption[index]? = created.reduceOption[origin]? := by
        rw [← fromId, keyed, paired]
      have bound := (List.getElem?_eq_some_iff.mp paired).1
      exact ((List.getElem?_inj bound alignable.distinct).mp same.symm).symm
    · have left : written ∈ testCases.drop created.reduceOption.length :=
        mem_drop_iff_getElem?.mpr ⟨index, List.getElem?_eq_none_iff.mp unpaired, own⟩
      exact absurd (List.mem_of_getElem? paired) (alignable.unclaimed written left id keyed)

theorem Aligned.alignable
    (aligned : Aligned created (updateZip (assignKey storyId) testCases created.reduceOption))
    (sameLength : created.length = testCases.length) : Alignable created testCases := by
  have inPlace : ∀ (index origin : Nat) (id : String),
      created.reduceOption[index]? = some id → created[origin]? = some (some id) →
        index = origin := by
    intro index origin id paired isCreated
    obtain ⟨testCase, assigned⟩ := assigned_of_paired storyId sameLength paired
    exact aligned.noOther index origin _ id assigned rfl isCreated
  obtain ⟨last, distinct⟩ := failuresLast_of_inPlace inPlace
  refine ⟨last, distinct, ?_⟩
  intro testCase left key keyed inIds
  obtain ⟨index, past, isTest⟩ := mem_drop_iff_getElem?.mp left
  obtain ⟨origin, isCreated⟩ := List.mem_iff_getElem?.mp (List.reduceOption_mem_iff.mp inIds)
  have kept : (updateZip (assignKey storyId) testCases created.reduceOption)[index]? =
      testCases[index]? := getElem?_updateZip_of_unpaired _ past
  have same : index = origin :=
    aligned.noOther index origin testCase key (kept.trans isTest) keyed isCreated
  have paired : created.reduceOption[origin]? = some key := by
    rw [last.getElem?_reduceOption, isCreated]
    rfl
  have bound := (List.getElem?_eq_some_iff.mp paired).1
  omega

/-- **Write-back alignment, exactly.** The write-back of a run whose creations are all
answered is aligned if and only if the creations are alignable. -/
theorem writeBack_aligned_iff (storyId : String)
    (answered : pipelineCreations config server projectKey testCases = some created) :
    ∃ written, writeTestCasesToFeishuProject config server testCases storyId projectKey =
        .ok written ∧
      (Aligned created written ↔ Alignable created testCases) := by
  obtain ⟨answers, isAnswers, rfl⟩ := Option.map_eq_some_iff.mp answered
  refine ⟨_, writeTestCases_of_answers storyId isAnswers, ?_⟩
  have sameLength := length_of_answers isAnswers
  constructor
  · intro aligned
    exact aligned.alignable sameLength
  · intro alignable
    exact alignable.aligned sameLength

end WriteBack

/-! ### Two creations -/

/-- Meego with credentials. -/
def MeegoConfig.withSecret : MeegoConfig :=
  ⟨some "https://meego", some "plugin", some "secret", "project"⟩

/-- A server that answers the requests of a run with the given ids. -/
def answering (answers : List WorkItemId) : MeegoServer :=
  fun sent _ => .ok (answers[sent]?.getD .absent)

/-- Two generated test cases without keys. -/
def twoGenerated : List TestCase :=
  [{ TestCase.named "login" with key := none }, { TestCase.named "logout" with key := none }]

/-- The first creation answers no id: the id of the second work item goes to the first
test case, and the second test case has none. -/
theorem writeBack_shifted :
    ∃ written, writeTestCasesToFeishuProject MeegoConfig.withSecret
        (answering [.absent, .text "102"]) twoGenerated "story" "project" = .ok written ∧
      pipelineCreations MeegoConfig.withSecret (answering [.absent, .text "102"]) "project"
        twoGenerated = some [none, some "102"] ∧
      written.map TestCase.key = [some "102", none] ∧
      ¬Aligned [none, some "102"] written := by
  refine ⟨_, rfl, rfl, rfl, ?_⟩
  intro aligned
  have moved := aligned.noOther 0 1 _ "102" rfl rfl rfl
  cases moved

/-- A failure after the last success shifts nothing. -/
theorem writeBack_aligned_prefix :
    ∃ written, writeTestCasesToFeishuProject MeegoConfig.withSecret
        (answering [.text "101", .absent]) twoGenerated "story" "project" = .ok written ∧
      Aligned [some "101", none] written := by
  have answered : pipelineCreations MeegoConfig.withSecret (answering [.text "101", .absent])
      "project" twoGenerated = some [some "101", none] := rfl
  obtain ⟨written, isWritten, exact⟩ := writeBack_aligned_iff "story" answered
  refine ⟨written, isWritten, exact.mpr ⟨by decide, by decide, ?_⟩⟩
  intro testCase left key keyed
  obtain rfl : testCase = { TestCase.named "logout" with key := none } := by
    simpa [twoGenerated, List.reduceOption] using left
  cases keyed

/-! ## Confinement -/

section Confinement

variable {config : MeegoConfig} {server : MeegoServer} {projectKey : String}
  {testCases : List TestCase} {answers : List WorkItemId}

theorem mem_getKnownTestCaseKeys {known : String} :
    known ∈ getKnownTestCaseKeys testCases ↔
      known ≠ "" ∧ ∃ testCase ∈ testCases, testCase.key = some known := by
  simp only [getKnownTestCaseKeys, List.mem_filter, List.mem_filterMap, decide_eq_true_eq]
  constructor
  · rintro ⟨keyed, nonempty⟩
    exact ⟨nonempty, keyed⟩
  · rintro ⟨nonempty, keyed⟩
    exact ⟨keyed, nonempty⟩

/-- Only known keys are addressed. -/
theorem testCaseKey_of_callKnown {client : MeegoClient} {known : List String} {sent : Nat}
    {calls : List MeegoCall} {call : MeegoCall}
    (issued : call ∈ (callKnown client server known sent calls).1) :
    call.testCaseKey ∈ known := by
  induction calls generalizing sent with
  | nil => cases issued
  | cons first rest inductionHypothesis =>
      unfold callKnown at issued
      split at issued
      · rename_i isKnown
        split at issued
        · obtain rfl := List.mem_singleton.mp issued
          exact isKnown
        · rcases List.mem_cons.mp issued with rfl | later
          · exact isKnown
          · exact inductionHypothesis later
      · exact inductionHypothesis issued

theorem testCaseKey_of_writeBack {sent : Nat} {calls : List MeegoCall} {call : MeegoCall}
    (issued : call ∈ (writeBack config server sent testCases projectKey calls).1) :
    call.testCaseKey ∈ getKnownTestCaseKeys testCases := by
  unfold writeBack at issued
  split at issued
  · split at issued
    · cases issued
    · exact testCaseKey_of_callKnown issued
  · cases issued

/-- A run issues its calls after a write-back, for keys known then. -/
theorem known_of_runPipeline {agents : PipelineAgents} {storyId : String} {call : MeegoCall}
    (issued : call ∈ runPipeline config server agents storyId projectKey) :
    config.isConfigured = true ∧
      ∃ generated written, agents.generation = .ok generated ∧
        writeTestCasesToFeishuProject config server generated storyId projectKey = .ok written ∧
        call.testCaseKey ∈ getKnownTestCaseKeys written := by
  have configured : config.isConfigured = true := by
    by_contra notConfigured
    have none_issued : ∀ sent testCases calls,
        writeBack config server sent testCases projectKey calls = ([], .ok ()) := by
      intro sent testCases calls
      exact if_neg notConfigured
    simp only [runPipeline, writeTestCaseClassificationsToFeishuProject,
      writeTestCaseReviewFeedbacksToFeishuProject, none_issued] at issued
    split at issued
    · cases issued
    · split at issued
      · cases issued
      · split at issued
        · cases issued
        · split at issued <;> cases issued
  refine ⟨configured, ?_⟩
  unfold runPipeline at issued
  split at issued
  · cases issued
  · rename_i generated isGenerated
    split at issued
    · cases issued
    · rename_i written isWritten
      refine ⟨generated, written, isGenerated, isWritten, ?_⟩
      split at issued
      · cases issued
      · dsimp only at issued
        split at issued
        · rcases List.mem_append.mp issued with label | comment
          · exact testCaseKey_of_writeBack label
          · exact testCaseKey_of_writeBack comment
        · exact testCaseKey_of_writeBack issued

/-- The keys known after a write-back: the listed ids, and the keys that the test
cases without an id kept from their generation. -/
theorem mem_known_of_written {storyId known : String}
    (sameLength : (answers.map WorkItemId.listed).length = testCases.length) :
    known ∈ getKnownTestCaseKeys (updateZip (assignKey storyId) testCases
        (answers.map WorkItemId.listed).reduceOption) ↔
      known ≠ "" ∧ (known ∈ (answers.map WorkItemId.listed).reduceOption ∨
        ∃ testCase ∈ testCases.drop (answers.map WorkItemId.listed).reduceOption.length,
          testCase.key = some known) := by
  rw [mem_getKnownTestCaseKeys]
  apply and_congr_right
  intro _
  constructor
  · rintro ⟨written, member, keyed⟩
    obtain ⟨index, found⟩ := List.mem_iff_getElem?.mp member
    rcases key_of_written found with fromId | ⟨unpaired, own⟩
    · exact Or.inl (List.mem_of_getElem? (fromId.symm.trans keyed))
    · have past := List.getElem?_eq_none_iff.mp unpaired
      exact Or.inr ⟨written, mem_drop_iff_getElem?.mpr ⟨index, past, own⟩, keyed⟩
  · rintro (isId | ⟨testCase, left, keyed⟩)
    · obtain ⟨index, paired⟩ := List.mem_iff_getElem?.mp isId
      obtain ⟨testCase, assigned⟩ := assigned_of_paired storyId sameLength paired
      exact ⟨_, List.mem_of_getElem? assigned, rfl⟩
    · obtain ⟨index, past, isTest⟩ := mem_drop_iff_getElem?.mp left
      have kept : (updateZip (assignKey storyId) testCases
          (answers.map WorkItemId.listed).reduceOption)[index]? = testCases[index]? :=
        getElem?_updateZip_of_unpaired _ past
      exact ⟨testCase, List.mem_of_getElem? (kept.trans isTest), keyed⟩

/-- A configured write-back that returned had all its creations answered. -/
theorem answered_of_written {storyId : String} {written : List TestCase}
    (configured : config.isConfigured = true)
    (isWritten : writeTestCasesToFeishuProject config server testCases storyId projectKey =
      .ok written) :
    ∃ answers, pipelineAnswers config server projectKey testCases = some answers := by
  unfold writeTestCasesToFeishuProject at isWritten
  unfold pipelineAnswers
  rw [if_pos configured] at isWritten ⊢
  cases isClient : MeegoClient.new config none with
  | error error =>
      rw [isClient] at isWritten
      cases isWritten
  | ok client =>
      rw [isClient] at isWritten
      dsimp only at isWritten ⊢
      rw [MeegoClient.createTestCases_eq] at isWritten
      cases isAnswer : client.answers server projectKey 0 testCases with
      | error error =>
          rw [isAnswer] at isWritten
          cases isWritten
      | ok answers => exact ⟨answers, rfl⟩

/-- A single call for a known key is issued, whatever the server answers. -/
theorem callKnown_singleton (client : MeegoClient) {known : List String} (sent : Nat)
    {call : MeegoCall} (isKnown : call.testCaseKey ∈ known) :
    (callKnown client server known sent [call]).1 = [call] := by
  unfold callKnown
  rw [if_pos isKnown]
  cases server sent (call.request client) <;> rfl

/-- Whether a client can be built does not depend on its project. -/
theorem exists_client (projectKey : String)
    (answered : pipelineAnswers config server projectKey testCases = some answers) :
    config.isConfigured = true ∧
      ∃ client, MeegoClient.new config (some projectKey) = .ok client := by
  unfold pipelineAnswers at answered
  split at answered
  · rename_i configured
    refine ⟨configured, ?_⟩
    unfold MeegoClient.new at answered ⊢
    dsimp only at answered ⊢
    split
    · rename_i noUrl
      rw [if_pos noUrl] at answered
      cases answered
    · exact ⟨_, rfl⟩
  · cases answered

/-- A classification of a known key reaches the server. -/
theorem runPipeline_classified {storyId key : String}
    (answered : pipelineAnswers config server projectKey testCases = some answers)
    (isKnown : key ∈ getKnownTestCaseKeys (updateZip (assignKey storyId) testCases
      (answers.map WorkItemId.listed).reduceOption)) :
    MeegoCall.addLabelsToTestCase key [] ∈ runPipeline config server
      ⟨.ok testCases, fun _ => .ok [⟨key, []⟩], fun _ => .ok []⟩ storyId projectKey := by
  obtain ⟨configured, client, isClient⟩ := exists_client projectKey answered
  have issued : (writeTestCaseClassificationsToFeishuProject config server testCases.length
      [⟨key, []⟩] (updateZip (assignKey storyId) testCases
        (answers.map WorkItemId.listed).reduceOption) projectKey).1 =
      [.addLabelsToTestCase key []] := by
    unfold writeTestCaseClassificationsToFeishuProject writeBack
    rw [if_pos configured, isClient]
    exact callKnown_singleton client testCases.length isKnown
  unfold runPipeline
  dsimp only
  rw [writeTestCases_of_answers storyId answered]
  dsimp only
  split
  · apply List.mem_append_left
    rw [issued]
    exact List.mem_singleton.mpr rfl
  · rw [issued]
    exact List.mem_singleton.mpr rfl

theorem mem_reduceOption_listed_iff {id : String} :
    id ∈ (answers.map WorkItemId.listed).reduceOption ↔
      id ∈ answers.filterMap WorkItemId.created ∨ (.null ∈ answers ∧ id = "None") := by
  rw [← WorkItemId.mem_listed_iff]
  simp only [List.reduceOption, List.filterMap_map, Function.id_comp]

/-- **Write-back confinement, exactly.** Whatever the classification and review
agents answer, a run addresses created work items only, if and only if no creation
answered a null id, unless `None` is the id of another one, and the test cases that
got no id were generated without a key or with a created id. -/
theorem pipeline_confined_iff (config : MeegoConfig) (server : MeegoServer)
    (generated : List TestCase) (storyId projectKey : String) :
    (∀ classification review, ∀ call ∈ runPipeline config server
        ⟨.ok generated, classification, review⟩ storyId projectKey,
      ∃ answers ∈ pipelineAnswers config server projectKey generated,
        call.testCaseKey ∈ answers.filterMap WorkItemId.created) ↔
      ∀ answers ∈ pipelineAnswers config server projectKey generated,
        (.null ∈ answers → "None" ∈ answers.filterMap WorkItemId.created) ∧
        ∀ testCase ∈ generated.drop (answers.map WorkItemId.listed).reduceOption.length,
          ∀ key ∈ testCase.key, key = "" ∨ key ∈ answers.filterMap WorkItemId.created := by
  constructor
  · intro confined answers answered
    -- A key that is known after the write-back is addressed by some classification.
    have known_created : ∀ key, key ∈ getKnownTestCaseKeys (updateZip (assignKey storyId) generated
        (answers.map WorkItemId.listed).reduceOption) →
          key ∈ answers.filterMap WorkItemId.created := by
      intro key isKnown
      obtain ⟨same, isSame, isCreated⟩ :=
        confined _ _ _ (runPipeline_classified answered isKnown)
      obtain rfl : answers = same := Option.some.inj (answered.symm.trans isSame)
      exact isCreated
    have sameLength := length_of_answers answered
    constructor
    · intro isNull
      refine known_created "None" ((mem_known_of_written sameLength).mpr ⟨by decide, Or.inl ?_⟩)
      exact mem_reduceOption_listed_iff.mpr (Or.inr ⟨isNull, rfl⟩)
    · intro testCase left key keyed
      by_cases empty : key = ""
      · exact Or.inl empty
      · exact Or.inr (known_created key ((mem_known_of_written sameLength).mpr
          ⟨empty, Or.inr ⟨testCase, left, keyed⟩⟩))
  · intro created_keys classification review call issued
    obtain ⟨configured, tests, written, isGenerated, isWritten, isKnown⟩ :=
      known_of_runPipeline issued
    obtain rfl : generated = tests := Except.ok.inj isGenerated
    obtain ⟨answers, answered⟩ := answered_of_written configured isWritten
    refine ⟨answers, answered, ?_⟩
    obtain ⟨noNull, noKey⟩ := created_keys answers answered
    rw [writeTestCases_of_answers storyId answered] at isWritten
    obtain rfl := Except.ok.inj isWritten
    obtain ⟨nonempty, isId | ⟨testCase, left, keyed⟩⟩ :=
      (mem_known_of_written (length_of_answers answered)).mp isKnown
    · rcases mem_reduceOption_listed_iff.mp isId with isCreated | ⟨isNull, isNone⟩
      · exact isCreated
      · exact isNone ▸ noNull isNull
    · exact (noKey testCase left _ keyed).resolve_left nonempty

end Confinement

/-- The generating model filled in the key of a foreign work item, the creation answered
no id, and the classification names that key: the labels go to the foreign item. -/
theorem pipeline_labels_foreign_item :
    ∃ call ∈ runPipeline MeegoConfig.withSecret (answering [.absent])
        ⟨.ok [TestCase.named "9999"], fun _ => .ok [⟨"9999", ["UI"]⟩], fun _ => .ok []⟩
        "story" "project",
      call = .addLabelsToTestCase "9999" ["UI"] ∧
      pipelineAnswers MeegoConfig.withSecret (answering [.absent]) "project"
        [TestCase.named "9999"] = some [.absent] ∧
      call.testCaseKey ∉ [WorkItemId.absent].filterMap WorkItemId.created :=
  ⟨.addLabelsToTestCase "9999" ["UI"], by decide, rfl, rfl, by decide⟩

end QuAIA.Orchestrator
