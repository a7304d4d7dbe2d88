import QuAIA.Library.PosixPath
import QuAIA.Library.StepSystem
import QuAIA.Orchestrator.StreamConsumer
import QuAIA.Services.ReportedTime

/-!
Contract: the results directory from which the Allure report is generated (`AllureClient`).

Owns: the emptying of the two directories, what is written for each execution result, in every run
of generations that may fail at any write; and that the report is made from the results of its own
generation, each exactly once, with their artifacts.

Does not own: the bytes and the name of the file that the Allure logger writes for a test result;
the `allure` command, which leaves the results directory; and the creation of that directory.
-/

set_option autoImplicit false

namespace QuAIA.Services.AllureClient

open QuAIA.Common QuAIA.Library
open PosixPath PosixPath.FileTree

abbrev Bytes := List UInt8

/-! ## Allure's records -/

inductive Status where
  | passed
  | failed
  | broken
deriving DecidableEq

structure StatusDetails where
  message : String
  trace : Option String

structure AllureStep where
  name : String
  status : Status
  statusDetails : StatusDetails
  start : Option ℤ
  stop : Option ℤ

structure Attachment where
  name : String
  source : Component
  type : String

structure TestResult where
  name : String
  uuid : String
  status : Status
  statusDetails : Option StatusDetails
  steps : List AllureStep
  start : Option ℤ
  stop : Option ℤ
  attachments : List Attachment

/-! ## The code -/

/-- A step result with its two optional timestamps. -/
structure TimedStep where
  stepResult : TestStepResult
  executionStartTimestamp : Option String
  executionEndTimestamp : Option String

/-- An execution result with the timestamps of its steps. -/
structure TimedResult where
  result : TestExecutionResult
  steps : List TimedStep
  areSteps : steps.map TimedStep.stepResult = result.stepResults

structure AllureConfig where
  resultsDir : List Component
  reportDir : List Component
  apart : ¬resultsDir <+: reportDir ∧ ¬reportDir <+: resultsDir
  parse : String → Option DateTime
  localTimestamp : DateTime → ℚ
  /-- The bytes of the file of a test result. -/
  render : TestResult → Bytes

section Code

variable (config : AllureConfig)

def mapStatus : TestExecutionStatus → Status
  | .passed => .passed
  | .failed => .failed
  | .error => .broken

/-- A step keeps Allure's default time where the result has none, or none that can be read. -/
def stepTime (timestamp : Option String) : Option ℤ :=
  timestamp.bind fun text =>
    if text = "" then none
    else timestampToMillis config.parse config.localTimestamp 0 text false

def allureStep (step : TimedStep) : AllureStep where
  name := step.stepResult.stepDescription
  status := if step.stepResult.success then .passed else .failed
  statusDetails :=
    ⟨if step.stepResult.success then step.stepResult.actualResults
      else step.stepResult.errorMessage, none⟩
  start := stepTime config step.executionStartTimestamp
  stop := stepTime config step.executionEndTimestamp

def artifactsOf (timed : TimedResult) : List FileArtifact := timed.result.artifacts.getD []

def joinedLogs (timed : TimedResult) : Option String :=
  let logsList := Orchestrator.getExecutionLogsFromArtifacts (artifactsOf timed)
  if logsList.isEmpty then none else some ("\n\n".intercalate logsList)

/-- `_process_test_execution_result` up to the attachments. -/
def describe (uuid : String) (startNow stopNow : ℚ) (timed : TimedResult) : TestResult where
  name := timed.result.testCaseName
  uuid := uuid
  status := mapStatus timed.result.testExecutionStatus
  statusDetails :=
    if timed.result.testExecutionStatus = .passed then none
    else some ⟨timed.result.generalErrorMessage, joinedLogs timed⟩
  steps := timed.steps.map (allureStep config)
  start := timestampToMillis config.parse config.localTimestamp startNow
    timed.result.startTimestamp true
  stop := timestampToMillis config.parse config.localTimestamp stopNow
    timed.result.endTimestamp true
  attachments := []

/-- The artifacts that the loop attaches: those with bytes. -/
def attachable (timed : TimedResult) : List FileArtifact :=
  (artifactsOf timed).filter fun artifact => !artifact.raw.isEmpty

/-- What stands behind the last slash of the media type. -/
def extension (mediaType : String) : List Char :=
  if mediaType = "" then "bin".toList else (segments mediaType.toList).getLast?.getD []

def attachmentName (uuid mediaType : String) : Component :=
  uuid.toList ++ ['-'] ++ "attachment.".toList ++ extension mediaType

/-- A reported test result, with the name of its file. -/
structure Report where
  timed : TimedResult
  testResult : TestResult
  fileName : Component

inductive Phase where
  | idle
  | describing (rest : List TimedResult)
  | attaching (timed : TimedResult) (testResult : TestResult) (artifacts : List FileArtifact)
      (rest : List TimedResult)
  | generated

/-- The directories of the client, and its last generation: where it is, its results, the tree that
it found and what it has reported. -/
structure State where
  tree : FileTree Bytes
  phase : Phase
  results : List TimedResult
  before : FileTree Bytes
  reports : List Report

/-- `changed` is anything that happens between two generations. A generation has no suspension. The
Allure logger names the file of a test result. -/
inductive ReportEvent where
  | changed (tree : FileTree Bytes)
  | generateReport (results : List TimedResult)
  | described (uuid : String) (startNow stopNow : ℚ)
  | attached (uuid : String) (outcome : WriteOutcome Bytes)
  | logged (fileName : Component) (outcome : WriteOutcome Bytes)
  | generateHtml (tree : FileTree Bytes) (succeeded : Bool)

def State.initial (tree : FileTree Bytes) : State := ⟨tree, .idle, [], tree, []⟩

/-- No generation is under way. -/
def State.isBetween (client : State) : Bool :=
  match client.phase with
  | .idle => true
  | .generated => true
  | _ => false

/-- `_clean_directories`, which raises if the report directory is a file. -/
def cleanDirectories (tree : FileTree Bytes) : FileTree Bytes × Bool :=
  let cleaned := tree.clear config.resultsDir
  match cleaned.entryAt config.reportDir with
  | none => (cleaned, true)
  | some .directory => (cleaned.clear config.reportDir, true)
  | some (.file _) => (cleaned, false)

/-- An exception ends the generation, and leaves what is written. -/
def step (client : State) : ReportEvent → Option State
  | .changed tree => if client.isBetween then some { client with tree, phase := .idle } else none
  | .generateReport results =>
      if client.isBetween ∧ client.tree.isDirectory config.resultsDir = true then
        match cleanDirectories config client.tree with
        | (tree, true) => some ⟨tree, .describing results, results, client.tree, []⟩
        | (tree, false) => some { client with tree, phase := .idle }
      else none
  | .described uuid startNow stopNow =>
      match client.phase with
      | .describing (timed :: rest) =>
          let testResult := describe config uuid startNow stopNow timed
          some { client with phase := .attaching timed testResult (attachable timed) rest }
      | _ => none
  | .attached uuid outcome =>
      match client.phase with
      | .attaching timed testResult (artifact :: artifacts) rest =>
          let source := attachmentName uuid artifact.mediaType
          match client.tree.attempt config.resultsDir source artifact.raw outcome with
          | (tree, false) => some { client with tree, phase := .idle }
          | (tree, true) =>
              let attachments :=
                testResult.attachments ++ [⟨artifact.name, source, artifact.mediaType⟩]
              some { client with
                tree
                phase := .attaching timed { testResult with attachments } artifacts rest }
      | _ => none
  | .logged fileName outcome =>
      match client.phase with
      | .attaching timed testResult [] rest =>
          let content := config.render testResult
          match client.tree.attempt config.resultsDir fileName content outcome with
          | (tree, false) => some { client with tree, phase := .idle }
          | (tree, true) =>
              some { client with
                tree
                phase := .describing rest
                reports := client.reports ++ [⟨timed, testResult, fileName⟩] }
      | _ => none
  | .generateHtml tree succeeded =>
      match client.phase with
      | .describing [] =>
          some { client with tree, phase := if succeeded then .generated else .idle }
      | _ => none

end Code

/-! ## What the directory holds -/

section Contents

variable (config : AllureConfig)

def attachedFiles (attachments : List Attachment) (artifacts : List FileArtifact) :
    List (Component × Bytes) :=
  (attachments.zip artifacts).map fun pair => (pair.1.source, pair.2.raw)

/-- The files of a report: one for each attachment, and that of the test result. -/
def Report.files (report : Report) : List (Component × Bytes) :=
  attachedFiles report.testResult.attachments (attachable report.timed) ++
    [(report.fileName, config.render report.testResult)]

def State.files (client : State) : List (Component × Bytes) :=
  client.reports.flatMap (Report.files config) ++
    match client.phase with
    | .attaching timed testResult _ _ => attachedFiles testResult.attachments (attachable timed)
    | _ => []

structure Attaches (artifact : FileArtifact) (attachment : Attachment) : Prop where
  name : attachment.name = artifact.name
  type : attachment.type = artifact.mediaType
  source : ∃ uuid, attachment.source = attachmentName uuid artifact.mediaType

/-- The test result says what the execution result does, and has the artifacts attached. -/
structure Describes (timed : TimedResult) (artifacts : List FileArtifact)
    (testResult : TestResult) : Prop where
  described : ∃ uuid startNow stopNow, testResult =
    { describe config uuid startNow stopNow timed with attachments := testResult.attachments }
  attachments : List.Forall₂ Attaches artifacts testResult.attachments

/-- How far the generation is. -/
def State.Progress (client : State) : Prop :=
  match client.phase with
  | .idle => True
  | .describing rest => client.reports.map Report.timed ++ rest = client.results
  | .attaching timed testResult artifacts rest =>
      client.reports.map Report.timed ++ timed :: rest = client.results ∧
        ∃ done, attachable timed = done ++ artifacts ∧ Describes config timed done testResult
  | .generated => client.reports.map Report.timed = client.results

structure Sound (client : State) : Prop where
  isDirectory : client.tree.isDirectory config.resultsDir = true
  holds : client.tree.Holds config.resultsDir (client.files config)
  reported : ∀ report ∈ client.reports,
    Describes config report.timed (attachable report.timed) report.testResult
  progress : client.Progress config
  outside : ∀ path, ¬config.resultsDir <+: path → ¬config.reportDir <+: path →
    client.tree.entryAt path = client.before.entryAt path

/-- A new id is drawn for each attachment, the logger's file begins with a new id and a dash, and
the `allure` command leaves all but its own directory. -/
def WellBehaved (client : State) : ReportEvent → Prop
  | .attached uuid _ => client.tree.NewFront config.resultsDir (uuid.toList ++ ['-'])
  | .logged fileName _ =>
      ∃ newId, newId ++ ['-'] <+: fileName ∧
        client.tree.NewFront config.resultsDir (newId ++ ['-'])
  | .generateHtml tree _ =>
      ∀ path, ¬config.reportDir <+: path → tree.entryAt path = client.tree.entryAt path
  | _ => True

end Contents

/-! ## Steps -/

section Steps

variable {config : AllureConfig} {client next : State}

theorem AllureConfig.not_reportDir_prefix (config : AllureConfig) {path : List Component}
    (inResults : config.resultsDir <+: path) : ¬config.reportDir <+: path := by
  intro inReport
  rcases List.prefix_or_prefix_of_prefix inResults inReport with isPrefix | isPrefix
  · exact config.apart.1 isPrefix
  · exact config.apart.2 isPrefix

/-- Both directories are empty, one of them being the results directory. -/
theorem cleanDirectories_spec {tree cleaned : FileTree Bytes}
    (isDirectory : tree.isDirectory config.resultsDir = true)
    (isCleaned : cleanDirectories config tree = (cleaned, true)) :
    cleaned.isDirectory config.resultsDir = true ∧ cleaned.Holds config.resultsDir [] ∧
      ∀ path, ¬config.resultsDir <+: path → ¬config.reportDir <+: path →
        cleaned.entryAt path = tree.entryAt path := by
  rw [isDirectory_iff] at isDirectory ⊢
  have directoryStays : (tree.clear config.resultsDir).entryAt config.resultsDir =
      some .directory := by
    rw [entryAt_clear, if_neg (fun below => below.2 rfl)]
    exact isDirectory
  have outsideStays : ∀ path, ¬config.resultsDir <+: path →
      (tree.clear config.resultsDir).entryAt path = tree.entryAt path := by
    intro path outside
    rw [entryAt_clear, if_neg (fun below => outside below.1)]
  unfold cleanDirectories at isCleaned
  dsimp only at isCleaned
  split at isCleaned
  · cases isCleaned
    exact ⟨directoryStays, tree.holds_clear config.resultsDir,
      fun path outside _ => outsideStays path outside⟩
  · cases isCleaned
    refine ⟨?_, (tree.holds_clear config.resultsDir).congr ?_, ?_⟩
    · rw [entryAt_clear, if_neg (fun below => config.apart.2 below.1)]
      exact directoryStays
    · intro path below
      rw [entryAt_clear, if_neg (fun other => config.not_reportDir_prefix below.1 other.1)]
    · intro path outside notReport
      rw [entryAt_clear, if_neg (fun below => notReport below.1)]
      exact outsideStays path outside
  · cases isCleaned

/-- A new file in the directory. -/
theorem Sound.written (sound : Sound config client) {tree : FileTree Bytes}
    {component : Component} {content : Bytes}
    (absent : client.tree.entryAt (config.resultsDir ++ [component]) = none)
    (others : ∀ other, tree.entryAt other =
      if other = config.resultsDir ++ [component] then some (.file content)
      else client.tree.entryAt other) :
    tree.isDirectory config.resultsDir = true ∧
      tree.Holds config.resultsDir (client.files config ++ [(component, content)]) ∧
      ∀ path, ¬config.resultsDir <+: path → ¬config.reportDir <+: path →
        tree.entryAt path = client.before.entryAt path := by
  refine ⟨?_, sound.holds.create absent others, ?_⟩
  · have isDirectory := (client.tree.isDirectory_iff _).mp sound.isDirectory
    rw [isDirectory_iff, others, if_neg (by simp)]
    exact isDirectory
  · intro path outside notReport
    rw [others, if_neg]
    · exact sound.outside path outside notReport
    · rintro rfl
      exact outside (List.prefix_append config.resultsDir [component])

theorem attachedFiles_concat {attachments : List Attachment} {done : List FileArtifact}
    (aligned : attachments.length = done.length) (attachment : Attachment)
    (artifact : FileArtifact) (rest : List FileArtifact) :
    attachedFiles (attachments ++ [attachment]) (done ++ artifact :: rest) =
      attachedFiles attachments (done ++ artifact :: rest) ++
        [(attachment.source, artifact.raw)] := by
  have before : attachments.zip (done ++ artifact :: rest) = attachments.zip done := by
    have split : (attachments ++ []).zip (done ++ artifact :: rest) =
        attachments.zip done ++ [].zip (artifact :: rest) := List.zip_append aligned
    rw [List.append_nil, List.zip_nil_left, List.append_nil] at split
    exact split
  rw [attachedFiles, attachedFiles, before, List.zip_append aligned, List.map_append]
  rfl

theorem Sound.described (sound : Sound config client) {timed : TimedResult}
    {rest : List TimedResult} (isNext : client.phase = .describing (timed :: rest))
    (uuid : String) (startNow stopNow : ℚ) :
    Sound config { client with
      phase := .attaching timed (describe config uuid startNow stopNow timed) (attachable timed)
        rest } := by
  obtain ⟨isDirectory, holds, reported, progress, outside⟩ := sound
  rw [State.files, isNext] at holds
  rw [State.Progress, isNext] at progress
  refine ⟨isDirectory, holds, reported, ?_, outside⟩
  exact ⟨progress, [], rfl, ⟨uuid, startNow, stopNow, rfl⟩, .nil⟩

theorem Sound.attached (sound : Sound config client) {timed : TimedResult}
    {testResult : TestResult} {artifact : FileArtifact} {artifacts : List FileArtifact}
    {rest : List TimedResult}
    (isNext : client.phase = .attaching timed testResult (artifact :: artifacts) rest)
    {uuid : String} {tree : FileTree Bytes}
    (absent : client.tree.entryAt
      (config.resultsDir ++ [attachmentName uuid artifact.mediaType]) = none)
    (others : ∀ other, tree.entryAt other =
      if other = config.resultsDir ++ [attachmentName uuid artifact.mediaType] then
        some (.file artifact.raw)
      else client.tree.entryAt other) :
    Sound config { client with
      tree
      phase := .attaching timed
        { testResult with
          attachments := testResult.attachments ++
            [⟨artifact.name, attachmentName uuid artifact.mediaType, artifact.mediaType⟩] }
        artifacts rest } := by
  obtain ⟨isDirectory, holds, outside⟩ := sound.written absent others
  have progress := sound.progress
  rw [State.Progress, isNext] at progress
  obtain ⟨inOrder, done, split, ⟨uuidOfResult, startNow, stopNow, described⟩, attached⟩ := progress
  refine ⟨isDirectory, ?_, sound.reported, ⟨inOrder, done ++ [artifact], ?_, ?_, ?_⟩, outside⟩
  · have longer := attachedFiles_concat attached.length_eq.symm
      ⟨artifact.name, attachmentName uuid artifact.mediaType, artifact.mediaType⟩ artifact artifacts
    rw [← split] at longer
    rw [State.files, isNext] at holds
    rw [State.files]
    dsimp only
    rw [longer, ← List.append_assoc]
    exact holds
  · rw [split, List.append_assoc, List.singleton_append]
  · refine ⟨uuidOfResult, startNow, stopNow, ?_⟩
    rw [described]
  · exact List.rel_append attached (.cons ⟨rfl, rfl, uuid, rfl⟩ .nil)

theorem Sound.logged (sound : Sound config client) {timed : TimedResult} {testResult : TestResult}
    {rest : List TimedResult} (isNext : client.phase = .attaching timed testResult [] rest)
    {fileName : Component} {tree : FileTree Bytes}
    (absent : client.tree.entryAt (config.resultsDir ++ [fileName]) = none)
    (others : ∀ other, tree.entryAt other =
      if other = config.resultsDir ++ [fileName] then
        some (.file (config.render testResult))
      else client.tree.entryAt other) :
    Sound config { client with
      tree
      phase := .describing rest
      reports := client.reports ++ [⟨timed, testResult, fileName⟩] } := by
  obtain ⟨isDirectory, holds, outside⟩ := sound.written absent others
  have progress := sound.progress
  rw [State.Progress, isNext] at progress
  obtain ⟨inOrder, done, split, describes⟩ := progress
  rw [List.append_nil] at split
  refine ⟨isDirectory, ?_, ?_, ?_, outside⟩
  · rw [State.files, isNext] at holds
    rw [State.files]
    dsimp only at holds ⊢
    rw [List.flatMap_append, List.flatMap_singleton, Report.files, List.append_nil,
      ← List.append_assoc]
    exact holds
  · intro report member
    rcases List.mem_append.mp member with earlier | isLast
    · exact sound.reported report earlier
    · rw [List.mem_singleton.mp isLast]
      exact split ▸ describes
  · show (client.reports ++ [_]).map Report.timed ++ rest = client.results
    rw [List.map_append, List.append_assoc]
    exact inOrder

/-- A write under a new id that succeeds creates the file. -/
theorem created_of_attempt {tree after : FileTree Bytes} {newId : List Char}
    {component : Component} {content : Bytes} {outcome : WriteOutcome Bytes}
    (new : tree.NewFront config.resultsDir (newId ++ ['-']))
    (begins : newId ++ ['-'] <+: component)
    (attempted : tree.attempt config.resultsDir component content outcome = (after, true)) :
    tree.entryAt (config.resultsDir ++ [component]) = none ∧ ∀ other, after.entryAt other =
      if other = config.resultsDir ++ [component] then some (.file content)
      else tree.entryAt other := by
  have hasDash : '-' ∈ newId ++ ['-'] := List.mem_append_right _ (List.mem_singleton_self _)
  rcases tree.attempt_of_newFront new hasDash (by decide) begins attempted with
    ⟨failed, -⟩ | ⟨-, absent, written, whole, others⟩
  · cases failed
  · obtain rfl := whole rfl
    exact ⟨absent, others⟩

theorem begins_attachmentName (uuid mediaType : String) :
    uuid.toList ++ ['-'] <+: attachmentName uuid mediaType :=
  ⟨"attachment.".toList ++ extension mediaType, (List.append_assoc _ _ _).symm⟩

theorem Sound.finished (sound : Sound config client) (isNext : client.phase = .describing [])
    {tree : FileTree Bytes}
    (same : ∀ path, ¬config.reportDir <+: path → tree.entryAt path = client.tree.entryAt path) :
    Sound config { client with tree, phase := .generated } := by
  obtain ⟨isDirectory, holds, reported, progress, outside⟩ := sound
  rw [State.files, isNext] at holds
  rw [State.Progress, isNext] at progress
  refine ⟨?_, holds.congr ?_, reported, ?_, ?_⟩
  · rw [isDirectory_iff] at isDirectory ⊢
    rw [same _ config.apart.2]
    exact isDirectory
  · exact fun path below => same path (config.not_reportDir_prefix below.1)
  · exact (List.append_nil _).symm.trans progress
  · exact fun path notResults notReport =>
      (same path notReport).trans (outside path notResults notReport)

theorem sound_step {event : ReportEvent} (sound : client.phase ≠ .idle → Sound config client)
    (behaved : WellBehaved config client event) (isStep : step config client event = some next) :
    next.phase ≠ .idle → Sound config next := by
  intro isActive
  cases event with
  | changed tree =>
      simp only [step] at isStep
      split at isStep
      · cases isStep
        exact absurd rfl isActive
      · cases isStep
  | generateReport results =>
      simp only [step] at isStep
      split at isStep
      · rename_i begins
        split at isStep
        · rename_i tree isCleaned
          cases isStep
          obtain ⟨isDirectory, empty, outside⟩ := cleanDirectories_spec begins.2 isCleaned
          exact ⟨isDirectory, empty, fun _ member => absurd member List.not_mem_nil, rfl, outside⟩
        · cases isStep
          exact absurd rfl isActive
      · cases isStep
  | described uuid startNow stopNow =>
      simp only [step] at isStep
      split at isStep
      · rename_i timed rest isNext
        cases isStep
        exact (sound (by rw [isNext]; nofun)).described isNext uuid startNow stopNow
      · cases isStep
  | attached uuid outcome =>
      simp only [step] at isStep
      split at isStep
      · rename_i timed testResult artifact artifacts rest isNext
        split at isStep
        · cases isStep
          exact absurd rfl isActive
        · rename_i tree attempted
          cases isStep
          obtain ⟨absent, others⟩ :=
            created_of_attempt behaved (begins_attachmentName uuid artifact.mediaType) attempted
          exact (sound (by rw [isNext]; nofun)).attached isNext absent others
      · cases isStep
  | logged fileName outcome =>
      simp only [step] at isStep
      split at isStep
      · rename_i timed testResult rest isNext
        split at isStep
        · cases isStep
          exact absurd rfl isActive
        · rename_i tree attempted
          cases isStep
          obtain ⟨newId, begins, new⟩ := behaved
          obtain ⟨absent, others⟩ := created_of_attempt new begins attempted
          exact (sound (by rw [isNext]; nofun)).logged isNext absent others
      · cases isStep
  | generateHtml tree succeeded =>
      simp only [step] at isStep
      split at isStep
      · rename_i isNext
        cases isStep
        cases succeeded with
        | false => exact absurd rfl isActive
        | true => exact (sound (by rw [isNext]; nofun)).finished isNext behaved
      · cases isStep

end Steps

/-! ## The report -/

/-- What holds of the directory while a generation goes on, and until something else happens. -/
structure ReportPromise (config : AllureConfig) (client : State) : Prop where
  /-- It holds the files of the reports, and nothing that was there before. -/
  holds : client.tree.Holds config.resultsDir (client.files config)
  /-- A report says what its result does, with all artifacts that have bytes. -/
  reported : ∀ report ∈ client.reports,
    Describes config report.timed (attachable report.timed) report.testResult
  /-- The HTML is made from one report for each result. -/
  once : client.phase = .describing [] ∨ client.phase = .generated →
    client.reports.map Report.timed = client.results
  outside : ∀ path, ¬config.resultsDir <+: path → ¬config.reportDir <+: path →
    client.tree.entryAt path = client.before.entryAt path

theorem Sound.promise {config : AllureConfig} {client : State} (sound : Sound config client) :
    ReportPromise config client where
  holds := sound.holds
  reported := sound.reported
  once isOver := by
    have progress := sound.progress
    rcases isOver with isLast | isGenerated
    · rw [State.Progress, isLast] at progress
      exact (List.append_nil _).symm.trans progress
    · rw [State.Progress, isGenerated] at progress
      exact progress
  outside := sound.outside

/-- **The report is that of its own results.** In every run of generations that may fail at any
write, on any tree, whatever the media types of the artifacts: while a generation goes on, and when
the HTML is made, the results directory holds exactly the files of its reports, which say what its
results do with their artifacts; when the HTML is made each result has its one report; and nothing
outside the two directories has changed. -/
theorem report_mirrors_results (config : AllureConfig) (tree : FileTree Bytes)
    {events : List ReportEvent}
    (wellBehaved : StepSystem.Along (step config) (WellBehaved config) (.initial tree) events) :
    StepSystem.Throughout (step config)
      (fun client => client.phase ≠ .idle → ReportPromise config client) (.initial tree)
      events := by
  have sound : StepSystem.Throughout (step config)
      (fun client => client.phase ≠ .idle → Sound config client) (.initial tree) events :=
    StepSystem.throughout_of_along
      (fun _ _ _ (holds : _ → Sound config _) behaved isStep => sound_step holds behaved isStep)
      (fun isActive => absurd rfl isActive) wellBehaved
  exact StepSystem.throughout_mono (fun _ holds isActive => (holds isActive).promise) sound

/-- A failed test with a screenshot whose media type climbs. -/
def screenshotResult : TimedResult where
  result :=
    ⟨[], some "T-1", "Login", .failed, "no button", some [⟨"screen", [7], "image/../png"⟩], "", "",
      none, none⟩
  steps := []
  areSteps := rfl

theorem directories_apart :
    ¬["r".toList] <+: ["p".toList] ∧ ¬["p".toList] <+: ["r".toList] := by
  decide

def clockless : AllureConfig where
  resultsDir := ["r".toList]
  reportDir := ["p".toList]
  apart := directories_apart
  parse _ := none
  localTimestamp _ := 0
  render _ := [1]

/-- Both directories are empty. -/
def bothDirectories : FileTree Bytes where
  entries := (Dict.empty.set ["r".toList] .directory).set ["p".toList] .directory
  inDirectory := by
    intro path other found
    have listed : (path ++ [other]).length = 1 := by
      rw [Dict.get?_set, Dict.get?_set] at found
      split at found
      · rename_i same
        rw [same]
        rfl
      · split at found
        · rename_i same
          rw [same]
          rfl
        · cases found
    rw [List.length_append, List.length_singleton] at listed
    exact .inl (List.length_eq_zero_iff.mp (Nat.succ.inj listed))

/-- The first generation fails with half of the screenshot written. -/
def secondTry : List ReportEvent :=
  [.generateReport [screenshotResult], .described "u1" 0 0, .attached "a1" (.cut [0]),
    .generateReport [screenshotResult], .described "u2" 0 0, .attached "a2" .complete,
    .logged "a3-result.json".toList .complete]

def reportedTree : FileTree Bytes :=
  ((StepSystem.run (step clockless) (.initial bothDirectories) secondTry).map State.tree).getD
    bothDirectories

/-- The tree after the command, which writes a page. -/
def htmlTree : FileTree Bytes :=
  (reportedTree.attempt clockless.reportDir "index.html".toList [2] .complete).1

theorem entryAt_htmlTree (path : List Component) (outside : ¬clockless.reportDir <+: path) :
    htmlTree.entryAt path = reportedTree.entryAt path := by
  have new : reportedTree.NewFront clockless.reportDir "index".toList :=
    newFront_of_keys (by decide) (by decide +kernel)
  have inFront : 'i' ∈ "index".toList := by decide
  have begins : "index".toList <+: "index.html".toList := ⟨".html".toList, rfl⟩
  have attempted : reportedTree.attempt clockless.reportDir "index.html".toList [2] .complete =
      (htmlTree, _) := rfl
  rcases reportedTree.attempt_of_newFront new inFront (by decide) begins attempted with
    ⟨-, same⟩ | ⟨-, -, written, -, others⟩
  · exact congrArg (fun tree => tree.entryAt path) same
  · refine (others path).trans (if_neg ?_)
    rintro rfl
    exact outside (List.prefix_append _ _)

theorem report_mirrors_results_secondTry :
    StepSystem.Throughout (step clockless)
        (fun client => client.phase ≠ .idle → ReportPromise clockless client)
        (.initial bothDirectories) (secondTry ++ [.generateHtml htmlTree true]) ∧
      ∃ final ∈ StepSystem.run (step clockless) (.initial bothDirectories)
          (secondTry ++ [.generateHtml htmlTree true]),
        final.phase = .generated ∧ final.files clockless =
          [("a2-attachment.png".toList, [7]), ("a3-result.json".toList, [1])] := by
  refine ⟨report_mirrors_results clockless _ ?_, _, rfl, rfl, by decide +kernel⟩
  refine ⟨trivial, trivial, newFront_of_keys (by decide) ?_, trivial, trivial,
    newFront_of_keys (by decide) ?_, ⟨"a3".toList, ?_, newFront_of_keys (by decide) ?_⟩,
    entryAt_htmlTree, trivial⟩
  all_goals decide +kernel

end QuAIA.Services.AllureClient
