import QuAIA.Common.Models
import QuAIA.Library.Fallible
import QuAIA.Library.Text
import QuAIA.Services.ZephyrClient

/-!
Contract: the payload by which test executions are imported into Xray.

Owns: date-times without and with an offset, their comparison and their text; `parse_timestamp`;
the payload of `create_test_execution`; and for which results it is built and says what they
say.

Does not own: the parser of dates, an arbitrary function that gives `none` where it raises, and
the request that sends the payload.
-/

set_option autoImplicit false

namespace QuAIA.Services

open QuAIA.Common
open QuAIA.Library
open QuAIA.Library.Fallible

/-! ## Date-times -/

/-- A date-time; one that is offset-aware has its offset from UTC in microseconds. -/
structure DateTime where
  year : Nat
  month : Nat
  day : Nat
  hour : Nat
  minute : Nat
  second : Nat
  microsecond : Nat
  utcOffset : Option Int
deriving DecidableEq, Repr

namespace DateTime

def isLeap (year : Nat) : Bool :=
  year % 4 = 0 && (year % 100 ≠ 0 || year % 400 = 0)

def daysInMonth (year month : Nat) : Nat :=
  if month = 2 then if isLeap year then 29 else 28
  else if month ∈ [4, 6, 9, 11] then 30
  else 31

/-- `toordinal`: 1 is the first day of year 1. -/
def toOrdinal (moment : DateTime) : Nat :=
  let years := moment.year - 1
  (List.range' 1 (moment.month - 1)).foldl
    (fun days month => days + daysInMonth moment.year month)
    (years * 365 + years / 4 - years / 100 + years / 400 + moment.day)

/-- Microseconds since the beginning of year 1, by the clock on the wall. -/
def wallTime (moment : DateTime) : Int :=
  (((moment.toOrdinal * 24 + moment.hour) * 60 + moment.minute) * 60 + moment.second) * 1000000 +
    moment.microsecond

/-- The same in UTC, of a naive one as if it were in UTC. -/
def instant (moment : DateTime) : Int := moment.wallTime - moment.utcOffset.getD 0

def aware (moment : DateTime) : Bool := moment.utcOffset.isSome

/-- `first < second`. -/
def lt (first second : DateTime) : Except PyError Bool :=
  if first.aware = second.aware then .ok (decide (first.instant < second.instant))
  else .error (.exception "can't compare offset-naive and offset-aware datetimes")

def pad (width value : Nat) : String :=
  let digits := toString value
  "".pushn '0' (width - digits.length) ++ digits

/-- `_format_offset`. -/
def formatOffset (offset : Int) : String :=
  let microseconds := offset.natAbs
  let seconds := microseconds / 1000000
  let minutes := seconds / 60
  (if offset < 0 then "-" else "+") ++ pad 2 (minutes / 60) ++ ":" ++ pad 2 (minutes % 60) ++
    if microseconds % 60000000 = 0 then ""
    else
      ":" ++ pad 2 (seconds % 60) ++
        if microseconds % 1000000 = 0 then "" else "." ++ pad 6 (microseconds % 1000000)

def isoformat (moment : DateTime) : String :=
  pad 4 moment.year ++ "-" ++ pad 2 moment.month ++ "-" ++ pad 2 moment.day ++ "T" ++
    pad 2 moment.hour ++ ":" ++ pad 2 moment.minute ++ ":" ++ pad 2 moment.second ++
    (if moment.microsecond = 0 then "" else "." ++ pad 6 moment.microsecond) ++
    (moment.utcOffset.map formatOffset).getD ""

example : isoformat ⟨2023, 1, 1, 10, 0, 0, 0, some 19800000000⟩ = "2023-01-01T10:00:00+05:30" := by
  decide +kernel

/-- The loop of `min` and of `max`: a later item is taken when it is better. -/
def select (better : DateTime → DateTime → Except PyError Bool) :
    DateTime → List DateTime → Except PyError DateTime
  | current, [] => .ok current
  | current, moment :: rest => do
      if ← better moment current then select better moment rest else select better current rest

/-- `min(times).isoformat()` if there are times. -/
def earliest : List DateTime → Except PyError (Option String)
  | [] => .ok none
  | first :: rest => do return some (← select lt first rest).isoformat

/-- `max(times).isoformat()` if there are times. -/
def latest : List DateTime → Except PyError (Option String)
  | [] => .ok none
  | first :: rest => do
      return some (← select (fun moment current => lt current moment) first rest).isoformat

end DateTime

/-! ## The payload -/

section Payload

variable (parse : String → Option DateTime)

/-- `parse_timestamp`: what comes before the first comma is parsed. -/
def parseTimestamp (timestampStr : String) : Option DateTime :=
  let cleaned := Text.strip (timestampStr.toList.takeWhile (· ≠ ','))
  if cleaned.isEmpty then none else parse (String.ofList cleaned)

/-- The value of an attribute of a `FileArtifact`. -/
inductive AttributeValue where
  | text (text : String)
  | bytes (bytes : List UInt8)
deriving DecidableEq, Repr

/-- `getattr(art, name)`. The class has slots for its three fields and no others. -/
def fileAttribute (art : FileArtifact) (name : String) : Except PyError AttributeValue :=
  if name = "name" then .ok (.text art.name)
  else if name = "raw" then .ok (.bytes art.raw)
  else if name = "media_type" then .ok (.text art.mediaType)
  else .error (.exception s!"'FileArtifact' object has no attribute '{name}'")

structure Evidence where
  filename : AttributeValue
  data : AttributeValue
  contentType : AttributeValue
deriving DecidableEq, Repr

structure XrayStep where
  status : String
  comment : String
  actualResults : String
deriving DecidableEq, Repr

structure XrayTest where
  testKey : Option String
  status : String
  steps : List XrayStep
  evidences : List Evidence
  start : Option String
  finish : Option String
  comment : Option String
deriving DecidableEq, Repr

structure XrayInfo where
  summary : String
  projectKey : String
  testPlanKey : String
  startDate : Option String
  finishDate : Option String
  version : Option String
deriving DecidableEq, Repr

structure XrayPayload where
  info : XrayInfo
  tests : List XrayTest
deriving DecidableEq, Repr

/-- A result with its `incident_creation_result`. -/
structure ReportedResult where
  result : TestExecutionResult
  incidentCreationResult : Option IncidentCreationResult

/-- `result.testExecutionStatus.upper()`. -/
def statusUpper : TestExecutionStatus → String
  | .passed => "PASSED"
  | .failed => "FAILED"
  | .error => "ERROR"

def stepEntry (stepResult : TestStepResult) : XrayStep where
  status := if stepResult.success then "PASS" else "FAIL"
  comment := if stepResult.success then "" else stepResult.errorMessage
  actualResults := stepResult.actualResults

/-- The evidence of one artifact, with the attributes that the source reads. -/
def evidence (art : FileArtifact) : Except PyError Evidence := do
  let filename ← fileAttribute art "name"
  let data ← fileAttribute art "bytes"
  let contentType ← fileAttribute art "mimeType"
  return ⟨filename, data, contentType⟩

/-- The comment of a test that has failed. -/
def failureComment (report : ReportedResult) : Option String :=
  if report.result.testExecutionStatus = .passed then none
  else
    let comment := report.result.generalErrorMessage
    match report.incidentCreationResult with
    | none => some comment
    | some incident =>
        let withIncident :=
          match incident.incidentKey with
          | some key => if key = "" then comment else comment ++ s!"\n\nIncident created: {key}"
          | none => comment
        if incident.duplicates.isEmpty then some withIncident
        else
          some (withIncident ++ "\n\nPotential duplicates found: " ++
            ", ".intercalate (incident.duplicates.map DuplicateIssue.issueKey))

def testEntry (report : ReportedResult) : Except PyError XrayTest := do
  let result := report.result
  let evidences ← (result.artifacts.getD []).mapM evidence
  return {
    testKey := result.testCaseKey
    status := statusUpper result.testExecutionStatus
    steps := result.stepResults.map stepEntry
    evidences := evidences
    start := (parseTimestamp parse result.startTimestamp).map DateTime.isoformat
    finish := (parseTimestamp parse result.endTimestamp).map DateTime.isoformat
    comment := failureComment report }

def startTimes (reports : List ReportedResult) : List DateTime :=
  reports.filterMap fun report => parseTimestamp parse report.result.startTimestamp

def finishTimes (reports : List ReportedResult) : List DateTime :=
  reports.filterMap fun report => parseTimestamp parse report.result.endTimestamp

/-- `create_test_execution` up to the request: the payload, or what is raised. -/
def createTestExecutionPayload (reports : List ReportedResult) (projectKey testPlanKey : String)
    (versionId : Option String) : Except PyError XrayPayload := do
  let startDate ← DateTime.earliest (startTimes parse reports)
  let finishDate ← DateTime.latest (finishTimes parse reports)
  let tests ← reports.mapM (testEntry parse)
  return {
    info := {
      summary := s!"Execution of automated tests for Test Plan {testPlanKey}"
      projectKey := projectKey
      testPlanKey := testPlanKey
      startDate := startDate
      finishDate := finishDate
      version := versionId.filter fun version => version ≠ "" }
    tests := tests }

end Payload

/-! ## The earliest and the latest -/

namespace DateTime

/-- All of them are naive, or all are aware. -/
def Uniform (times : List DateTime) : Prop :=
  ∀ first ∈ times, ∀ second ∈ times, first.aware = second.aware

/-- The text is that of a time which comes first in an order, if there are times. -/
def IsFirst (before : DateTime → DateTime → Prop) (times : List DateTime)
    (text : Option String) : Prop :=
  (times = [] ∧ text = none) ∨
    ∃ moment ∈ times, text = some moment.isoformat ∧ ∀ other ∈ times, before moment other

section Select

variable {better : DateTime → DateTime → Except PyError Bool} {score : DateTime → Int}

/-- A selection by a score, which fails for times of two kinds. -/
structure Compares (better : DateTime → DateTime → Except PyError Bool)
    (score : DateTime → Int) : Prop where
  compares : ∀ moment current, moment.aware = current.aware →
    better moment current = .ok (decide (score moment < score current))
  raises : ∀ moment current, moment.aware ≠ current.aware →
    ∃ error, better moment current = .error error

theorem compares_lt : Compares lt instant where
  compares _ _ same := if_pos same
  raises _ _ differ := ⟨_, if_neg differ⟩

theorem compares_gt : Compares (fun moment current => lt current moment)
    (fun moment => -moment.instant) where
  compares _ _ same := by
    rw [lt, if_pos same.symm]
    congr 2
    exact propext (by omega)
  raises _ _ differ := ⟨_, if_neg (Ne.symm differ)⟩

/-- Among times of one kind, one with the least score is selected. -/
theorem select_eq_ok (selects : Compares better score) {current : DateTime}
    {rest : List DateTime} (same : ∀ moment ∈ rest, moment.aware = current.aware) :
    ∃ moment ∈ current :: rest, select better current rest = .ok moment ∧
      ∀ other ∈ current :: rest, score moment ≤ score other := by
  induction rest generalizing current with
  | nil => exact ⟨current, List.mem_singleton_self current, rfl, by simp⟩
  | cons next rest inductionHypothesis =>
      have isSame := same next List.mem_cons_self
      have others : ∀ moment ∈ rest, moment.aware = current.aware :=
        fun moment member => same moment (List.mem_cons_of_mem next member)
      rw [select, selects.compares next current isSame]
      by_cases isBetter : score next < score current
      · obtain ⟨moment, member, selected, least⟩ := inductionHypothesis (fun moment member =>
          (others moment member).trans isSame.symm)
        refine ⟨moment, List.mem_cons_of_mem current member, ?_, ?_⟩
        · rw [decide_eq_true isBetter]
          exact selected
        · intro other inside
          rcases List.mem_cons.mp inside with rfl | later
          · have first := least next List.mem_cons_self
            omega
          · exact least other later
      · obtain ⟨moment, member, selected, least⟩ := inductionHypothesis others
        refine ⟨moment, ?_, ?_, ?_⟩
        · rcases List.mem_cons.mp member with rfl | later
          · exact List.mem_cons_self
          · exact List.mem_cons_of_mem current (List.mem_cons_of_mem next later)
        · rw [decide_eq_false isBetter]
          exact selected
        · intro other inside
          have first := least current List.mem_cons_self
          rcases List.mem_cons.mp inside with rfl | later
          · exact first
          · rcases List.mem_cons.mp later with rfl | last
            · omega
            · exact least other (List.mem_cons_of_mem current last)

/-- A time of the other kind cannot be compared. -/
theorem select_eq_error (selects : Compares better score) {current other : DateTime}
    {rest : List DateTime} (member : other ∈ rest) (differs : other.aware ≠ current.aware) :
    ∃ error, select better current rest = .error error := by
  induction rest generalizing current with
  | nil => cases member
  | cons next rest inductionHypothesis =>
      rw [select]
      by_cases isSame : next.aware = current.aware
      · rw [selects.compares next current isSame]
        have later : other ∈ rest := by
          rcases List.mem_cons.mp member with rfl | later
          · exact absurd isSame differs
          · exact later
        cases decide (score next < score current) with
        | true => exact inductionHypothesis later (isSame ▸ differs)
        | false => exact inductionHypothesis later differs
      · obtain ⟨error, raised⟩ := selects.raises next current isSame
        exact ⟨error, by rw [raised]; rfl⟩

/-- A selection ends in a time exactly when all times are of one kind. -/
theorem exists_select_iff (selects : Compares better score) (first : DateTime)
    (rest : List DateTime) :
    (∃ moment, select better first rest = .ok moment) ↔ Uniform (first :: rest) := by
  constructor
  · rintro ⟨moment, selected⟩
    have sameAsFirst : ∀ other ∈ first :: rest, other.aware = first.aware := by
      intro other member
      rcases List.mem_cons.mp member with rfl | later
      · rfl
      · by_contra differs
        obtain ⟨error, raised⟩ := select_eq_error selects later differs
        rw [raised] at selected
        cases selected
    intro one isOne other isOther
    exact (sameAsFirst one isOne).trans (sameAsFirst other isOther).symm
  · intro uniform
    have same : ∀ other ∈ rest, other.aware = first.aware := fun other later =>
      uniform other (List.mem_cons_of_mem first later) first List.mem_cons_self
    obtain ⟨moment, -, selected, -⟩ := select_eq_ok selects same
    exact ⟨moment, selected⟩

/-- What is selected is first by the score. -/
theorem isFirst_of_select (selects : Compares better score) {first moment : DateTime}
    {rest : List DateTime} (selected : select better first rest = .ok moment) :
    IsFirst (fun one other => score one ≤ score other) (first :: rest)
      (some moment.isoformat) := by
  have uniform := (exists_select_iff selects first rest).mp ⟨moment, selected⟩
  obtain ⟨least, member, selectedLeast, isLeast⟩ := select_eq_ok selects fun other later =>
    uniform other (List.mem_cons_of_mem first later) first List.mem_cons_self
  rw [selected] at selectedLeast
  cases selectedLeast
  exact Or.inr ⟨moment, member, rfl, isLeast⟩

/-- The same of the text that is made of it. -/
theorem exists_text_iff (selects : Compares better score) (first : DateTime)
    (rest : List DateTime) :
    (∃ text : Option String, (do return some (← select better first rest).isoformat) =
      (.ok text : Except PyError _)) ↔ Uniform (first :: rest) := by
  rw [← exists_select_iff selects]
  simp only [bind_eq_ok_iff]
  constructor
  · rintro ⟨-, moment, selected, -⟩
    exact ⟨moment, selected⟩
  · rintro ⟨moment, selected⟩
    exact ⟨_, moment, selected, rfl⟩

end Select

theorem uniform_nil : Uniform [] := fun _ member => absurd member List.not_mem_nil

theorem exists_earliest_iff : ∀ times : List DateTime,
    (∃ text, earliest times = .ok text) ↔ Uniform times
  | [] => ⟨fun _ => uniform_nil, fun _ => ⟨none, rfl⟩⟩
  | first :: rest => exists_text_iff compares_lt first rest

theorem exists_latest_iff : ∀ times : List DateTime,
    (∃ text, latest times = .ok text) ↔ Uniform times
  | [] => ⟨fun _ => uniform_nil, fun _ => ⟨none, rfl⟩⟩
  | first :: rest => exists_text_iff compares_gt first rest

/-- In the order of time. -/
def NotAfter (one other : DateTime) : Prop := one.instant ≤ other.instant

def NotBefore (one other : DateTime) : Prop := other.instant ≤ one.instant

theorem isFirst_of_earliest {times : List DateTime} {text : Option String}
    (computed : earliest times = .ok text) : IsFirst NotAfter times text := by
  cases times with
  | nil => exact Or.inl ⟨rfl, (Except.ok.inj computed).symm⟩
  | cons first rest =>
      obtain ⟨moment, selected, same⟩ := bind_eq_ok_iff.mp computed
      rw [← Except.ok.inj same]
      exact isFirst_of_select compares_lt selected

theorem isFirst_of_latest {times : List DateTime} {text : Option String}
    (computed : latest times = .ok text) : IsFirst NotBefore times text := by
  cases times with
  | nil => exact Or.inl ⟨rfl, (Except.ok.inj computed).symm⟩
  | cons first rest =>
      obtain ⟨moment, selected, same⟩ := bind_eq_ok_iff.mp computed
      rw [← Except.ok.inj same]
      obtain ⟨isNil, -⟩ | ⟨found, member, isText, isFirst⟩ :=
        isFirst_of_select compares_gt selected
      · cases isNil
      · exact Or.inr ⟨found, member, isText, fun other inside =>
          Int.neg_le_neg_iff.mp (isFirst other inside)⟩

end DateTime

/-! ## What a payload says -/

/-- The evidence that an artifact is. -/
def asEvidence (art : FileArtifact) : Evidence :=
  ⟨.text art.name, .bytes art.raw, .text art.mediaType⟩

structure CarriesStep (stepResult : TestStepResult) (step : XrayStep) : Prop where
  status : step.status = if stepResult.success then "PASS" else "FAIL"
  comment : stepResult.success = false → step.comment = stepResult.errorMessage
  actualResults : step.actualResults = stepResult.actualResults

/-- A test entry has the key, the status, the steps and the evidences of a result. -/
structure Carries (report : ReportedResult) (test : XrayTest) : Prop where
  testKey : test.testKey = report.result.testCaseKey
  status : test.status = statusUpper report.result.testExecutionStatus
  steps : List.Forall₂ CarriesStep report.result.stepResults test.steps
  evidences : test.evidences = (report.result.artifacts.getD []).map asEvidence

/-- One entry for each result in their order, from the earliest start to the latest end. -/
structure Faithful (parse : String → Option DateTime) (reports : List ReportedResult)
    (payload : XrayPayload) : Prop where
  tests : List.Forall₂ Carries reports payload.tests
  startDate : DateTime.IsFirst DateTime.NotAfter (startTimes parse reports) payload.info.startDate
  finishDate :
    DateTime.IsFirst DateTime.NotBefore (finishTimes parse reports) payload.info.finishDate

theorem carriesStep_stepEntry (stepResult : TestStepResult) :
    CarriesStep stepResult (stepEntry stepResult) where
  status := rfl
  comment failed := by rw [stepEntry, failed]; rfl
  actualResults := rfl

/-- No artifact has the attributes that are read. -/
theorem evidence_raises (art : FileArtifact) : ∃ error, evidence art = .error error :=
  ⟨_, rfl⟩

theorem exists_testEntry_iff (parse : String → Option DateTime) (report : ReportedResult) :
    (∃ test, testEntry parse report = .ok test) ↔ report.result.artifacts.getD [] = [] := by
  have entered : (∃ test, testEntry parse report = .ok test) ↔
      ∃ evidences, (report.result.artifacts.getD []).mapM evidence = .ok evidences := by
    simp only [testEntry, bind_eq_ok_iff]
    constructor
    · rintro ⟨-, evidences, made, -⟩
      exact ⟨evidences, made⟩
    · rintro ⟨evidences, made⟩
      exact ⟨_, evidences, made, rfl⟩
  rw [entered, exists_mapM_eq_ok_iff, List.eq_nil_iff_forall_not_mem]
  constructor
  · intro made art member
    obtain ⟨entry, isEntry⟩ := made art member
    obtain ⟨error, raised⟩ := evidence_raises art
    rw [raised] at isEntry
    cases isEntry
  · intro noArtifact art member
    exact absurd member (noArtifact art)

theorem carries_of_testEntry {parse : String → Option DateTime} {report : ReportedResult}
    {test : XrayTest} (entered : testEntry parse report = .ok test) : Carries report test := by
  have noArtifact := (exists_testEntry_iff parse report).mp ⟨test, entered⟩
  rw [testEntry, noArtifact] at entered
  cases entered
  exact {
    testKey := rfl
    status := rfl
    steps := by
      rw [List.forall₂_map_right_iff, List.forall₂_same]
      exact fun stepResult _ => carriesStep_stepEntry stepResult
    evidences := by rw [noArtifact]; rfl }

section Import

variable (parse : String → Option DateTime) (reports : List ReportedResult)
  (projectKey testPlanKey : String) (versionId : Option String)

/-- A payload that is built is faithful. -/
theorem faithful_of_payload {payload : XrayPayload}
    (built : createTestExecutionPayload parse reports projectKey testPlanKey versionId =
      .ok payload) : Faithful parse reports payload := by
  obtain ⟨startDate, started, later⟩ := bind_eq_ok_iff.mp built
  obtain ⟨finishDate, finished, last⟩ := bind_eq_ok_iff.mp later
  obtain ⟨tests, entered, same⟩ := bind_eq_ok_iff.mp last
  cases same
  exact {
    tests := (mapM_eq_ok_iff.mp entered).imp fun _ _ => carries_of_testEntry
    startDate := DateTime.isFirst_of_earliest started
    finishDate := DateTime.isFirst_of_latest finished }

theorem exists_payload_iff :
    (∃ payload, createTestExecutionPayload parse reports projectKey testPlanKey versionId =
      .ok payload) ↔
      (∀ report ∈ reports, report.result.artifacts.getD [] = []) ∧
        DateTime.Uniform (startTimes parse reports) ∧
        DateTime.Uniform (finishTimes parse reports) := by
  simp only [← exists_testEntry_iff parse, ← exists_mapM_eq_ok_iff]
  rw [← DateTime.exists_earliest_iff (startTimes parse reports),
    ← DateTime.exists_latest_iff (finishTimes parse reports)]
  constructor
  · rintro ⟨payload, built⟩
    obtain ⟨startDate, started, later⟩ := bind_eq_ok_iff.mp built
    obtain ⟨finishDate, finished, last⟩ := bind_eq_ok_iff.mp later
    obtain ⟨tests, entered, -⟩ := bind_eq_ok_iff.mp last
    exact ⟨⟨tests, entered⟩, ⟨startDate, started⟩, finishDate, finished⟩
  · rintro ⟨⟨tests, entered⟩, ⟨startDate, started⟩, finishDate, finished⟩
    exact ⟨_, bind_eq_ok_iff.mpr ⟨startDate, started,
      bind_eq_ok_iff.mpr ⟨finishDate, finished, bind_eq_ok_iff.mpr ⟨tests, entered, rfl⟩⟩⟩⟩

/-- **Import into Xray.** The payload is built, and says what the results say, exactly when no
result has an artifact and neither the starts nor the ends mix naive with aware times. -/
theorem uploads_iff :
    (∃ payload, createTestExecutionPayload parse reports projectKey testPlanKey versionId =
      .ok payload ∧ Faithful parse reports payload) ↔
      (∀ report ∈ reports, report.result.artifacts.getD [] = []) ∧
        DateTime.Uniform (startTimes parse reports) ∧
        DateTime.Uniform (finishTimes parse reports) := by
  rw [← exists_payload_iff parse reports projectKey testPlanKey versionId]
  constructor
  · rintro ⟨payload, built, -⟩
    exact ⟨payload, built⟩
  · rintro ⟨payload, built⟩
    exact ⟨payload, built, faithful_of_payload parse reports projectKey testPlanKey versionId built⟩

end Import

/-- A passed test with one screenshot. -/
def screenshotReport : ReportedResult where
  result := {
    stepResults := []
    testCaseKey := some "SHOP-1"
    testCaseName := "Login"
    testExecutionStatus := .passed
    generalErrorMessage := ""
    artifacts := some [⟨"login.png", [137, 80, 78, 71], "image/png"⟩]
    startTimestamp := "2023-01-01T10:00:00"
    endTimestamp := "2023-01-01T10:01:00"
    systemDescription := none
    testCase := none }
  incidentCreationResult := none

/-- The times of this report, read. -/
def parseScreenshotTimes (timestamp : String) : Option DateTime :=
  if timestamp = "2023-01-01T10:00:00" then some ⟨2023, 1, 1, 10, 0, 0, 0, none⟩
  else if timestamp = "2023-01-01T10:01:00" then some ⟨2023, 1, 1, 10, 1, 0, 0, none⟩
  else none

/-- No payload is built for it. -/
theorem screenshot_raises :
    ¬∀ (parse : String → Option DateTime) (reports : List ReportedResult)
      (projectKey testPlanKey : String) (versionId : Option String),
      ∃ payload, createTestExecutionPayload parse reports projectKey testPlanKey versionId =
        .ok payload ∧ Faithful parse reports payload := by
  intro uploads
  obtain ⟨payload, built, -⟩ :=
    uploads parseScreenshotTimes [screenshotReport] "SHOP" "SHOP-9" none
  have noArtifact := ((exists_payload_iff parseScreenshotTimes [screenshotReport] "SHOP" "SHOP-9"
    none).mp ⟨payload, built⟩).1 screenshotReport List.mem_cons_self
  cases noArtifact

end QuAIA.Services
