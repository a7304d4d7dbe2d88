import QuAIA.Library.Dict
import QuAIA.Library.StepSystem

/-!
Contract: the synchronization of a Jira project into the vector database
(`JiraRagSyncService`), with the changes of the project that happen around it.

Owns: the two timestamp formats, the payload of an issue, the operations of `sync_project`
one by one, its failure at any of them, and the upserts that a failed run leaves behind:
`asyncio.gather` raises the first exception and lets the other upserts run on.

Does not own: embeddings, and the scrolling of pages; a search and a scroll are complete.
The database is a map, and an operation that raises has no effect on it. Times are
nanoseconds since 1970, and a stored timestamp is the second that its text denotes. Issues
of other projects have other ids.
-/

set_option autoImplicit false

namespace QuAIA.Services

open QuAIA.Library

/-! ## Timestamps -/

def second : Int := 1000000000

/-- `EXECUTION_DELAY_SECONDS`. -/
def executionDelaySeconds : Int := 60

/-- `DEFAULT_LAST_UPDATE`. -/
def defaultLastUpdate : Int := 0

/-- The timestamp that `_save_last_update_timestamp` stores: whole seconds. -/
def storedTimestamp (now : Int) : Int := (now - executionDelaySeconds * second) / second

/-- `_to_jql_timestamp`: whole minutes, as an instant. -/
def toJqlTimestamp (stored : Int) : Int := stored / 60 * 60 * second

/-- The minute of an instant. -/
def minute (instant : Int) : Int := instant / (60 * second)

/-! ## Issues -/

/-- `JiraIssue`. -/
structure JiraIssue where
  id : Nat
  key : String
  summary : String
  description : String
  issueType : String
  status : Option String
  projectKey : Option String
  source : Option String
  updatedAt : Option Int
deriving DecidableEq, Repr

/-- The fields of an issue in Jira. -/
structure IssueFields where
  key : String
  summary : Option String
  description : Option String
  issueType : String
  status : String
  updated : Int
deriving DecidableEq, Repr

/-- `_to_jira_issue`. -/
def toJiraIssue (projectKey : String) (id : Nat) (fields : IssueFields) : JiraIssue where
  id := id
  key := fields.key
  summary := fields.summary.getD ""
  description := fields.description.getD ""
  issueType := fields.issueType
  status := some fields.status
  projectKey := some projectKey
  source := none
  updatedAt := some fields.updated

/-- `_fetch_all_issue_ids`. -/
def fetchAllIssueIds (jira : Dict Nat IssueFields) : List Nat := jira.keys

/-- `_fetch_issues_updated_since`. -/
def fetchIssuesUpdatedSince (projectKey : String) (jira : Dict Nat IssueFields)
    (lastUpdate : Int) : List JiraIssue :=
  (jira.entries.filter fun entry => toJqlTimestamp lastUpdate ≤ entry.2.updated).map
    fun entry => toJiraIssue projectKey entry.1 entry.2

/-- `scroll_all_ids_by_project`. -/
def scrollAllIdsByProject (issuesDb : Dict Nat JiraIssue) (projectKey : String) : List Nat :=
  (issuesDb.entries.filter fun entry => entry.2.projectKey = some projectKey).map Prod.fst

/-! ## The system -/

/-- The operation of `sync_project` that comes next. A run remembers the instant of its
fetch, and `saving` the one from which the timestamp is taken. -/
inductive SyncPhase where
  | idle
  | reconciling
  | scrolling (currentIds : List Nat)
  | removing (staleIds : List Nat)
  | reading
  | fetching (lastUpdate : Int)
  | ensuring (fetchedAt : Int) (issues : List JiraIssue)
  | upserting (fetchedAt : Int) (issues pending : List JiraIssue)
  | deleting (fetchedAt : Int) (issues : List JiraIssue)
  | saving (fetchedAt takenAt : Int)
deriving DecidableEq, Repr

/-- Jira, both collections, the run, and the upserts that failed runs have left behind.
`lastFetch` is the fetch of the last run that has saved its timestamp. -/
structure RagSystem where
  now : Int
  jira : Dict Nat IssueFields
  issuesDb : Dict Nat JiraIssue
  lastUpdate : Option Int
  phase : SyncPhase
  abandoned : List JiraIssue
  lastFetch : Option Int

/-- An empty project that has never been synchronized. -/
def RagSystem.initial (issuesDb : Dict Nat JiraIssue) : RagSystem :=
  ⟨0, .empty, issuesDb, none, .idle, [], none⟩

inductive RagAction where
  | created (id : Nat) (fields : IssueFields)
  | edited (id : Nat) (fields : IssueFields)
  | removed (id : Nat)
  /-- `sync_project` is called. -/
  | began
  /-- The operation of the run returns. -/
  | advanced
  /-- A pending upsert of the run returns. -/
  | upserted (index : Nat)
  /-- The operation of the run raises, or one of its pending upserts. -/
  | failed
  | upsertFailed (index : Nat)
  /-- An upsert that was left behind returns, or raises. -/
  | landed (index : Nat)
  | dropped (index : Nat)
deriving DecidableEq, Repr

structure RagEvent where
  time : Int
  action : RagAction
deriving DecidableEq, Repr

section Step

variable (projectKey : String) (validStatuses : List String)

/-- `active_issues`. -/
def activeIssues (issues : List JiraIssue) : List JiraIssue :=
  issues.filter fun issue => issue.status.any validStatuses.contains

/-- `inactive_ids`. -/
def inactiveIds (issues : List JiraIssue) : List Nat :=
  (issues.filter fun issue => !issue.status.any validStatuses.contains).map JiraIssue.id

/-- The `gather` of the upserts is over when none is pending. -/
def SyncPhase.gather (fetchedAt : Int) (issues pending : List JiraIssue) : SyncPhase :=
  if pending.isEmpty then .deleting fetchedAt issues else .upserting fetchedAt issues pending

def upsert (issuesDb : Dict Nat JiraIssue) (issue : JiraIssue) : Dict Nat JiraIssue :=
  issuesDb.set issue.id issue

/-- The upserts that are under way. -/
def SyncPhase.pending : SyncPhase → List JiraIssue
  | .upserting _ _ pending => pending
  | _ => []

/-- The operation of `sync_project` returns. -/
def RagSystem.advance (system : RagSystem) : Option RagSystem :=
  match system.phase with
  | .idle => none
  | .reconciling => some { system with phase := .scrolling (fetchAllIssueIds system.jira) }
  | .scrolling currentIds =>
      let storedIds := scrollAllIdsByProject system.issuesDb projectKey
      some { system with phase := .removing (storedIds.filter fun id => id ∉ currentIds) }
  | .removing staleIds =>
      some { system with issuesDb := system.issuesDb.popAll staleIds, phase := .reading }
  | .reading =>
      some { system with phase := .fetching (system.lastUpdate.getD defaultLastUpdate) }
  | .fetching lastUpdate =>
      let issues := fetchIssuesUpdatedSince projectKey system.jira lastUpdate
      some { system with
        phase :=
          if issues.isEmpty then .saving system.now system.now
          else .ensuring system.now issues }
  | .ensuring fetchedAt issues =>
      some { system with phase := .gather fetchedAt issues (activeIssues validStatuses issues) }
  | .upserting .. => none
  | .deleting fetchedAt issues =>
      some { system with
        issuesDb := system.issuesDb.popAll (inactiveIds validStatuses issues)
        phase := .saving fetchedAt system.now }
  | .saving fetchedAt takenAt =>
      some { system with
        lastUpdate := some (storedTimestamp takenAt)
        lastFetch := some fetchedAt
        phase := .idle }

/-- An action at the present instant. Jira stamps its changes with it. -/
def RagSystem.act (system : RagSystem) : RagAction → Option RagSystem
  | .created id fields =>
      if system.jira.contains id then none
      else some { system with jira := system.jira.set id { fields with updated := system.now } }
  | .edited id fields =>
      if system.jira.contains id then
        some { system with jira := system.jira.set id { fields with updated := system.now } }
      else none
  | .removed id => some { system with jira := system.jira.pop id }
  | .began => if system.phase = .idle then some { system with phase := .reconciling } else none
  | .advanced => system.advance projectKey validStatuses
  | .upserted index =>
      match system.phase with
      | .upserting fetchedAt issues pending =>
          pending[index]?.map fun issue =>
            { system with
              issuesDb := upsert system.issuesDb issue
              phase := .gather fetchedAt issues (pending.eraseIdx index) }
      | _ => none
  | .failed =>
      match system.phase with
      | .idle => none
      | .upserting .. => none
      | _ => some { system with phase := .idle }
  | .upsertFailed index =>
      match system.phase with
      | .upserting _ _ pending =>
          if index < pending.length then
            some { system with
              phase := .idle
              abandoned := system.abandoned ++ pending.eraseIdx index }
          else none
      | _ => none
  | .landed index =>
      system.abandoned[index]?.map fun issue =>
        { system with
          issuesDb := upsert system.issuesDb issue
          abandoned := system.abandoned.eraseIdx index }
  | .dropped index =>
      if index < system.abandoned.length then
        some { system with abandoned := system.abandoned.eraseIdx index }
      else none

/-- One event of Jira, of a run or of an upsert left behind. The clock does not go back. -/
def RagSystem.step (system : RagSystem) (event : RagEvent) : Option RagSystem :=
  if event.time < system.now then none
  else { system with now := event.time }.act projectKey validStatuses event.action

/-- The ways an action can go. -/
inductive RagSystem.Acted (system : RagSystem) : RagAction → RagSystem → Prop
  | created {id : Nat} {fields : IssueFields} :
      Acted system (.created id fields)
        { system with jira := system.jira.set id { fields with updated := system.now } }
  | edited {id : Nat} {fields : IssueFields} :
      Acted system (.edited id fields)
        { system with jira := system.jira.set id { fields with updated := system.now } }
  | removed {id : Nat} : Acted system (.removed id) { system with jira := system.jira.pop id }
  | began (idle : system.phase = .idle) : Acted system .began { system with phase := .reconciling }
  | advanced {next : RagSystem} (advanced : system.advance projectKey validStatuses = some next) :
      Acted system .advanced next
  | upserted {index : Nat} {fetchedAt : Int} {issues pending : List JiraIssue} {issue : JiraIssue}
      (upserting : system.phase = .upserting fetchedAt issues pending)
      (found : pending[index]? = some issue) :
      Acted system (.upserted index)
        { system with
          issuesDb := upsert system.issuesDb issue
          phase := .gather fetchedAt issues (pending.eraseIdx index) }
  | failed : Acted system .failed { system with phase := .idle }
  | upsertFailed {index : Nat} {fetchedAt : Int} {issues pending : List JiraIssue}
      (upserting : system.phase = .upserting fetchedAt issues pending) :
      Acted system (.upsertFailed index)
        { system with phase := .idle, abandoned := system.abandoned ++ pending.eraseIdx index }
  | landed {index : Nat} {issue : JiraIssue} (found : system.abandoned[index]? = some issue) :
      Acted system (.landed index)
        { system with
          issuesDb := upsert system.issuesDb issue
          abandoned := system.abandoned.eraseIdx index }
  | dropped {index : Nat} :
      Acted system (.dropped index)
        { system with abandoned := system.abandoned.eraseIdx index }

variable {projectKey validStatuses}

theorem RagSystem.acted_of_act {system next : RagSystem} {action : RagAction}
    (acted : system.act projectKey validStatuses action = some next) :
    system.Acted projectKey validStatuses action next := by
  cases action with
  | created id fields =>
      simp only [RagSystem.act, Option.ite_none_left_eq_some, Option.some.injEq] at acted
      obtain ⟨-, rfl⟩ := acted
      exact .created
  | edited id fields =>
      simp only [RagSystem.act, Option.ite_none_right_eq_some, Option.some.injEq] at acted
      obtain ⟨-, rfl⟩ := acted
      exact .edited
  | removed id =>
      cases acted
      exact .removed
  | began =>
      simp only [RagSystem.act, Option.ite_none_right_eq_some, Option.some.injEq] at acted
      obtain ⟨idle, rfl⟩ := acted
      exact .began idle
  | advanced => exact .advanced acted
  | upserted index =>
      simp only [RagSystem.act] at acted
      split at acted
      · next upserting =>
          obtain ⟨issue, found, rfl⟩ := Option.map_eq_some_iff.mp acted
          exact .upserted upserting found
      · cases acted
  | failed =>
      simp only [RagSystem.act] at acted
      split at acted
      · cases acted
      · cases acted
      · cases acted
        exact .failed
  | upsertFailed index =>
      simp only [RagSystem.act] at acted
      split at acted
      · next upserting =>
          rw [Option.ite_none_right_eq_some, Option.some.injEq] at acted
          obtain ⟨-, rfl⟩ := acted
          exact .upsertFailed upserting
      · cases acted
  | landed index =>
      obtain ⟨issue, found, rfl⟩ := Option.map_eq_some_iff.mp acted
      exact .landed found
  | dropped index =>
      simp only [RagSystem.act, Option.ite_none_right_eq_some, Option.some.injEq] at acted
      obtain ⟨-, rfl⟩ := acted
      exact .dropped

end Step

/-! ## The watermark -/

section Watermark

variable {projectKey : String} {validStatuses : List String}

/-- The run takes its timestamp in the minute of its fetch or in the next one. -/
def SavesInTime (system : RagSystem) (event : RagEvent) : Prop :=
  match system.phase, event.action with
  | .saving fetchedAt takenAt, .advanced => minute takenAt ≤ minute fetchedAt + 1
  | _, _ => True

/-- The timestamp that the run saves matches every update from its fetch on. -/
def CoversLater (system : RagSystem) (event : RagEvent) : Prop :=
  match system.phase, event.action with
  | .saving fetchedAt takenAt, .advanced =>
      ∀ updated, fetchedAt ≤ updated → toJqlTimestamp (storedTimestamp takenAt) ≤ updated
  | _, _ => True

/-- A fetch returns every issue updated since the fetch of the last run that has saved its
timestamp. -/
def SeesLaterUpdates (projectKey : String) (system : RagSystem) (event : RagEvent) : Prop :=
  match system.phase, event.action with
  | .fetching lastUpdate, .advanced =>
      ∀ fetchedAt ∈ system.lastFetch, ∀ entry ∈ system.jira.entries,
        fetchedAt ≤ entry.2.updated →
        toJiraIssue projectKey entry.1 entry.2 ∈
          fetchIssuesUpdatedSince projectKey system.jira lastUpdate
  | _, _ => True

/-- The saved minute is the one before the minute in which the timestamp is taken. -/
theorem toJqlTimestamp_storedTimestamp (takenAt : Int) :
    toJqlTimestamp (storedTimestamp takenAt) = (minute takenAt - 1) * (60 * second) := by
  unfold toJqlTimestamp storedTimestamp minute executionDelaySeconds second
  omega

theorem covers_iff (fetchedAt takenAt : Int) :
    (∀ updated, fetchedAt ≤ updated →
        toJqlTimestamp (storedTimestamp takenAt) ≤ updated) ↔
      minute takenAt ≤ minute fetchedAt + 1 := by
  rw [toJqlTimestamp_storedTimestamp]
  constructor
  · intro covers
    have atFetch := covers fetchedAt (Int.le_refl _)
    unfold minute second at *
    omega
  · intro inTime updated later
    unfold minute second at *
    omega

theorem coversLater_iff (system : RagSystem) (event : RagEvent) :
    CoversLater system event ↔ SavesInTime system event := by
  unfold CoversLater SavesInTime
  split
  · exact covers_iff _ _
  · exact Iff.rfl

/-- The stored timestamp is no later than the fetch of the run that saved it, and a run
that is about to fetch has read the stored one. -/
structure Covered (system : RagSystem) : Prop where
  saved : ∀ fetchedAt ∈ system.lastFetch,
    ∃ lastUpdate ∈ system.lastUpdate, toJqlTimestamp lastUpdate ≤ fetchedAt
  read : ∀ lastUpdate, system.phase = .fetching lastUpdate →
    lastUpdate = system.lastUpdate.getD defaultLastUpdate

/-- Only an operation that returns saves a timestamp or reads it. -/
theorem act_keeps {system next : RagSystem} {action : RagAction} (other : action ≠ .advanced)
    (acted : system.act projectKey validStatuses action = some next) :
    next.lastUpdate = system.lastUpdate ∧ next.lastFetch = system.lastFetch ∧
      ∀ lastUpdate, next.phase = .fetching lastUpdate →
        system.phase = .fetching lastUpdate := by
  cases RagSystem.acted_of_act acted with
  | advanced => exact absurd rfl other
  | created | edited | removed | landed | dropped => exact ⟨rfl, rfl, fun _ same => same⟩
  | upserted =>
      refine ⟨rfl, rfl, ?_⟩
      intro lastUpdate same
      dsimp only [SyncPhase.gather] at same
      split at same <;> cases same
  | began | failed | upsertFailed =>
      refine ⟨rfl, rfl, ?_⟩
      intro lastUpdate same
      cases same

theorem advance_keeps {system next : RagSystem}
    (notSaving : ∀ fetchedAt takenAt, system.phase ≠ .saving fetchedAt takenAt)
    (advanced : system.advance projectKey validStatuses = some next) :
    next.lastUpdate = system.lastUpdate := by
  unfold RagSystem.advance at advanced
  cases phase : system.phase with
  | saving fetchedAt takenAt => exact absurd phase (notSaving fetchedAt takenAt)
  | _ =>
      rw [phase] at advanced
      cases advanced
      try rfl

theorem Covered.advance {system next : RagSystem} (covered : Covered system)
    (inTime : ∀ fetchedAt takenAt, system.phase = .saving fetchedAt takenAt →
      minute takenAt ≤ minute fetchedAt + 1)
    (advanced : system.advance projectKey validStatuses = some next) : Covered next := by
  unfold RagSystem.advance at advanced
  split at advanced
  · cases advanced
  · cases advanced
    exact ⟨covered.saved, nofun⟩
  · cases advanced
    exact ⟨covered.saved, nofun⟩
  · cases advanced
    exact ⟨covered.saved, nofun⟩
  · cases advanced
    refine ⟨covered.saved, ?_⟩
    rintro lastUpdate same
    exact (SyncPhase.fetching.inj same).symm
  · cases advanced
    refine ⟨covered.saved, ?_⟩
    intro lastUpdate same
    dsimp only at same
    split at same <;> cases same
  · cases advanced
    refine ⟨covered.saved, ?_⟩
    intro lastUpdate same
    dsimp only [SyncPhase.gather] at same
    split at same <;> cases same
  · cases advanced
  · cases advanced
    exact ⟨covered.saved, nofun⟩
  · rename_i fetchedAt takenAt isSaving
    cases advanced
    refine ⟨?_, nofun⟩
    intro fetch same
    have sameFetch : fetchedAt = fetch := Option.some.inj same
    refine ⟨storedTimestamp takenAt, rfl, ?_⟩
    exact (covers_iff fetchedAt takenAt).mpr (inTime _ _ isSaving) fetch
      (Int.le_of_eq sameFetch)

theorem Covered.step {system next : RagSystem} {event : RagEvent} (covered : Covered system)
    (inTime : SavesInTime system event)
    (stepped : system.step projectKey validStatuses event = some next) : Covered next := by
  unfold RagSystem.step at stepped
  split at stepped
  · cases stepped
  · by_cases advances : event.action = .advanced
    · rw [advances] at stepped
      have later : Covered { system with now := event.time } := ⟨covered.saved, covered.read⟩
      apply later.advance _ stepped
      intro fetchedAt takenAt isSaving
      have isSaving : system.phase = .saving fetchedAt takenAt := isSaving
      unfold SavesInTime at inTime
      rwa [isSaving, advances] at inTime
    · obtain ⟨sameUpdate, sameFetch, reads⟩ := act_keeps advances stepped
      refine ⟨?_, ?_⟩
      · rw [sameUpdate, sameFetch]
        exact covered.saved
      · intro lastUpdate isFetching
        rw [sameUpdate]
        exact covered.read lastUpdate (reads lastUpdate isFetching)

theorem Covered.seesLaterUpdates {system : RagSystem} (covered : Covered system)
    (event : RagEvent) : SeesLaterUpdates projectKey system event := by
  unfold SeesLaterUpdates
  split
  · rename_i lastUpdate isFetching _
    intro fetchedAt fetched entry member later
    obtain ⟨saved, stored, early⟩ := covered.saved fetchedAt fetched
    have read := covered.read lastUpdate isFetching
    rw [Option.mem_def.mp stored, Option.getD_some] at read
    apply List.mem_map_of_mem
    rw [List.mem_filter]
    refine ⟨member, ?_⟩
    rw [read]
    exact decide_eq_true (Int.le_trans early later)
  · trivial

/-- **The watermark.** Over every history of Jira changes and runs, the saved timestamps
match all updates from the fetch of their run on exactly if every run takes its timestamp in
the minute of its fetch or in the next one; and then every fetch returns all issues updated
since the fetch of the last run that has saved its timestamp. -/
theorem watermark_covers_iff (projectKey : String) (validStatuses : List String)
    (issuesDb : Dict Nat JiraIssue) (events : List RagEvent) :
    (StepSystem.Along (RagSystem.step projectKey validStatuses) CoversLater
        (.initial issuesDb) events ↔
      StepSystem.Along (RagSystem.step projectKey validStatuses) SavesInTime
        (.initial issuesDb) events) ∧
    (StepSystem.Along (RagSystem.step projectKey validStatuses) SavesInTime
        (.initial issuesDb) events →
      StepSystem.Along (RagSystem.step projectKey validStatuses) (SeesLaterUpdates projectKey)
        (.initial issuesDb) events) := by
  constructor
  · exact StepSystem.along_congr coversLater_iff _ _
  · have initially : Covered (.initial issuesDb) := ⟨nofun, nofun⟩
    apply StepSystem.along_of_invariant _ _ initially
    · intro system event next covered inTime stepped
      exact covered.step inTime stepped
    · intro system event covered _
      exact covered.seesLaterUpdates event

end Watermark

def summary (text : String) : IssueFields := ⟨"QA-1", some text, none, "Story", "Done", 0⟩

/-- A run fetches an issue 1000 seconds after 1970, and the issue is edited 30 seconds later,
while it is embedded. The run saves its timestamp three minutes after the fetch. -/
def slowSync : List RagEvent :=
  [⟨1000 * second, .created 1 (summary "first")⟩, ⟨1000 * second, .began⟩,
    ⟨1000 * second, .advanced⟩, ⟨1000 * second, .advanced⟩, ⟨1000 * second, .advanced⟩,
    ⟨1000 * second, .advanced⟩, ⟨1000 * second, .advanced⟩, ⟨1000 * second, .advanced⟩,
    ⟨1030 * second, .edited 1 (summary "second")⟩, ⟨1180 * second, .upserted 0⟩,
    ⟨1180 * second, .advanced⟩, ⟨1180 * second, .advanced⟩, ⟨1200 * second, .began⟩,
    ⟨1200 * second, .advanced⟩, ⟨1200 * second, .advanced⟩, ⟨1200 * second, .advanced⟩,
    ⟨1200 * second, .advanced⟩]

/-- The next fetch does not return the edited issue. -/
theorem slowSync_skips :
    ¬ ∀ projectKey validStatuses issuesDb events,
      StepSystem.Along (RagSystem.step projectKey validStatuses)
        (SeesLaterUpdates projectKey) (.initial issuesDb) events := by
  intro sees
  have along := sees "QA" ["Done"] .empty (slowSync ++ [⟨1200 * second, .advanced⟩])
  obtain ⟨system, ran, isFetching, fetched, edited⟩ :
      ∃ system ∈ StepSystem.run (RagSystem.step "QA" ["Done"]) (.initial .empty) slowSync,
        system.phase = .fetching 1120 ∧ system.lastFetch = some (1000 * second) ∧
        system.jira.entries = [(1, { summary "second" with updated := 1030 * second })] := by
    decide
  have here := StepSystem.along_at along ran
  simp only [SeesLaterUpdates, isFetching, fetched, edited] at here
  have member := here (1000 * second) rfl _ List.mem_cons_self (by decide)
  simp only [fetchIssuesUpdatedSince, edited] at member
  exact absurd member (by decide)

end QuAIA.Services
