import QuAIA.Services.RagSync

/-!
Contract: the issues collection after a run of `sync_project`, over every history of a
project.

Owns: the content that the collection should hold, the invariant between Jira, the stored
timestamp and the collection, and its preservation by Jira changes, by the operations of
a run, by failures and by the upserts that failed runs leave behind.

Does not own: changes of the project while a run is under way; they are excluded.
-/

set_option autoImplicit false

namespace QuAIA.Services

open QuAIA.Library

/-! ## What should be stored -/

/-- What a search reads of an issue. -/
structure IssueContent where
  summary : String
  description : String
  issueType : String
  status : Option String
deriving DecidableEq, Repr

def JiraIssue.content (issue : JiraIssue) : IssueContent :=
  ⟨issue.summary, issue.description, issue.issueType, issue.status⟩

section Convergence

variable (projectKey : String) (validStatuses : List String)

/-- The content of an issue of the project in the collection. -/
def RagSystem.stored (system : RagSystem) (id : Nat) : Option IssueContent :=
  ((system.issuesDb.get? id).filter fun issue => issue.projectKey = some projectKey).map
    JiraIssue.content

/-- The present content of an issue in Jira that has a valid status. -/
def RagSystem.active (system : RagSystem) (id : Nat) : Option IssueContent :=
  ((system.jira.get? id).filter fun fields => validStatuses.contains fields.status).map
    fun fields => (toJiraIssue projectKey id fields).content

def RagSystem.Synced (system : RagSystem) (id : Nat) : Prop :=
  system.stored projectKey id = system.active projectKey validStatuses id

instance (system : RagSystem) (id : Nat) :
    Decidable (system.Synced projectKey validStatuses id) :=
  inferInstanceAs (Decidable (_ = _))

/-- The collection holds exactly the valid issues of the project, as they are. -/
def RagSystem.InSync (system : RagSystem) : Prop :=
  ∀ id, system.Synced projectKey validStatuses id

/-- Jira changes only while no run is under way. -/
def QuietRuns (system : RagSystem) (event : RagEvent) : Prop :=
  match event.action with
  | .created .. => system.phase = .idle
  | .edited .. => system.phase = .idle
  | .removed _ => system.phase = .idle
  | _ => True

/-- An upsert that a failed run has left behind writes what is still the content of a valid
issue. -/
def LandsCurrent (system : RagSystem) (event : RagEvent) : Prop :=
  match event.action with
  | .landed index =>
      ∀ issue ∈ system.abandoned[index]?,
        system.active projectKey validStatuses issue.id = some issue.content
  | _ => True

/-- A run that saves its timestamp, its last operation, leaves the collection in sync. -/
def EndsInSync (system : RagSystem) (event : RagEvent) : Prop :=
  match system.phase, event.action with
  | .saving .., .advanced =>
      ∀ next ∈ system.step projectKey validStatuses event,
        next.InSync projectKey validStatuses
  | _, _ => True

/-- Nothing but that operation changes the stored timestamp. -/
def KeepsWatermark (system : RagSystem) (event : RagEvent) : Prop :=
  match system.phase, event.action with
  | .saving .., .advanced => True
  | _, _ =>
      ∀ next ∈ system.step projectKey validStatuses event,
        next.lastUpdate = system.lastUpdate

/-! ## The invariant -/

/-- The collection holds nothing of the project that Jira does not have. -/
def RagSystem.NoStale (system : RagSystem) : Prop :=
  ∀ id, system.jira.contains id = false → system.stored projectKey id = none

/-- The fetched issues are issues of Jira as they are, and every other issue is synced. -/
structure RagSystem.Fetched (system : RagSystem) (issues : List JiraIssue) : Prop where
  present : ∀ issue ∈ issues, ∃ fields, system.jira.get? issue.id = some fields ∧
    issue = toJiraIssue projectKey issue.id fields
  others : ∀ id fields, system.jira.get? id = some fields →
    system.Synced projectKey validStatuses id ∨ toJiraIssue projectKey id fields ∈ issues

/-- What the operations of a run have achieved when the next one is due. -/
def RagSystem.Reached (system : RagSystem) : SyncPhase → Prop
  | .idle => True
  | .reconciling => True
  | .scrolling currentIds => ∀ id, id ∈ currentIds ↔ system.jira.contains id = true
  | .removing staleIds =>
      (∀ id ∈ staleIds, system.jira.contains id = false) ∧
        ∀ id, system.jira.contains id = false → system.stored projectKey id = none ∨
          id ∈ staleIds
  | .reading => system.NoStale projectKey
  | .fetching lastUpdate =>
      system.NoStale projectKey ∧ lastUpdate = system.lastUpdate.getD defaultLastUpdate
  | .ensuring _ issues =>
      system.NoStale projectKey ∧ system.Fetched projectKey validStatuses issues
  | .upserting _ issues pending =>
      system.NoStale projectKey ∧ system.Fetched projectKey validStatuses issues ∧
        (∀ issue ∈ pending, issue ∈ activeIssues validStatuses issues) ∧
        ∀ issue ∈ activeIssues validStatuses issues, issue ∈ pending ∨
          system.Synced projectKey validStatuses issue.id
  | .deleting _ issues =>
      system.NoStale projectKey ∧ system.Fetched projectKey validStatuses issues ∧
        ∀ issue ∈ activeIssues validStatuses issues,
          system.Synced projectKey validStatuses issue.id
  | .saving _ takenAt => system.InSync projectKey validStatuses ∧ takenAt ≤ system.now

/-- An issue that is not synced has been updated since the stored timestamp, which is not
in the future. -/
structure RagSystem.Tracked (system : RagSystem) : Prop where
  past : toJqlTimestamp (system.lastUpdate.getD defaultLastUpdate) ≤ system.now
  settled : ∀ id fields, system.jira.get? id = some fields →
    fields.updated < toJqlTimestamp (system.lastUpdate.getD defaultLastUpdate) →
    system.Synced projectKey validStatuses id
  ours : ∀ issue ∈ system.abandoned ++ system.phase.pending,
    issue.projectKey = some projectKey
  reached : system.Reached projectKey validStatuses system.phase

/-- Time passes, and the collection changes only to what should be stored. -/
structure Improves (before after : RagSystem) : Prop where
  later : before.now ≤ after.now
  jira : after.jira = before.jira
  lastUpdate : after.lastUpdate = before.lastUpdate
  stored : ∀ id, after.Synced projectKey validStatuses id ∨
    after.stored projectKey id = before.stored projectKey id

variable {projectKey validStatuses} {before after : RagSystem}

theorem active_of_absent {system : RagSystem} {id : Nat}
    (absent : system.jira.contains id = false) :
    system.active projectKey validStatuses id = none := by
  rw [Dict.contains, Option.isSome_eq_false_iff, Option.isNone_iff_eq_none] at absent
  unfold RagSystem.active
  rw [absent]
  rfl

theorem Improves.active (improves : Improves projectKey validStatuses before after) (id : Nat) :
    after.active projectKey validStatuses id = before.active projectKey validStatuses id := by
  unfold RagSystem.active
  rw [improves.jira]

theorem Improves.synced (improves : Improves projectKey validStatuses before after) {id : Nat}
    (synced : before.Synced projectKey validStatuses id) :
    after.Synced projectKey validStatuses id := by
  rcases improves.stored id with becomes | kept
  · exact becomes
  · unfold RagSystem.Synced at *
    rw [kept, improves.active, synced]

theorem Improves.absent (improves : Improves projectKey validStatuses before after) {id : Nat}
    (absent : before.jira.contains id = false) (none : before.stored projectKey id = none) :
    after.stored projectKey id = Option.none := by
  rcases improves.stored id with becomes | kept
  · have nowhere : after.jira.contains id = false := by rw [improves.jira, absent]
    exact becomes.trans (active_of_absent nowhere)
  · rw [kept, none]

theorem Improves.noStale (improves : Improves projectKey validStatuses before after)
    (noStale : before.NoStale projectKey) : after.NoStale projectKey := by
  intro id absent
  rw [improves.jira] at absent
  exact improves.absent absent (noStale id absent)

theorem Improves.fetched (improves : Improves projectKey validStatuses before after)
    {issues : List JiraIssue} (fetched : before.Fetched projectKey validStatuses issues) :
    after.Fetched projectKey validStatuses issues := by
  refine ⟨?_, ?_⟩
  · rw [improves.jira]
    exact fetched.present
  · intro id fields found
    rw [improves.jira] at found
    rcases fetched.others id fields found with synced | member
    · exact Or.inl (improves.synced synced)
    · exact Or.inr member

/-- What has been achieved stays so. -/
theorem Improves.reached (improves : Improves projectKey validStatuses before after)
    {phase : SyncPhase} (reached : before.Reached projectKey validStatuses phase) :
    after.Reached projectKey validStatuses phase := by
  cases phase with
  | idle => trivial
  | reconciling => trivial
  | scrolling currentIds =>
      intro id
      rw [improves.jira]
      exact reached id
  | removing staleIds =>
      refine ⟨?_, ?_⟩
      · rw [improves.jira]
        exact reached.1
      · intro id absent
        rw [improves.jira] at absent
        rcases reached.2 id absent with none | member
        · exact Or.inl (improves.absent absent none)
        · exact Or.inr member
  | reading => exact improves.noStale reached
  | fetching lastUpdate =>
      refine ⟨improves.noStale reached.1, ?_⟩
      rw [improves.lastUpdate]
      exact reached.2
  | ensuring fetchedAt issues =>
      exact ⟨improves.noStale reached.1, improves.fetched reached.2⟩
  | upserting fetchedAt issues pending =>
      obtain ⟨noStale, fetched, active, done⟩ := reached
      refine ⟨improves.noStale noStale, improves.fetched fetched, active, ?_⟩
      intro issue member
      exact (done issue member).imp_right improves.synced
  | deleting fetchedAt issues =>
      obtain ⟨noStale, fetched, done⟩ := reached
      refine ⟨improves.noStale noStale, improves.fetched fetched, ?_⟩
      intro issue member
      exact improves.synced (done issue member)
  | saving fetchedAt takenAt =>
      refine ⟨?_, Int.le_trans reached.2 improves.later⟩
      intro id
      exact improves.synced (reached.1 id)

/-- A change that only improves keeps the invariant, if the next phase has been reached. -/
theorem RagSystem.Tracked.improve (tracked : before.Tracked projectKey validStatuses)
    (improves : Improves projectKey validStatuses before after)
    (ours : ∀ issue ∈ after.abandoned ++ after.phase.pending,
      issue.projectKey = some projectKey)
    (reached : after.Reached projectKey validStatuses after.phase) :
    after.Tracked projectKey validStatuses := by
  refine ⟨?_, ?_, ours, reached⟩
  · rw [improves.lastUpdate]
    exact Int.le_trans tracked.past improves.later
  · intro id fields found early
    rw [improves.jira] at found
    rw [improves.lastUpdate] at early
    exact improves.synced (tracked.settled id fields found early)

/-! ## The operations on the collection -/

theorem improves_same (later : before.now ≤ after.now) (jira : after.jira = before.jira)
    (lastUpdate : after.lastUpdate = before.lastUpdate)
    (issuesDb : after.issuesDb = before.issuesDb) :
    Improves projectKey validStatuses before after := by
  refine ⟨later, jira, lastUpdate, ?_⟩
  intro id
  right
  unfold RagSystem.stored
  rw [issuesDb]

theorem get?_upsert (issuesDb : Dict Nat JiraIssue) (issue : JiraIssue) (id : Nat) :
    (upsert issuesDb issue).get? id =
      if id = issue.id then some issue else issuesDb.get? id :=
  Dict.get?_set _ _ _ _

/-- An upsert of what should be stored. -/
theorem synced_upsert {issue : JiraIssue} (jira : after.jira = before.jira)
    (issuesDb : after.issuesDb = upsert before.issuesDb issue)
    (own : issue.projectKey = some projectKey)
    (current : before.active projectKey validStatuses issue.id = some issue.content) :
    after.Synced projectKey validStatuses issue.id := by
  have unchanged : after.active projectKey validStatuses issue.id =
      before.active projectKey validStatuses issue.id := by
    unfold RagSystem.active
    rw [jira]
  unfold RagSystem.Synced
  rw [unchanged, current]
  unfold RagSystem.stored
  rw [issuesDb, get?_upsert, if_pos rfl]
  simp [own]

theorem improves_upsert {issue : JiraIssue} (later : before.now ≤ after.now)
    (jira : after.jira = before.jira) (lastUpdate : after.lastUpdate = before.lastUpdate)
    (issuesDb : after.issuesDb = upsert before.issuesDb issue)
    (own : issue.projectKey = some projectKey)
    (current : before.active projectKey validStatuses issue.id = some issue.content) :
    Improves projectKey validStatuses before after := by
  refine ⟨later, jira, lastUpdate, ?_⟩
  intro id
  by_cases same : id = issue.id
  · left
    rw [same]
    exact synced_upsert jira issuesDb own current
  · right
    unfold RagSystem.stored
    rw [issuesDb, get?_upsert, if_neg same]

/-- A deletion of what should not be stored. -/
theorem stored_popAll {ids : List Nat} (issuesDb : after.issuesDb = before.issuesDb.popAll ids)
    (id : Nat) :
    after.stored projectKey id = if id ∈ ids then none else before.stored projectKey id := by
  unfold RagSystem.stored
  rw [issuesDb, Dict.get?_popAll]
  split
  · rfl
  · rfl

theorem improves_popAll {ids : List Nat} (later : before.now ≤ after.now)
    (jira : after.jira = before.jira) (lastUpdate : after.lastUpdate = before.lastUpdate)
    (issuesDb : after.issuesDb = before.issuesDb.popAll ids)
    (inactive : ∀ id ∈ ids, before.active projectKey validStatuses id = none) :
    Improves projectKey validStatuses before after := by
  refine ⟨later, jira, lastUpdate, ?_⟩
  intro id
  have read : after.stored projectKey id = _ := stored_popAll issuesDb id
  by_cases deleted : id ∈ ids
  · left
    rw [if_pos deleted] at read
    have nothing := inactive id deleted
    unfold RagSystem.Synced
    rw [read]
    unfold RagSystem.active at *
    rw [jira, nothing]
  · right
    rw [read, if_neg deleted]

/-! ## The fetched issues -/

theorem active_of_found {system : RagSystem} {id : Nat} {fields : IssueFields}
    (found : system.jira.get? id = some fields) :
    system.active projectKey validStatuses id =
      if validStatuses.contains fields.status then
        some (toJiraIssue projectKey id fields).content
      else none := by
  unfold RagSystem.active
  rw [found, Option.filter_some]
  split
  · rfl
  · rfl

theorem mem_activeIssues_iff {issues : List JiraIssue} {id : Nat} {fields : IssueFields} :
    toJiraIssue projectKey id fields ∈ activeIssues validStatuses issues ↔
      toJiraIssue projectKey id fields ∈ issues ∧
        validStatuses.contains fields.status = true := by
  unfold activeIssues
  rw [List.mem_filter]
  exact Iff.rfl

variable {system : RagSystem} {issues : List JiraIssue}

/-- An active issue is what should be stored of it. -/
theorem RagSystem.Fetched.current (fetched : system.Fetched projectKey validStatuses issues)
    {issue : JiraIssue} (member : issue ∈ activeIssues validStatuses issues) :
    issue.projectKey = some projectKey ∧
      system.active projectKey validStatuses issue.id = some issue.content := by
  have inIssues : issue ∈ issues := List.mem_of_mem_filter member
  obtain ⟨fields, found, same⟩ := fetched.present issue inIssues
  rw [same] at member
  have valid := (mem_activeIssues_iff.mp member).2
  refine ⟨by rw [same]; rfl, ?_⟩
  rw [active_of_found found, if_pos valid]
  exact congrArg (fun other : JiraIssue => some other.content) same.symm

theorem RagSystem.Fetched.inactive (fetched : system.Fetched projectKey validStatuses issues)
    {id : Nat} (member : id ∈ inactiveIds validStatuses issues) :
    system.active projectKey validStatuses id = none := by
  obtain ⟨issue, inactive, rfl⟩ := List.mem_map.mp member
  obtain ⟨inIssues, invalid⟩ := List.mem_filter.mp inactive
  obtain ⟨fields, found, same⟩ := fetched.present issue inIssues
  have notValid : validStatuses.contains fields.status = false := by
    rw [same] at invalid
    simpa [toJiraIssue] using invalid
  rw [active_of_found found, notValid, if_neg Bool.false_ne_true]

/-- When the active issues are written and the inactive ones deleted, all is in sync. -/
theorem RagSystem.Fetched.inSync (fetched : system.Fetched projectKey validStatuses issues)
    (noStale : system.NoStale projectKey)
    (written : ∀ issue ∈ activeIssues validStatuses issues,
      system.Synced projectKey validStatuses issue.id)
    (deleted : ∀ id ∈ inactiveIds validStatuses issues, system.stored projectKey id = none) :
    system.InSync projectKey validStatuses := by
  intro id
  cases found : system.jira.get? id with
  | none =>
      have absent : system.jira.contains id = false := by rw [Dict.contains, found]; rfl
      exact (noStale id absent).trans (active_of_absent absent).symm
  | some fields =>
      rcases fetched.others id fields found with synced | member
      · exact synced
      · cases valid : validStatuses.contains fields.status with
        | true => exact written _ (mem_activeIssues_iff.mpr ⟨member, valid⟩)
        | false =>
            have inactive : id ∈ inactiveIds validStatuses issues := by
              apply List.mem_map.mpr
              refine ⟨_, List.mem_filter.mpr ⟨member, ?_⟩, rfl⟩
              simpa [toJiraIssue] using valid
            exact (deleted id inactive).trans (fetched.inactive inactive).symm

/-- The search returns what is not settled. -/
theorem RagSystem.Tracked.fetched (tracked : system.Tracked projectKey validStatuses) :
    system.Fetched projectKey validStatuses (fetchIssuesUpdatedSince projectKey system.jira
      (system.lastUpdate.getD defaultLastUpdate)) := by
  refine ⟨?_, ?_⟩
  · intro issue member
    obtain ⟨entry, found, rfl⟩ := List.mem_map.mp member
    have inJira := List.mem_of_mem_filter found
    exact ⟨entry.2, system.jira.get?_of_mem_entries inJira, rfl⟩
  · intro id fields found
    by_cases early : fields.updated <
        toJqlTimestamp (system.lastUpdate.getD defaultLastUpdate)
    · exact Or.inl (tracked.settled id fields found early)
    · right
      have inJira := (system.jira.mem_entries_iff id fields).mpr found
      apply List.mem_map.mpr
      refine ⟨(id, fields), List.mem_filter.mpr ⟨inJira, ?_⟩, rfl⟩
      exact decide_eq_true (Int.not_lt.mp early)

theorem stored_eq_none_of_not_scrolled {id : Nat}
    (missing : id ∉ scrollAllIdsByProject system.issuesDb projectKey) :
    system.stored projectKey id = none := by
  unfold RagSystem.stored
  rw [Option.map_eq_none_iff, Option.filter_eq_none_iff]
  intro issue found own
  apply missing
  have inDb := (system.issuesDb.mem_entries_iff id issue).mpr found
  exact List.mem_map.mpr ⟨(id, issue), List.mem_filter.mpr ⟨inDb, own⟩, rfl⟩

/-! ## Steps -/

theorem mem_fetchAllIssueIds_iff {id : Nat} :
    id ∈ fetchAllIssueIds system.jira ↔ system.jira.contains id = true := by
  unfold fetchAllIssueIds Dict.keys
  rw [Dict.contains, Option.isSome_iff_ne_none, Dict.get?, Ne, Dict.lookup_eq_none_iff,
    not_not]

/-- The phase of the gather, whether or not something is pending. -/
theorem RagSystem.reached_gather {fetchedAt : Int} {pending : List JiraIssue}
    (noStale : system.NoStale projectKey)
    (fetched : system.Fetched projectKey validStatuses issues)
    (active : ∀ issue ∈ pending, issue ∈ activeIssues validStatuses issues)
    (done : ∀ issue ∈ activeIssues validStatuses issues, issue ∈ pending ∨
      system.Synced projectKey validStatuses issue.id) :
    system.Reached projectKey validStatuses (.gather fetchedAt issues pending) := by
  unfold SyncPhase.gather
  cases pending with
  | nil =>
      refine ⟨noStale, fetched, ?_⟩
      intro issue member
      exact (done issue member).resolve_left List.not_mem_nil
  | cons => exact ⟨noStale, fetched, active, done⟩

theorem pending_gather {fetchedAt : Int} (pending : List JiraIssue) :
    (SyncPhase.gather fetchedAt issues pending).pending = pending := by
  unfold SyncPhase.gather
  cases pending with
  | nil => rfl
  | cons => rfl

/-- The stored ids have been read: what is stored of no issue is to be removed. -/
theorem RagSystem.Tracked.scrolled (tracked : system.Tracked projectKey validStatuses)
    {currentIds : List Nat} (phase : system.phase = .scrolling currentIds) :
    ({ system with
      phase := .removing ((scrollAllIdsByProject system.issuesDb projectKey).filter
        fun id => id ∉ currentIds) } : RagSystem).Tracked projectKey validStatuses := by
  have ours := tracked.ours
  have reached := tracked.reached
  rw [phase] at ours reached
  refine tracked.improve (improves_same (Int.le_refl system.now) rfl rfl rfl) ours ⟨?_, ?_⟩
  · intro id member
    have notCurrent := (List.mem_filter.mp member).2
    rw [decide_eq_true_iff, reached id] at notCurrent
    exact Bool.not_eq_true _ ▸ notCurrent
  · intro id absent
    by_cases scrolled : id ∈ scrollAllIdsByProject system.issuesDb projectKey
    · right
      refine List.mem_filter.mpr ⟨scrolled, decide_eq_true ?_⟩
      rw [reached id]
      exact Bool.eq_false_iff.mp absent
    · exact Or.inl (stored_eq_none_of_not_scrolled scrolled)

/-- The stale ids have been removed. -/
theorem RagSystem.Tracked.removed (tracked : system.Tracked projectKey validStatuses)
    {staleIds : List Nat} (phase : system.phase = .removing staleIds) :
    ({ system with issuesDb := system.issuesDb.popAll staleIds, phase := .reading } :
      RagSystem).Tracked projectKey validStatuses := by
  have ours := tracked.ours
  have reached := tracked.reached
  rw [phase] at ours reached
  have gone : ∀ id ∈ staleIds, system.active projectKey validStatuses id = none :=
    fun id member => active_of_absent (reached.1 id member)
  refine tracked.improve (improves_popAll (Int.le_refl system.now) rfl rfl rfl gone) ours ?_
  intro id absent
  rw [stored_popAll (show _ = system.issuesDb.popAll staleIds from rfl)]
  split
  · rfl
  · rename_i kept
    exact (reached.2 id absent).resolve_right kept

/-- The updated issues have been fetched. Without any, all is in sync. -/
theorem RagSystem.Tracked.fetchedIssues (tracked : system.Tracked projectKey validStatuses)
    {lastUpdate : Int} (phase : system.phase = .fetching lastUpdate) :
    ({ system with
      phase :=
        if (fetchIssuesUpdatedSince projectKey system.jira lastUpdate).isEmpty then
          .saving system.now system.now
        else .ensuring system.now
          (fetchIssuesUpdatedSince projectKey system.jira lastUpdate) } :
      RagSystem).Tracked projectKey validStatuses := by
  have ours := tracked.ours
  have reached := tracked.reached
  rw [phase] at ours reached
  obtain ⟨noStale, same⟩ := reached
  have fetched := tracked.fetched
  rw [← same] at fetched
  have improves : Improves projectKey validStatuses system { system with
      phase :=
        if (fetchIssuesUpdatedSince projectKey system.jira lastUpdate).isEmpty then
          .saving system.now system.now
        else .ensuring system.now
          (fetchIssuesUpdatedSince projectKey system.jira lastUpdate) } :=
    improves_same (Int.le_refl system.now) rfl rfl rfl
  refine tracked.improve improves ?_ ?_
  · dsimp only
    split
    · exact ours
    · exact ours
  · apply improves.reached
    dsimp only
    split
    · rename_i nothing
      rw [List.isEmpty_iff.mp nothing] at fetched
      exact ⟨fetched.inSync noStale nofun nofun, Int.le_refl system.now⟩
    · exact ⟨noStale, fetched⟩

/-- The collection exists: the active issues are to be written. -/
theorem RagSystem.Tracked.ensured (tracked : system.Tracked projectKey validStatuses)
    {fetchedAt : Int} (phase : system.phase = .ensuring fetchedAt issues) :
    ({ system with phase := .gather fetchedAt issues (activeIssues validStatuses issues) } :
      RagSystem).Tracked projectKey validStatuses := by
  have ours := tracked.ours
  have reached := tracked.reached
  rw [phase] at ours reached
  obtain ⟨noStale, fetched⟩ := reached
  have improves : Improves projectKey validStatuses system { system with
      phase := .gather fetchedAt issues (activeIssues validStatuses issues) } :=
    improves_same (Int.le_refl system.now) rfl rfl rfl
  refine tracked.improve improves ?_ ?_
  · intro issue member
    rw [pending_gather, List.mem_append] at member
    rcases member with old | active
    · exact ours issue (List.mem_append_left _ old)
    · exact (fetched.current active).1
  · apply improves.reached
    exact RagSystem.reached_gather noStale fetched (fun _ member => member)
      (fun _ member => Or.inl member)

/-- The inactive issues have been deleted, after all active ones were written. -/
theorem RagSystem.Tracked.deleted (tracked : system.Tracked projectKey validStatuses)
    {fetchedAt : Int} (phase : system.phase = .deleting fetchedAt issues) :
    ({ system with
      issuesDb := system.issuesDb.popAll (inactiveIds validStatuses issues)
      phase := .saving fetchedAt system.now } :
      RagSystem).Tracked projectKey validStatuses := by
  have ours := tracked.ours
  have reached := tracked.reached
  rw [phase] at ours reached
  obtain ⟨noStale, fetched, written⟩ := reached
  have improves : Improves projectKey validStatuses system { system with
      issuesDb := system.issuesDb.popAll (inactiveIds validStatuses issues)
      phase := .saving fetchedAt system.now } :=
    improves_popAll (Int.le_refl system.now) rfl rfl rfl fun id => fetched.inactive
  refine tracked.improve improves ours ⟨?_, Int.le_refl system.now⟩
  apply (improves.fetched fetched).inSync (improves.noStale noStale)
  · intro issue member
    exact improves.synced (written issue member)
  · intro id member
    rw [stored_popAll (show _ = system.issuesDb.popAll _ from rfl), if_pos member]

variable {next : RagSystem}

/-- The operation of the run returns. -/
theorem RagSystem.Tracked.advance (tracked : system.Tracked projectKey validStatuses)
    (advanced : system.advance projectKey validStatuses = some next) :
    next.Tracked projectKey validStatuses := by
  have ours := tracked.ours
  have reached := tracked.reached
  have same := Int.le_refl system.now
  unfold RagSystem.advance at advanced
  cases phase : system.phase with
  | idle =>
      rw [phase] at advanced
      cases advanced
  | reconciling =>
      rw [phase] at advanced ours
      cases advanced
      refine tracked.improve (improves_same same rfl rfl rfl) ours ?_
      intro id
      exact mem_fetchAllIssueIds_iff
  | scrolling currentIds =>
      rw [phase] at advanced
      cases advanced
      exact tracked.scrolled phase
  | removing staleIds =>
      rw [phase] at advanced
      cases advanced
      exact tracked.removed phase
  | reading =>
      rw [phase] at advanced ours reached
      cases advanced
      exact tracked.improve (improves_same same rfl rfl rfl) ours ⟨reached, rfl⟩
  | fetching lastUpdate =>
      rw [phase] at advanced
      cases advanced
      exact tracked.fetchedIssues phase
  | ensuring fetchedAt issues =>
      rw [phase] at advanced
      cases advanced
      exact tracked.ensured phase
  | upserting fetchedAt issues pending =>
      rw [phase] at advanced
      cases advanced
  | deleting fetchedAt issues =>
      rw [phase] at advanced
      cases advanced
      exact tracked.deleted phase
  | saving fetchedAt takenAt =>
      rw [phase] at advanced ours reached
      obtain ⟨inSync, taken⟩ := reached
      cases advanced
      refine ⟨?_, ?_, ours, trivial⟩
      · show toJqlTimestamp (storedTimestamp takenAt) ≤ system.now
        rw [toJqlTimestamp_storedTimestamp]
        unfold minute second
        omega
      · intro id fields _ _
        exact inSync id

/-- A pending upsert of the run returns. -/
theorem RagSystem.Tracked.upserted (tracked : system.Tracked projectKey validStatuses)
    {fetchedAt : Int} {pending : List JiraIssue} {index : Nat} {issue : JiraIssue}
    (phase : system.phase = .upserting fetchedAt issues pending)
    (found : pending[index]? = some issue) :
    ({ system with
      issuesDb := upsert system.issuesDb issue
      phase := .gather fetchedAt issues (pending.eraseIdx index) } :
        RagSystem).Tracked projectKey validStatuses := by
  have ours := tracked.ours
  have reached := tracked.reached
  rw [phase] at ours reached
  obtain ⟨noStale, fetched, active, done⟩ := reached
  obtain ⟨own, current⟩ := fetched.current (active issue (List.mem_of_getElem? found))
  have improves : Improves projectKey validStatuses system { system with
      issuesDb := upsert system.issuesDb issue
      phase := .gather fetchedAt issues (pending.eraseIdx index) } :=
    improves_upsert (Int.le_refl _) rfl rfl rfl own current
  refine tracked.improve improves ?_ ?_
  · intro other member
    apply ours other
    rw [pending_gather, List.mem_append] at member
    rw [List.mem_append]
    exact member.imp_right List.mem_of_mem_eraseIdx
  · apply RagSystem.reached_gather (improves.noStale noStale) (improves.fetched fetched)
    · intro other member
      exact active other (List.mem_of_mem_eraseIdx member)
    · intro other member
      rcases done other member with isPending | synced
      · obtain ⟨position, here⟩ := List.getElem?_of_mem isPending
        by_cases same : position = index
        · right
          rw [same, found, Option.some.injEq] at here
          rw [← here]
          exact synced_upsert (show _ = system.jira from rfl) rfl own current
        · exact Or.inl (List.mem_eraseIdx_iff_getElem?.mpr ⟨position, same, here⟩)
      · exact Or.inr (improves.synced synced)

/-- An upsert that was left behind returns, and its content is current. -/
theorem RagSystem.Tracked.landed (tracked : system.Tracked projectKey validStatuses)
    {index : Nat} {issue : JiraIssue} (found : system.abandoned[index]? = some issue)
    (current : system.active projectKey validStatuses issue.id = some issue.content) :
    ({ system with
      issuesDb := upsert system.issuesDb issue
      abandoned := system.abandoned.eraseIdx index } :
        RagSystem).Tracked projectKey validStatuses := by
  have own := tracked.ours issue (List.mem_append_left _ (List.mem_of_getElem? found))
  have improves : Improves projectKey validStatuses system { system with
      issuesDb := upsert system.issuesDb issue
      abandoned := system.abandoned.eraseIdx index } :=
    improves_upsert (Int.le_refl _) rfl rfl rfl own current
  refine tracked.improve improves ?_ (improves.reached tracked.reached)
  intro other member
  apply tracked.ours other
  rw [List.mem_append] at member ⊢
  exact member.imp_left List.mem_of_mem_eraseIdx

/-- Jira changes one issue while no run is under way, and stamps what it keeps of it. -/
theorem RagSystem.Tracked.changed (tracked : system.Tracked projectKey validStatuses)
    (idle : system.phase = .idle) {jira : Dict Nat IssueFields} (id : Nat)
    (here : ∀ fields ∈ jira.get? id, fields.updated = system.now)
    (others : ∀ other, other ≠ id → jira.get? other = system.jira.get? other) :
    ({ system with jira := jira } : RagSystem).Tracked projectKey validStatuses := by
  refine ⟨tracked.past, ?_, tracked.ours, ?_⟩
  · intro other fields found early
    by_cases same : other = id
    · rw [same] at found
      have stamped := here fields found
      have past := tracked.past
      dsimp only at early
      omega
    · have found : jira.get? other = some fields := found
      have settled := tracked.settled other fields (others other same ▸ found) early
      unfold RagSystem.Synced RagSystem.stored RagSystem.active at *
      dsimp only
      rw [others other same, settled]
  · show RagSystem.Reached _ _ _ system.phase
    rw [idle]
    trivial

theorem RagSystem.Tracked.stamped (tracked : system.Tracked projectKey validStatuses)
    (idle : system.phase = .idle) (id : Nat) (fields : IssueFields) :
    ({ system with jira := system.jira.set id { fields with updated := system.now } } :
      RagSystem).Tracked projectKey validStatuses := by
  apply tracked.changed idle id
  · intro stamped found
    rw [Dict.get?_set_self] at found
    exact Option.some.inj found ▸ rfl
  · intro other different
    exact Dict.get?_set_other _ _ different

theorem RagSystem.Tracked.act (tracked : system.Tracked projectKey validStatuses)
    {action : RagAction} (quiet : QuietRuns system ⟨system.now, action⟩)
    (current : LandsCurrent projectKey validStatuses system ⟨system.now, action⟩)
    (acted : system.act projectKey validStatuses action = some next) :
    next.Tracked projectKey validStatuses := by
  have ours := tracked.ours
  have stays := Int.le_refl system.now
  cases RagSystem.acted_of_act acted with
  | created => exact tracked.stamped quiet _ _
  | edited => exact tracked.stamped quiet _ _
  | @removed id =>
      apply tracked.changed quiet id
      · intro stamped found
        rw [Dict.get?_pop, if_pos rfl] at found
        cases found
      · intro other different
        rw [Dict.get?_pop, if_neg different]
  | began idle =>
      rw [idle] at ours
      exact tracked.improve (improves_same stays rfl rfl rfl) ours trivial
  | advanced advanced => exact tracked.advance advanced
  | upserted upserting found => exact tracked.upserted upserting found
  | failed =>
      refine tracked.improve (improves_same stays rfl rfl rfl) ?_ trivial
      intro issue member
      have member : issue ∈ system.abandoned ++ [] := member
      rw [List.append_nil] at member
      exact ours issue (List.mem_append_left _ member)
  | upsertFailed upserting =>
      refine tracked.improve (improves_same stays rfl rfl rfl) ?_ trivial
      intro issue member
      have member : issue ∈ system.abandoned ++ _ ++ [] := member
      rw [List.append_nil, List.mem_append] at member
      apply ours issue
      rw [upserting, List.mem_append]
      exact member.imp_right List.mem_of_mem_eraseIdx
  | @landed index issue found => exact tracked.landed found (current issue found)
  | @dropped index =>
      have improves : Improves projectKey validStatuses system { system with
          abandoned := system.abandoned.eraseIdx index } := improves_same stays rfl rfl rfl
      refine tracked.improve improves ?_ (improves.reached tracked.reached)
      intro issue member
      apply ours issue
      rw [List.mem_append] at member ⊢
      exact member.imp_left List.mem_of_mem_eraseIdx

theorem RagSystem.Tracked.step (tracked : system.Tracked projectKey validStatuses)
    {event : RagEvent} (quiet : QuietRuns system event)
    (current : LandsCurrent projectKey validStatuses system event)
    (stepped : system.step projectKey validStatuses event = some next) :
    next.Tracked projectKey validStatuses := by
  unfold RagSystem.step at stepped
  split at stepped
  · cases stepped
  · rename_i later
    have improves : Improves projectKey validStatuses system
        { system with now := event.time } :=
      improves_same (Int.not_lt.mp later) rfl rfl rfl
    have passed := tracked.improve improves tracked.ours (improves.reached tracked.reached)
    exact passed.act quiet current stepped

theorem RagSystem.Tracked.endsInSync (tracked : system.Tracked projectKey validStatuses)
    (event : RagEvent) : EndsInSync projectKey validStatuses system event := by
  unfold EndsInSync
  split
  · rename_i fetchedAt takenAt phase advances
    intro next stepped
    have reached := tracked.reached
    rw [phase] at reached
    simp only [RagSystem.step, advances, RagSystem.act, RagSystem.advance, phase,
      Option.mem_def, Option.ite_none_left_eq_some, Option.some.injEq] at stepped
    rw [← stepped.2]
    exact reached.1
  · trivial

/-- Over every history. -/
theorem keepsWatermark (system : RagSystem) (event : RagEvent) :
    KeepsWatermark projectKey validStatuses system event := by
  unfold KeepsWatermark
  split
  · trivial
  · rename_i notSaving
    intro next stepped
    simp only [RagSystem.step, Option.mem_def, Option.ite_none_left_eq_some] at stepped
    obtain ⟨-, acted⟩ := stepped
    by_cases advances : event.action = .advanced
    · rw [advances] at acted
      have kept : next.lastUpdate =
          ({ system with now := event.time } : RagSystem).lastUpdate := by
        apply advance_keeps _ acted
        intro fetchedAt takenAt phase
        exact notSaving fetchedAt takenAt phase advances
      exact kept
    · exact (act_keeps advances acted).1

/-- **Convergence.** Over every history in which Jira changes only between runs and upserts
left behind by failed runs write what is still current, each run that ends leaves exactly the
valid issues of the project in the collection, as they are, and nothing but the end of a run
changes the stored timestamp. -/
theorem runs_converge (projectKey : String) (validStatuses : List String)
    (issuesDb : Dict Nat JiraIssue) (events : List RagEvent)
    (quiet : StepSystem.Along (RagSystem.step projectKey validStatuses) QuietRuns
      (.initial issuesDb) events)
    (current : StepSystem.Along (RagSystem.step projectKey validStatuses)
      (LandsCurrent projectKey validStatuses) (.initial issuesDb) events) :
    StepSystem.Along (RagSystem.step projectKey validStatuses)
        (EndsInSync projectKey validStatuses) (.initial issuesDb) events ∧
      StepSystem.Along (RagSystem.step projectKey validStatuses)
        (KeepsWatermark projectKey validStatuses) (.initial issuesDb) events := by
  have initially : (RagSystem.initial issuesDb).Tracked projectKey validStatuses := by
    refine ⟨Int.le_refl _, ?_, nofun, trivial⟩
    intro id fields found
    cases found
  have both := StepSystem.along_and quiet current
  constructor
  · apply StepSystem.along_of_invariant _ _ initially both
    · intro system event next tracked condition stepped
      exact tracked.step condition.1 condition.2 stepped
    · intro system event tracked _
      exact tracked.endsInSync event
  · exact StepSystem.along_of_forall keepsWatermark _ _

end Convergence

/-- A run fails at one of two upserts, and the other one is left behind. -/
def failingSync : List RagEvent :=
  [⟨100 * second, .created 1 (summary "first")⟩, ⟨100 * second, .created 2 (summary "other")⟩,
    ⟨100 * second, .began⟩, ⟨100 * second, .advanced⟩, ⟨100 * second, .advanced⟩,
    ⟨100 * second, .advanced⟩, ⟨100 * second, .advanced⟩, ⟨100 * second, .advanced⟩,
    ⟨100 * second, .advanced⟩, ⟨101 * second, .upsertFailed 1⟩]

/-- The next run up to the end of its upserts. -/
def nextSync : List RagEvent :=
  [⟨104 * second, .began⟩, ⟨104 * second, .advanced⟩, ⟨104 * second, .advanced⟩,
    ⟨104 * second, .advanced⟩, ⟨104 * second, .advanced⟩, ⟨104 * second, .advanced⟩,
    ⟨104 * second, .advanced⟩, ⟨105 * second, .upserted 0⟩, ⟨105 * second, .upserted 0⟩]

/-- The upsert that was left behind returns before the issue is edited. -/
def recoveredSync : List RagEvent :=
  failingSync ++ [⟨102 * second, .landed 0⟩, ⟨103 * second, .edited 1 (summary "second")⟩] ++
    nextSync ++ [⟨106 * second, .advanced⟩, ⟨107 * second, .advanced⟩]

theorem runs_converge_recovered :
    StepSystem.Along (RagSystem.step "QA" ["Done"]) (EndsInSync "QA" ["Done"])
        (.initial .empty) recoveredSync ∧
      StepSystem.Along (RagSystem.step "QA" ["Done"]) (KeepsWatermark "QA" ["Done"])
        (.initial .empty) recoveredSync := by
  apply runs_converge
  · exact ⟨rfl, rfl, trivial, trivial, trivial, trivial, trivial, trivial, trivial, trivial,
      trivial, rfl, trivial, trivial, trivial, trivial, trivial, trivial, trivial, trivial,
      trivial, trivial, trivial, trivial⟩
  · refine ⟨trivial, trivial, trivial, trivial, trivial, trivial, trivial, trivial, trivial,
      trivial, ?_, trivial, trivial, trivial, trivial, trivial, trivial, trivial, trivial,
      trivial, trivial, trivial, trivial, trivial⟩
    intro issue member
    cases member
    rfl

/-- The issue is edited, and the next run writes it; then the upsert that was left behind
returns, before this run ends. -/
def outpacedSync : List RagEvent :=
  failingSync ++ [⟨103 * second, .edited 1 (summary "second")⟩] ++ nextSync ++
    [⟨106 * second, .landed 0⟩, ⟨106 * second, .advanced⟩]

/-- The collection keeps the old content. -/
theorem outpacedSync_diverges :
    ¬ ∀ projectKey validStatuses issuesDb events,
      StepSystem.Along (RagSystem.step projectKey validStatuses) QuietRuns
          (.initial issuesDb) events →
        StepSystem.Along (RagSystem.step projectKey validStatuses)
          (EndsInSync projectKey validStatuses) (.initial issuesDb) events := by
  intro converges
  have quiet : StepSystem.Along (RagSystem.step "QA" ["Done"]) QuietRuns (.initial .empty)
      (outpacedSync ++ [⟨107 * second, .advanced⟩]) :=
    ⟨rfl, rfl, trivial, trivial, trivial, trivial, trivial, trivial, trivial, trivial, rfl,
      trivial, trivial, trivial, trivial, trivial, trivial, trivial, trivial, trivial, trivial,
      trivial, trivial, trivial⟩
  have along := converges "QA" ["Done"] .empty _ quiet
  obtain ⟨system, ran, phase, next, ended, outdated⟩ :
      ∃ system ∈ StepSystem.run (RagSystem.step "QA" ["Done"]) (.initial .empty) outpacedSync,
        system.phase = .saving (104 * second) (106 * second) ∧
          ∃ next ∈ system.step "QA" ["Done"] ⟨107 * second, .advanced⟩,
            ¬ next.Synced "QA" ["Done"] 1 := by
    decide
  have ends := StepSystem.along_at along ran
  simp only [EndsInSync, phase] at ends
  exact outdated (ends next ended 1)

end QuAIA.Services
