import QuAIA.Common.Models
import QuAIA.Library.KeysetPaging
import QuAIA.Services.RagSync

/-!
Contract: the scroll over a collection of the vector database (`vector_db_service.py`) and the
reconciliation that it serves, while others write to the collection.

Owns: `scroll_all_ids_by_project` with its pages; the stale ids of `_reconcile_deleted_issues`; and
what both are worth when every page may see another state of the collection.

Does not own: the server. The rules ask that a page of its `scroll` is faithful to the collection
at the time of the request: the points of the project in the order of their ids, from the offset to
the next offset.
-/

set_option autoImplicit false

namespace QuAIA.Services

open QuAIA.Common
open QuAIA.Library

/-- `VectorDbService.scroll_all_ids_by_project`: the answers of the server to the listing of the
collections and to each `scroll`, with a bound on the number of pages. -/
def scrollPages (collectionExists : Except PyError Bool)
    (scroll : Nat → Option Nat → Except PyError (KeysetPaging.Page Nat)) (requests : Nat) :
    Option (Except PyError (List Nat)) :=
  match collectionExists with
  | .error raised => some (.error raised)
  | .ok false => some (.ok [])
  | .ok true => KeysetPaging.readAll scroll requests 0 none

/-- `stale_ids` of `_reconcile_deleted_issues`. -/
def staleIds (currentIds storedIds : List Nat) : List Nat :=
  storedIds.filter fun id => id ∉ currentIds

/-- A point of the project. -/
def StoredFor (projectKey : String) (issuesDb : Dict Nat JiraIssue) (id : Nat) : Prop :=
  ∃ issue, issuesDb.get? id = some issue ∧ issue.projectKey = some projectKey

theorem mem_scrollAllIdsByProject {projectKey : String} {issuesDb : Dict Nat JiraIssue} {id : Nat} :
    id ∈ scrollAllIdsByProject issuesDb projectKey ↔ StoredFor projectKey issuesDb id := by
  simp only [scrollAllIdsByProject, List.mem_map, List.mem_filter, decide_eq_true_eq, StoredFor]
  constructor
  · rintro ⟨entry, ⟨member, ofProject⟩, rfl⟩
    exact ⟨entry.2, issuesDb.get?_of_mem_entries member, ofProject⟩
  · rintro ⟨issue, found, ofProject⟩
    exact ⟨(id, issue), ⟨(issuesDb.mem_entries_iff id issue).mpr found, ofProject⟩, rfl⟩

/-- Every page is faithful to the collection as it is at its request. -/
def ScrollsFaithfully (projectKey : String) (collectionAt : Nat → Dict Nat JiraIssue)
    (scroll : Nat → Option Nat → Except PyError (KeysetPaging.Page Nat)) : Prop :=
  ∀ request start page, scroll request start = .ok page →
    page.Faithful (StoredFor projectKey (collectionAt request)) start

/-- What a scroll is good for: no id twice, and among the ids that the listing of Jira lacks, the
stale ones were stored during the scroll, and those that were stored all along are stale. -/
structure ReconcilePromise (projectKey : String) (collectionAt : Nat → Dict Nat JiraIssue)
    (currentIds stale : List Nat) : Prop where
  once : stale.Nodup
  wasStored : ∀ id ∈ stale, id ∉ currentIds ∧
    ∃ moment, StoredFor projectKey (collectionAt moment) id
  complete : ∀ id, id ∉ currentIds → (∀ moment, StoredFor projectKey (collectionAt moment) id) →
    id ∈ stale
  atomic : ∀ issuesDb, (∀ moment, collectionAt moment = issuesDb) →
    stale.Perm (staleIds currentIds (scrollAllIdsByProject issuesDb projectKey))

section Scroll

variable {projectKey : String} {collectionAt : Nat → Dict Nat JiraIssue}
  {scroll : Nat → Option Nat → Except PyError (KeysetPaging.Page Nat)}

theorem nodup_scrollAllIdsByProject (issuesDb : Dict Nat JiraIssue) (projectKey : String) :
    (scrollAllIdsByProject issuesDb projectKey).Nodup :=
  issuesDb.nodup.sublist (List.filter_sublist.map Prod.fst)

theorem reconcilePromise_of_reads (currentIds : List Nat) {storedIds : List Nat}
    (reads : KeysetPaging.Reads (fun moment => StoredFor projectKey (collectionAt moment)) 0 none
      storedIds) :
    ReconcilePromise projectKey collectionAt currentIds (staleIds currentIds storedIds) where
  once := (reads.increasing.imp fun less => Nat.ne_of_lt less).filter _
  wasStored id member := by
    obtain ⟨isRead, notCurrent⟩ := List.mem_filter.mp member
    obtain ⟨moment, -, isStored⟩ := reads.wasStored id isRead
    exact ⟨by simpa using notCurrent, moment, isStored⟩
  complete id notCurrent stays := by
    have isRead := reads.complete id (fun _ isFirst => by cases isFirst)
      fun moment _ => stays moment
    exact List.mem_filter.mpr ⟨isRead, by simpa using notCurrent⟩
  atomic issuesDb unchanged := by
    have sameCollection : collectionAt = fun _ => issuesDb := funext unchanged
    subst sameCollection
    refine List.Perm.filter _ ((List.perm_ext_iff_of_nodup ?_ ?_).mpr ?_)
    · exact reads.increasing.imp fun less => Nat.ne_of_lt less
    · exact nodup_scrollAllIdsByProject issuesDb projectKey
    · intro id
      rw [reads.mem_iff, mem_scrollAllIdsByProject]

end Scroll

/-- **Reconciling under changes.** Whatever is written to the collection between the pages of a
scroll, the scroll ends after at most one request more than there are ids that are ever stored; and
unless it raises, the ids that the reconciliation deletes were stored during the scroll and are not
in Jira's listing, among them all such ids that stayed; on an unchanged collection they are those
of a scroll in one piece. -/
theorem reconcile_under_changes (projectKey : String) (collectionAt : Nat → Dict Nat JiraIssue)
    (scroll : Nat → Option Nat → Except PyError (KeysetPaging.Page Nat))
    (faithful : ScrollsFaithfully projectKey collectionAt scroll) (everything : Finset Nat)
    (bounded : ∀ moment id, StoredFor projectKey (collectionAt moment) id → id ∈ everything)
    (currentIds : List Nat) :
    ∃ outcome, scrollPages (.ok true) scroll (everything.card + 1) = some outcome ∧
      ∀ storedIds, outcome = .ok storedIds →
        ReconcilePromise projectKey collectionAt currentIds (staleIds currentIds storedIds) := by
  have enough : (KeysetPaging.ahead everything none).card < everything.card + 1 :=
    Nat.lt_succ_of_le (Finset.card_le_card (Finset.filter_subset _ _))
  have ends := KeysetPaging.readAll_isSome faithful everything bounded 0 none enough
  obtain ⟨outcome, finished⟩ := Option.isSome_iff_exists.mp ends
  refine ⟨outcome, finished, ?_⟩
  rintro storedIds rfl
  exact reconcilePromise_of_reads currentIds (KeysetPaging.reads_of_readAll faithful finished)

/-- Between the two pages, 3 is deleted and 5 is added in front of the second one. -/
def idsAt : Nat → List Nat
  | 0 => [1, 3, 7]
  | _ => [1, 5, 7]

def issueOf (id : Nat) : JiraIssue :=
  ⟨id, "QA", "", "", "Bug", some "To Do", some "QA", none, none⟩

def changingCollection (moment : Nat) : Dict Nat JiraIssue :=
  (idsAt moment).foldl (fun issuesDb id => issuesDb.set id (issueOf id)) .empty

theorem scrollAllIdsByProject_changingCollection (moment : Nat) :
    scrollAllIdsByProject (changingCollection moment) "QA" = idsAt moment := by
  cases moment <;> rfl

theorem reconcile_under_changes_two_pages :
    ∃ outcome, scrollPages (.ok true)
        (fun moment start => .ok (KeysetPaging.pageOf 2 (idsAt moment) start)) 5 = some outcome ∧
      ∀ storedIds, outcome = .ok storedIds →
        ReconcilePromise "QA" changingCollection [1] (staleIds [1] storedIds) := by
  have isStored : ∀ moment id,
      StoredFor "QA" (changingCollection moment) id ↔ id ∈ idsAt moment := by
    intro moment id
    rw [← mem_scrollAllIdsByProject, scrollAllIdsByProject_changingCollection]
  refine reconcile_under_changes "QA" changingCollection _ ?_ {1, 3, 5, 7} ?_ [1]
  · rintro moment start page fetched
    obtain rfl := Except.ok.inj fetched
    have sorted : (idsAt moment).Pairwise (· < ·) := by
      cases moment <;> simp [idsAt]
    have faithful := KeysetPaging.pageOf_faithful (by decide : 0 < 2) sorted start
    exact ⟨fun key => by rw [faithful.keys, isStored], faithful.increasing, faithful.progresses⟩
  · intro moment id stored
    rw [isStored] at stored
    cases moment <;> simp [idsAt] at stored ⊢ <;> tauto

end QuAIA.Services
