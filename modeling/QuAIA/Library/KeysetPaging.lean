import Mathlib.Data.Finset.Card
import Mathlib.Data.List.Sort
import Mathlib.Order.Lattice

/-!
Contract: reading a set of keys page by page, each page from the key at which the one before
stopped, while the set changes.

Owns: what a faithful page is; the loop that asks for page after page; that it returns increasing
keys, each stored when its page was read, and every key that is stored all along; how many requests
it makes; and that the pages of a sorted list are faithful.
-/

set_option autoImplicit false

namespace QuAIA.Library.KeysetPaging

universe u v

variable {α : Type u} {ε : Type v}

/-- The keys of a page, and where the next page starts. -/
structure Page (α : Type u) where
  keys : List α
  next : Option α
deriving DecidableEq

/-- Ask for page after page until one has no successor. Nothing after a bound on the requests. -/
def readAll (fetch : Nat → Option α → Except ε (Page α)) :
    Nat → Nat → Option α → Option (Except ε (List α))
  | 0, _, _ => none
  | requests + 1, request, start =>
      match fetch request start with
      | .error reason => some (.error reason)
      | .ok page =>
          match page.next with
          | none => some (.ok page.keys)
          | some bound =>
              (readAll fetch requests (request + 1) (some bound)).map
                (Except.map (page.keys ++ ·))

variable [LinearOrder α]

/-- The key is not before the start of a page. -/
def NotBefore (start : Option α) (key : α) : Prop := ∀ first ∈ start, first ≤ key

/-- A page has exactly the stored keys from its start to the start of the next one, in order, and
at least one if there is a next one. -/
structure Page.Faithful (page : Page α) (stored : α → Prop) (start : Option α) : Prop where
  keys : ∀ key, key ∈ page.keys ↔
    stored key ∧ NotBefore start key ∧ ∀ bound ∈ page.next, key < bound
  increasing : page.keys.Pairwise (· < ·)
  progresses : page.next.isSome → page.keys ≠ []

/-- What is read from a request on: increasing keys that were stored, and all that stayed. -/
structure Reads (stored : Nat → α → Prop) (request : Nat) (start : Option α) (keys : List α) :
    Prop where
  increasing : keys.Pairwise (· < ·)
  notBefore : ∀ key ∈ keys, NotBefore start key
  wasStored : ∀ key ∈ keys, ∃ moment ≥ request, stored moment key
  complete : ∀ key, NotBefore start key → (∀ moment ≥ request, stored moment key) → key ∈ keys

section Rules

variable {fetch : Nat → Option α → Except ε (Page α)} {stored : Nat → α → Prop}

omit [LinearOrder α] in
theorem readAll_succ (fetch : Nat → Option α → Except ε (Page α)) (requests request : Nat)
    (start : Option α) {page : Page α} (fetched : fetch request start = .ok page) :
    readAll fetch (requests + 1) request start =
      match page.next with
      | none => some (.ok page.keys)
      | some bound =>
          (readAll fetch requests (request + 1) (some bound)).map
            (Except.map (page.keys ++ ·)) := by
  rw [readAll, fetched]

/-- A page whose successor starts at the bound, in front of what is read from there. -/
theorem Reads.cons {page : Page α} {request : Nat} {start : Option α} {bound : α} {rest : List α}
    (faithful : page.Faithful (stored request) start) (isNext : page.next = some bound)
    (reads : Reads stored (request + 1) (some bound) rest) :
    Reads stored request start (page.keys ++ rest) := by
  have below : ∀ key ∈ page.keys, key < bound :=
    fun key member => ((faithful.keys key).mp member).2.2 bound isNext
  have above : ∀ key ∈ rest, bound ≤ key :=
    fun key member => reads.notBefore key member bound rfl
  constructor
  · exact List.pairwise_append.mpr ⟨faithful.increasing, reads.increasing,
      fun key isKey other isOther => lt_of_lt_of_le (below key isKey) (above other isOther)⟩
  · intro key member
    rcases List.mem_append.mp member with onPage | later
    · exact ((faithful.keys key).mp onPage).2.1
    · have progressed := faithful.progresses (by rw [isNext]; rfl)
      obtain ⟨first, rest', split⟩ := List.exists_cons_of_ne_nil progressed
      have onPage : first ∈ page.keys := split ▸ List.mem_cons_self
      intro start' isStart
      exact le_trans (((faithful.keys first).mp onPage).2.1 start' isStart)
        (le_of_lt (lt_of_lt_of_le (below first onPage) (above key later)))
  · intro key member
    rcases List.mem_append.mp member with onPage | later
    · exact ⟨request, le_refl _, ((faithful.keys key).mp onPage).1⟩
    · obtain ⟨moment, late, isStored⟩ := reads.wasStored key later
      exact ⟨moment, le_trans (Nat.le_succ _) late, isStored⟩
  · intro key notBefore stays
    rw [List.mem_append]
    by_cases inside : key < bound
    · refine Or.inl ((faithful.keys key).mpr ⟨stays request (le_refl _), notBefore, ?_⟩)
      intro other isOther
      rw [isNext, Option.mem_some_iff] at isOther
      exact isOther ▸ inside
    · refine Or.inr (reads.complete key ?_ fun moment late => stays moment (Nat.le_of_succ_le late))
      intro first isFirst
      exact (Option.mem_some_iff.mp isFirst) ▸ not_lt.mp inside

/-- **Reading under changes.** Where every page is faithful to what is stored when it is read, the
loop reads increasing keys that were stored, and all that stayed. -/
theorem reads_of_readAll
    (faithful : ∀ request start page, fetch request start = .ok page →
      page.Faithful (stored request) start)
    {requests request : Nat} {start : Option α} {keys : List α}
    (finished : readAll fetch requests request start = some (.ok keys)) :
    Reads stored request start keys := by
  induction requests generalizing request start keys with
  | zero => cases finished
  | succ requests inductionHypothesis =>
      cases fetched : fetch request start with
      | error reason =>
          rw [readAll, fetched] at finished
          cases finished
      | ok page =>
          have isFaithful := faithful request start page fetched
          rw [readAll_succ fetch requests request start fetched] at finished
          cases isNext : page.next with
          | none =>
              rw [isNext] at finished
              cases finished
              refine ⟨isFaithful.increasing,
                fun key member => ((isFaithful.keys key).mp member).2.1,
                fun key member => ⟨request, le_refl _, ((isFaithful.keys key).mp member).1⟩, ?_⟩
              intro key notBefore stays
              exact (isFaithful.keys key).mpr
                ⟨stays request (le_refl _), notBefore, by simp [isNext]⟩
          | some bound =>
              rw [isNext] at finished
              obtain ⟨outcome, readRest, mapped⟩ := Option.map_eq_some_iff.mp finished
              cases outcome with
              | error reason => cases mapped
              | ok rest =>
                  cases mapped
                  exact Reads.cons isFaithful isNext (inductionHypothesis readRest)

/-- Where nothing changes, what is read are the stored keys. -/
theorem Reads.mem_iff {unchanged : α → Prop} {keys : List α}
    (reads : Reads (fun _ => unchanged) 0 none keys) (key : α) : key ∈ keys ↔ unchanged key := by
  constructor
  · intro member
    obtain ⟨_, _, isStored⟩ := reads.wasStored key member
    exact isStored
  · intro isStored
    exact reads.complete key (fun _ isFirst => by cases isFirst) fun _ _ => isStored

/-- The keys that can still be read. -/
def ahead (everything : Finset α) (start : Option α) : Finset α :=
  everything.filter fun key => start.all (· ≤ key)

/-- **Requests.** The loop ends after at most one request more than there are keys that are ever
stored. -/
theorem readAll_isSome
    (faithful : ∀ request start page, fetch request start = .ok page →
      page.Faithful (stored request) start)
    (everything : Finset α) (bounded : ∀ moment key, stored moment key → key ∈ everything)
    {requests : Nat} (request : Nat) (start : Option α)
    (enough : (ahead everything start).card < requests) :
    (readAll fetch requests request start).isSome := by
  induction requests generalizing request start with
  | zero => exact absurd enough (Nat.not_lt_zero _)
  | succ requests inductionHypothesis =>
      cases fetched : fetch request start with
      | error reason =>
          rw [readAll, fetched]
          rfl
      | ok page =>
          have isFaithful := faithful request start page fetched
          rw [readAll_succ fetch requests request start fetched]
          cases isNext : page.next with
          | none => rfl
          | some bound =>
              rw [Option.isSome_map]
              refine inductionHypothesis (request + 1) (some bound) ?_
              -- The first key of the page is behind the bound.
              obtain ⟨first, rest, split⟩ :=
                List.exists_cons_of_ne_nil (isFaithful.progresses (by rw [isNext]; rfl))
              obtain ⟨isStored, notBefore, below⟩ :=
                (isFaithful.keys first).mp (split ▸ List.mem_cons_self)
              have isBelow : first < bound := below bound isNext
              have wasAhead : first ∈ ahead everything start := by
                rw [ahead, Finset.mem_filter, Option.all_eq_true]
                exact ⟨bounded request first isStored,
                  fun key isStart => by simpa using notBefore key isStart⟩
              have fewer : ahead everything (some bound) ⊂ ahead everything start := by
                refine (Finset.ssubset_iff_of_subset ?_).mpr ⟨first, wasAhead, ?_⟩
                · intro key member
                  simp only [ahead, Finset.mem_filter, Option.all_some, decide_eq_true_eq] at member
                  rw [ahead, Finset.mem_filter, Option.all_eq_true]
                  refine ⟨member.1, fun key' isStart => ?_⟩
                  have : key' ≤ first := notBefore key' isStart
                  simpa using le_trans this (le_of_lt (lt_of_lt_of_le isBelow member.2))
                · simp [ahead, isBelow]
              exact lt_of_lt_of_le (Finset.card_lt_card fewer) (Nat.le_of_lt_succ enough)

end Rules

/-- The page of a server that keeps the keys in a sorted list: at most `limit` of them. -/
def pageOf (limit : Nat) (sorted : List α) (start : Option α) : Page α :=
  let ahead := sorted.filter fun key => start.all (· ≤ key)
  ⟨ahead.take limit, ahead[limit]?⟩

theorem pageOf_faithful {limit : Nat} (positive : 0 < limit) {sorted : List α}
    (increasing : sorted.Pairwise (· < ·)) (start : Option α) :
    (pageOf limit sorted start).Faithful (· ∈ sorted) start := by
  let ahead := sorted.filter fun key => start.all (· ≤ key)
  have isAhead : ∀ key, key ∈ ahead ↔ key ∈ sorted ∧ NotBefore start key := by
    intro key
    simp [ahead, NotBefore, List.mem_filter, Option.all_eq_true]
  have order : ahead.Pairwise (· < ·) := increasing.filter _
  have cut := List.take_append_drop limit ahead
  have bounds := List.pairwise_append.mp (cut.symm ▸ order)
  have isNext : (pageOf limit sorted start).next = (ahead.drop limit).head? := by
    rw [List.head?_drop]
    rfl
  constructor
  · intro key
    rw [← and_assoc, ← isAhead, isNext]
    show key ∈ ahead.take limit ↔ _
    constructor
    · intro onPage
      exact ⟨List.mem_of_mem_take onPage,
        fun bound isBound => bounds.2.2 key onPage bound (List.mem_of_mem_head? isBound)⟩
    · rintro ⟨member, below⟩
      rw [← cut, List.mem_append] at member
      refine member.resolve_right fun later => ?_
      obtain ⟨bound, rest, split⟩ := List.exists_cons_of_ne_nil (List.ne_nil_of_mem later)
      have isBelow := below bound (by rw [split]; rfl)
      have ordered := bounds.2.1
      rw [split, List.pairwise_cons] at ordered
      rw [split, List.mem_cons] at later
      rcases later with rfl | inRest
      · exact lt_irrefl _ isBelow
      · exact lt_asymm isBelow (ordered.1 key inRest)
  · exact bounds.1
  · rw [isNext]
    intro isSome empty
    have emptyPage : ahead.take limit = [] := empty
    rw [List.take_eq_nil_iff] at emptyPage
    rcases emptyPage with none | noneAhead
    · exact absurd none (Nat.ne_of_gt positive)
    · simp [noneAhead] at isSome

end QuAIA.Library.KeysetPaging
