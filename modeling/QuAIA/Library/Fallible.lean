import Mathlib.Data.List.Forall2

/-!
Contract: computations that end in a value or in an error.

Owns: when a sequence of two of them, when one of them for each item of a list, and when a search
that stops at the first find, ends in a value, and in which.

Does not own: what the errors are.
-/

set_option autoImplicit false

namespace QuAIA.Library.Fallible

universe u v

variable {ε : Type u} {α β : Type v}

theorem bind_eq_ok_iff {first : Except ε α} {next : α → Except ε β} {result : β} :
    first >>= next = .ok result ↔ ∃ value, first = .ok value ∧ next value = .ok result := by
  cases first with
  | error reason =>
      constructor
      · intro ended
        cases ended
      · rintro ⟨value, ended, -⟩
        cases ended
  | ok value =>
      constructor
      · exact fun ended => ⟨value, rfl, ended⟩
      · rintro ⟨other, same, ended⟩
        cases same
        exact ended

/-- Each item has its result, in the order of the items. -/
theorem mapM_eq_ok_iff {compute : α → Except ε β} {items : List α} {results : List β} :
    items.mapM compute = .ok results ↔
      List.Forall₂ (fun item result => compute item = .ok result) items results := by
  induction items generalizing results with
  | nil =>
      rw [List.mapM_nil, List.forall₂_nil_left_iff]
      exact ⟨fun ended => (Except.ok.inj ended).symm, fun isNil => isNil ▸ rfl⟩
  | cons item items inductionHypothesis =>
      rw [List.mapM_cons, bind_eq_ok_iff, List.forall₂_cons_left_iff]
      constructor
      · rintro ⟨result, ended, later⟩
        obtain ⟨others, endedOthers, same⟩ := bind_eq_ok_iff.mp later
        exact ⟨result, others, ended, inductionHypothesis.mp endedOthers,
          (Except.ok.inj same).symm⟩
      · rintro ⟨result, others, ended, endedOthers, rfl⟩
        exact ⟨result, ended,
          bind_eq_ok_iff.mpr ⟨others, inductionHypothesis.mpr endedOthers, rfl⟩⟩

/-- All end in a value if each does. -/
theorem exists_mapM_eq_ok_iff {compute : α → Except ε β} {items : List α} :
    (∃ results, items.mapM compute = .ok results) ↔
      ∀ item ∈ items, ∃ result, compute item = .ok result := by
  simp only [mapM_eq_ok_iff]
  induction items with
  | nil => simp
  | cons item items inductionHypothesis =>
      rw [List.forall_mem_cons, ← inductionHypothesis]
      constructor
      · rintro ⟨results, ended⟩
        obtain ⟨result, others, first, later, -⟩ := List.forall₂_cons_left_iff.mp ended
        exact ⟨⟨result, first⟩, others, later⟩
      · rintro ⟨⟨result, first⟩, others, later⟩
        exact ⟨result :: others, .cons first later⟩

/-! ## Searches -/

theorem findSomeM?_cons_eq_ok_iff {visit : α → Except ε (Option β)} {item : α} {items : List α}
    {result : Option β} :
    (item :: items).findSomeM? visit = .ok result ↔
      (∃ value, visit item = .ok (some value) ∧ some value = result) ∨
        (visit item = .ok none ∧ items.findSomeM? visit = .ok result) := by
  rw [List.findSomeM?_cons, bind_eq_ok_iff]
  constructor
  · rintro ⟨found, visited, later⟩
    cases found with
    | some value => exact .inl ⟨value, visited, Except.ok.inj later⟩
    | none => exact .inr ⟨visited, later⟩
  · rintro (⟨value, visited, rfl⟩ | ⟨visited, later⟩)
    · exact ⟨some value, visited, rfl⟩
    · exact ⟨none, visited, later⟩

/-- A find of the search is the find of one of its visits. -/
theorem exists_visit_of_findSomeM? {visit : α → Except ε (Option β)} {items : List α} {value : β}
    (found : items.findSomeM? visit = .ok (some value)) :
    ∃ item ∈ items, visit item = .ok (some value) := by
  induction items with
  | nil => cases found
  | cons item items inductionHypothesis =>
      rcases findSomeM?_cons_eq_ok_iff.mp found with ⟨other, visited, same⟩ | ⟨-, later⟩
      · exact ⟨item, List.mem_cons_self, same ▸ visited⟩
      · obtain ⟨later, member, visited⟩ := inductionHypothesis later
        exact ⟨later, List.mem_cons_of_mem _ member, visited⟩

/-- A visit that ends in a value exactly where it is allowed, and finds something exactly where
something is to be found. -/
structure Visits (visit : α → Except ε (Option β)) (allowed found : α → Prop) : Prop where
  ends : ∀ item, (∃ result, visit item = .ok result) ↔ allowed item
  finds : ∀ item result, visit item = .ok result → (result.isSome ↔ found item)

/-- The items up to the first find are allowed. -/
def UpToFirst (found allowed : α → Prop) : List α → Prop
  | [] => True
  | item :: rest => allowed item ∧ (¬found item → UpToFirst found allowed rest)

/-- **Search.** A search that stops at the first find ends when the items up to it are
allowed, and it finds something when some item has something. -/
theorem Visits.findSomeM? {visit : α → Except ε (Option β)} {allowed found : α → Prop}
    (visits : Visits visit allowed found) :
    Visits (List.findSomeM? visit) (UpToFirst found allowed)
      (fun items => ∃ item ∈ items, found item) where
  ends items := by
    induction items with
    | nil => exact ⟨fun _ => trivial, fun _ => ⟨none, rfl⟩⟩
    | cons item items inductionHypothesis =>
        simp only [findSomeM?_cons_eq_ok_iff]
        constructor
        · rintro ⟨result, ⟨value, visited, -⟩ | ⟨visited, later⟩⟩
          · have isFound : found item := (visits.finds item _ visited).mp rfl
            exact ⟨(visits.ends item).mp ⟨_, visited⟩, fun unfound => absurd isFound unfound⟩
          · exact ⟨(visits.ends item).mp ⟨_, visited⟩, fun _ =>
              inductionHypothesis.mp ⟨result, later⟩⟩
        · rintro ⟨isAllowed, later⟩
          obtain ⟨first, visited⟩ := (visits.ends item).mpr isAllowed
          cases first with
          | some value => exact ⟨some value, .inl ⟨value, visited, rfl⟩⟩
          | none =>
              have unfound : ¬found item := fun isFound =>
                absurd ((visits.finds item _ visited).mpr isFound) Bool.false_ne_true
              obtain ⟨result, ended⟩ := inductionHypothesis.mpr (later unfound)
              exact ⟨result, .inr ⟨visited, ended⟩⟩
  finds items result ended := by
    induction items with
    | nil =>
        obtain rfl : none = result := Except.ok.inj ended
        simp
    | cons item items inductionHypothesis =>
        rw [List.exists_mem_cons_iff]
        rcases findSomeM?_cons_eq_ok_iff.mp ended with ⟨value, visited, rfl⟩ | ⟨visited, later⟩
        · exact iff_of_true rfl (.inl ((visits.finds item _ visited).mp rfl))
        · rw [inductionHypothesis later, ← visits.finds item none visited]
          simp

end QuAIA.Library.Fallible
