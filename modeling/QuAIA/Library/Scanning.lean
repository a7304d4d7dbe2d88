import Mathlib.Data.List.Basic

/-!
Contract: the matches of a pattern in a list, found from the left and without overlap.

Owns: the division of a list at the matches of a pattern, the rule of induction on it,
replacement of the matches, and what lies outside of them.

Does not own: how a pattern decides. A match takes at least one item.
-/

set_option autoImplicit false

namespace QuAIA.Library

universe u v

/-- A pattern is tried at one place: it is given the item before, if there is one, and the
items from there on, and a match is what it captures and its length. -/
abbrev Pattern (α : Type u) (β : Type v) := Option α → List α → Option (β × Nat)

namespace Pattern

variable {α : Type u} {β : Type v}

/-- The items before the first match, and every match with the items up to the next one.
The first `inside` items still belong to a match. -/
def divideFrom (pattern : Pattern α β) : Nat → Option α → List α →
    List α × List (β × List α)
  | _, _, [] => ([], [])
  | inside + 1, _, item :: rest => divideFrom pattern inside (some item) rest
  | 0, previous, item :: rest =>
      match pattern previous (item :: rest) with
      | some (captured, length) =>
          let later := divideFrom pattern (length - 1) (some item) rest
          ([], (captured, later.1) :: later.2)
      | none =>
          let later := divideFrom pattern 0 (some item) rest
          (item :: later.1, later.2)

def divide (pattern : Pattern α β) (items : List α) : List α × List (β × List α) :=
  pattern.divideFrom 0 none items

/-- Every match with the items up to the next one. -/
def parts (pattern : Pattern α β) (items : List α) : List (β × List α) :=
  (pattern.divide items).2

/-- The items before the first match. -/
def before (pattern : Pattern α β) (items : List α) : List α := (pattern.divide items).1

def replace (pattern : Pattern α β) (replacement items : List α) : List α :=
  pattern.before items ++ (pattern.parts items).flatMap fun part => replacement ++ part.2

/-- The items that belong to no match. -/
def outside (pattern : Pattern α β) (items : List α) : List α :=
  pattern.before items ++ (pattern.parts items).flatMap Prod.snd

/-- What lies outside of the matches is left of the list. -/
theorem outside_sublist_from (pattern : Pattern α β) (inside : Nat) (previous : Option α)
    (items : List α) :
    ((pattern.divideFrom inside previous items).1 ++
      (pattern.divideFrom inside previous items).2.flatMap Prod.snd).Sublist items := by
  induction items generalizing inside previous with
  | nil => exact List.Sublist.refl []
  | cons item rest inductionHypothesis =>
      cases inside with
      | succ inside => exact (inductionHypothesis inside (some item)).cons item
      | zero =>
          rw [divideFrom]
          split
          · rename_i captured length found
            exact (inductionHypothesis (length - 1) (some item)).cons item
          · exact (inductionHypothesis 0 (some item)).cons_cons item

theorem outside_sublist (pattern : Pattern α β) (items : List α) :
    (pattern.outside items).Sublist items :=
  pattern.outside_sublist_from 0 none items

/-- Without a match, everything comes before the first one. -/
theorem before_of_parts_from {pattern : Pattern α β} {previous : Option α} {items : List α}
    (noMatch : (pattern.divideFrom 0 previous items).2 = []) :
    (pattern.divideFrom 0 previous items).1 = items := by
  induction items generalizing previous with
  | nil => rfl
  | cons item rest inductionHypothesis =>
      rw [divideFrom] at noMatch ⊢
      split at noMatch
      · cases noMatch
      · exact congrArg (item :: ·) (inductionHypothesis noMatch)

theorem outside_of_parts {pattern : Pattern α β} {items : List α}
    (noMatch : pattern.parts items = []) : pattern.outside items = items := by
  have everything : pattern.before items = items := before_of_parts_from noMatch
  rw [outside, noMatch, everything]
  exact List.append_nil items

/-! ## Induction on the division -/

/-- A match takes an item at least, and no more than there are. -/
def Proper (pattern : Pattern α β) : Prop :=
  ∀ previous items captured length, pattern previous items = some (captured, length) →
    0 < length ∧ length ≤ items.length

/-- The items after a place are divided into those before the first match and the matches,
each with what follows it. -/
inductive Division (pattern : Pattern α β) :
    Option α → List α → List α → List (β × List α) → Prop
  | nil {previous : Option α} : Division pattern previous [] [] []
  | skip {previous : Option α} {item : α} {rest before : List α} {parts : List (β × List α)}
      (noMatch : pattern previous (item :: rest) = none)
      (later : Division pattern (some item) rest before parts) :
      Division pattern previous (item :: rest) (item :: before) parts
  | found {previous : Option α} {matched rest before : List α} {captured : β}
      {parts : List (β × List α)}
      (isMatch : pattern previous (matched ++ rest) = some (captured, matched.length))
      (later : Division pattern matched.getLast? rest before parts) :
      Division pattern previous (matched ++ rest) [] ((captured, before) :: parts)

/-- The items that still belong to a match are passed over. -/
theorem divideFrom_append (pattern : Pattern α β) (previous : Option α) (inside rest : List α) :
    pattern.divideFrom inside.length previous (inside ++ rest) =
      pattern.divideFrom 0 (inside.getLast?.or previous) rest := by
  induction inside generalizing previous with
  | nil => rfl
  | cons item inside inductionHypothesis =>
      rw [List.length_cons, List.cons_append, divideFrom, inductionHypothesis]
      congr 1
      cases inside with
      | nil => rfl
      | cons second others => rw [List.getLast?_cons_cons, List.getLast?_cons]; rfl

theorem division_divideFrom {pattern : Pattern α β} (proper : pattern.Proper)
    (previous : Option α) (items : List α) :
    pattern.Division previous items (pattern.divideFrom 0 previous items).1
      (pattern.divideFrom 0 previous items).2 := by
  induction size : items.length using Nat.strongRecOn generalizing previous items with
  | ind size inductionHypothesis =>
      subst size
      cases items with
      | nil => exact .nil
      | cons item rest =>
          rw [divideFrom]
          split
          · rename_i captured length isMatch
            obtain ⟨positive, bounded⟩ := proper previous (item :: rest) captured length isMatch
            have taken : (rest.take (length - 1)).length = length - 1 := by
              rw [List.length_take]
              rw [List.length_cons] at bounded
              omega
            have wholeLength : (item :: rest.take (length - 1)).length = length := by
              rw [List.length_cons, taken]
              omega
            have whole : (item :: rest.take (length - 1)) ++ rest.drop (length - 1) =
                item :: rest := by
              rw [List.cons_append, List.take_append_drop]
            have last : (item :: rest.take (length - 1)).getLast? =
                (rest.take (length - 1)).getLast?.or (some item) := by
              rw [List.getLast?_cons]
              cases (rest.take (length - 1)).getLast? <;> rfl
            have passed := divideFrom_append pattern (some item) (rest.take (length - 1))
              (rest.drop (length - 1))
            rw [taken, List.take_append_drop, ← last] at passed
            have later := inductionHypothesis (rest.drop (length - 1)).length
              (by rw [List.length_drop, List.length_cons]; omega)
              (item :: rest.take (length - 1)).getLast? (rest.drop (length - 1)) rfl
            rw [← passed] at later
            rw [← wholeLength, ← whole] at isMatch
            have division := Division.found isMatch later
            rw [whole] at division
            exact division
          · rename_i noMatch
            exact .skip noMatch (inductionHypothesis rest.length
              (by rw [List.length_cons]; omega) (some item) rest rfl)

theorem division {pattern : Pattern α β} (proper : pattern.Proper) (items : List α) :
    pattern.Division none items (pattern.before items) (pattern.parts items) :=
  division_divideFrom proper none items

end Pattern

end QuAIA.Library
