import Mathlib.Data.Multiset.MapFold
import Mathlib.Algebra.Order.Group.Multiset
import Mathlib.Tactic.Abel

/-!
Contract: replacing one member of a list, seen through a partial projection.

Owns: the balance of the projected multiset and of a count when the member at an index is
replaced, and properties of all members after a replacement or an addition.
-/

set_option autoImplicit false

namespace QuAIA.Library

universe u v

variable {α : Type u} {β : Type v}

/-- Around an index, a list and its update split the same way. -/
theorem exists_split_of_getElem? {items : List α} {index : Nat} {old : α}
    (found : items[index]? = some old) (new : α) :
    ∃ before after, items = before ++ old :: after ∧
      items.set index new = before ++ new :: after := by
  obtain ⟨inside, isOld⟩ := List.getElem?_eq_some_iff.mp found
  have splits : ∃ before after, items = before ++ items[index] :: after ∧
      before.length = index ∧ items.set index new = before ++ new :: after :=
    List.exists_of_set inside
  obtain ⟨before, after, split, -, updated⟩ := splits
  exact ⟨before, after, isOld ▸ split, updated⟩

/-- Replacing a member trades what the old member projects to for what the new
one does. -/
theorem coe_filterMap_set {items : List α} {index : Nat} {old : α}
    (found : items[index]? = some old) (new : α) (project : α → Option β) :
    (((items.set index new).filterMap project : List β) : Multiset β) +
        ((project old).toList : List β) =
      (items.filterMap project : List β) + ((project new).toList : List β) := by
  obtain ⟨before, after, split, updated⟩ := exists_split_of_getElem? found new
  have expand : ∀ item : α, (before ++ item :: after).filterMap project =
      before.filterMap project ++ ((project item).toList ++ after.filterMap project) := by
    intro item
    cases projected : project item <;> simp [projected]
  have regroup : ∀ first last left right : Multiset β,
      first + (left + last) + right = first + (right + last) + left := by
    intro first last left right
    abel
  rw [updated, split, expand, expand]
  simp only [← Multiset.coe_add]
  exact regroup _ _ _ _

/-- Replacing a member trades its count. -/
theorem countP_set_of_getElem? {items : List α} {index : Nat} {old : α}
    (found : items[index]? = some old) (new : α) (accept : α → Bool) :
    (items.set index new).countP accept + (accept old).toNat =
      items.countP accept + (accept new).toNat := by
  obtain ⟨before, after, split, updated⟩ := exists_split_of_getElem? found new
  have expand : ∀ item : α, (before ++ item :: after).countP accept =
      before.countP accept + after.countP accept + (accept item).toNat := by
    intro item
    rw [List.countP_append, List.countP_cons]
    cases accept item <;> simp only [Bool.toNat_false, Bool.toNat_true, if_true, if_false,
      Bool.false_eq_true] <;> omega
  rw [updated, split, expand, expand]
  omega

/-- After a replacement everything satisfies a property when the new member and
all the untouched ones do. -/
theorem forall_mem_set_iff {items : List α} {index : Nat} {old : α}
    (found : items[index]? = some old) (new : α) (property : α → Prop) :
    (∀ item ∈ items.set index new, property item) ↔
      property new ∧ ∀ item ∈ items.eraseIdx index, property item := by
  obtain ⟨inside, isOld⟩ := List.getElem?_eq_some_iff.mp found
  rw [List.set_eq_take_append_cons_drop, if_pos inside, List.eraseIdx_eq_take_drop_succ]
  simp only [List.mem_append, List.mem_cons]
  constructor
  · intro every
    refine ⟨every new (Or.inr (Or.inl rfl)), ?_⟩
    rintro item (before | after)
    · exact every item (Or.inl before)
    · exact every item (Or.inr (Or.inr after))
  · rintro ⟨isNew, untouched⟩ item (before | rfl | after)
    · exact untouched item (Or.inl before)
    · exact isNew
    · exact untouched item (Or.inr after)

/-- A replacement by a member with a property keeps the property of all members. -/
theorem forall_mem_set {items : List α} {index : Nat} {new : α} {property : α → Prop}
    (every : ∀ item ∈ items, property item) (isNew : property new) :
    ∀ item ∈ items.set index new, property item := by
  intro item member
  rcases List.mem_or_eq_of_mem_set member with earlier | rfl
  · exact every item earlier
  · exact isNew

/-- A replacement that projects to the same leaves the projected list. -/
theorem map_set_of_same {items : List α} {index : Nat} {old new : α}
    (found : items[index]? = some old) {project : α → β} (same : project new = project old) :
    (items.set index new).map project = items.map project := by
  obtain ⟨before, after, split, updated⟩ := exists_split_of_getElem? found new
  rw [updated, split, List.map_append, List.map_cons, same, ← List.map_cons, ← List.map_append]

/-- A new member with a property at the end keeps the property of all members. -/
theorem forall_mem_concat {items : List α} {new : α} {property : α → Prop}
    (every : ∀ item ∈ items, property item) (isNew : property new) :
    ∀ item ∈ items ++ [new], property item := by
  intro item member
  rcases List.mem_append.mp member with earlier | last
  · exact every item earlier
  · obtain rfl := List.mem_singleton.mp last
    exact isNew

end QuAIA.Library
