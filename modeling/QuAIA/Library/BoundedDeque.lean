import Mathlib.Data.List.DropRight

/-!
Contract: a deque with a maximal length.

Owns: appending, which drops the first item of a full deque, and that such a deque holds the last
of the items that were ever appended.

Does not own: appending on the left and taking items out.
-/

set_option autoImplicit false

namespace QuAIA.Library.BoundedDeque

universe u

variable {α : Type u}

/-- A deque at its maximal length drops its first item. -/
def append (limit : Nat) (items : List α) (item : α) : List α :=
  (if items.length = limit then items.tail else items) ++ [item]

theorem length_append {limit : Nat} (positive : 1 ≤ limit) {items : List α}
    (within : items.length ≤ limit) (item : α) :
    (append limit items item).length = min (items.length + 1) limit := by
  rw [append, List.length_append, List.length_singleton]
  split
  · rw [List.length_tail]
    omega
  · omega

theorem length_rtake (items : List α) (count : Nat) :
    (items.rtake count).length = min items.length count := by
  rw [List.rtake, List.length_drop]
  omega

/-- A run that is longer than the last items is cut to them. -/
theorem rtake_append (first last : List α) {count : Nat} (within : count ≤ last.length) :
    (first ++ last).rtake count = last.rtake count := by
  have dropped : (first ++ last).length - count = first.length + (last.length - count) := by
    rw [List.length_append]
    omega
  rw [List.rtake, List.rtake, dropped, List.drop_length_add_append]

theorem rtake_rtake (items : List α) (inner outer : Nat) :
    (items.rtake inner).rtake outer = items.rtake (min inner outer) := by
  have dropped : items.length - inner + (min items.length inner - outer) =
      items.length - min inner outer := by
    omega
  rw [List.rtake.eq_def (items.rtake inner), length_rtake, List.rtake, List.rtake,
    List.drop_drop, dropped]

theorem rtake_of_length_le {items : List α} {count : Nat} (within : items.length ≤ count) :
    items.rtake count = items := by
  rw [List.rtake, Nat.sub_eq_zero_of_le within, List.drop_zero]

/-- **Appending.** The deque goes on to hold the last items. -/
theorem append_rtake {limit : Nat} (positive : 1 ≤ limit) (items : List α) (item : α) :
    append limit (items.rtake limit) item = (items ++ [item]).rtake limit := by
  obtain ⟨room, rfl⟩ : ∃ room, limit = room + 1 := Nat.exists_eq_add_of_le' positive
  rw [List.rtake_concat_succ, append, length_rtake]
  congr 1
  split
  · rename_i full
    have further : items.length - (room + 1) + 1 = items.length - room := by omega
    rw [List.rtake, List.rtake, List.tail_drop, further]
  · have short : items.length ≤ room := by omega
    rw [rtake_of_length_le short, rtake_of_length_le (Nat.le_succ_of_le short)]

end QuAIA.Library.BoundedDeque
