import Mathlib.Data.List.Infix
import Mathlib.Data.Nat.Basic

/-!
Contract: overlapping windows of one size over a list, at the multiples of a stride.

Owns: where the windows start; and the runs of consecutive elements that lie inside one window.

A run may be longer than the overlap of two windows by one element: the windows that start after
its first element need not hold it.
-/

set_option autoImplicit false

namespace QuAIA.Library.Windows

universe u

variable {α : Type u} {stride size : Nat}

/-- `range(0, length, stride)`. -/
def starts (stride length : Nat) : List Nat :=
  (List.range ((length + stride - 1) / stride)).map (· * stride)

def windowAt (size : Nat) (items : List α) (start : Nat) : List α := (items.drop start).take size

theorem mem_starts (positive : 0 < stride) {start length : Nat} :
    start ∈ starts stride length ↔ stride ∣ start ∧ start < length := by
  have below (index : Nat) :
      index < (length + stride - 1) / stride ↔ index * stride < length := by
    rw [Nat.lt_div_iff_mul_lt positive]
    omega
  simp only [starts, List.mem_map, List.mem_range, below]
  constructor
  · rintro ⟨index, before, rfl⟩
    exact ⟨Nat.dvd_mul_left stride index, before⟩
  · rintro ⟨⟨index, rfl⟩, before⟩
    exact ⟨index, by rwa [Nat.mul_comm] at before, Nat.mul_comm index stride⟩

/-- A place is less than a stride behind the start of some window. -/
theorem exists_start_near (positive : 0 < stride) {place length : Nat} (inside : place < length) :
    ∃ start ∈ starts stride length, start ≤ place ∧ place < start + stride := by
  have split := Nat.div_add_mod place stride
  have remainder := Nat.mod_lt place positive
  have bounds : stride * (place / stride) ≤ place ∧ place < stride * (place / stride) + stride := by
    omega
  refine ⟨stride * (place / stride), (mem_starts positive).mpr ⟨Nat.dvd_mul_right _ _, ?_⟩, bounds⟩
  omega

/-- A run that exceeds the overlap by at most one element lies inside a window. -/
theorem exists_start_around (positive : 0 < stride) (overlapping : stride ≤ size)
    {place count length : Nat} (nonempty : 0 < length) (fits : place + count ≤ length)
    (short : count + stride ≤ size + 1) :
    ∃ start ∈ starts stride length, start ≤ place ∧ place + count ≤ start + size := by
  by_cases inside : place < length
  · obtain ⟨start, isStart, before, near⟩ := exists_start_near positive inside
    exact ⟨start, isStart, before, by omega⟩
  · -- An empty run behind the last element.
    have lastInside : length - 1 < length := by omega
    obtain ⟨start, isStart, before, near⟩ := exists_start_near positive lastInside
    exact ⟨start, isStart, by omega, by omega⟩

theorem length_windowAt_le (items : List α) (start : Nat) :
    (windowAt size items start).length ≤ size :=
  List.length_take_le size _

theorem getElem?_windowAt (items : List α) {start place : Nat} (before : start ≤ place)
    (near : place < start + size) :
    (windowAt size items start)[place - start]? = items[place]? := by
  have offset : place - start < size := by omega
  rw [windowAt, List.getElem?_take_of_lt offset, List.getElem?_drop, Nat.add_sub_cancel' before]

/-- A run inside a window stands in it at its own place. -/
theorem windowAt_eq_append {before run : List α} (after : List α) {start : Nat}
    (startsBefore : start ≤ before.length) (fits : before.length + run.length ≤ start + size) :
    ∃ right, windowAt size (before ++ run ++ after) start = before.drop start ++ run ++ right := by
  have room : (before.drop start ++ run).length ≤ size := by
    rw [List.length_append, List.length_drop]
    omega
  rw [windowAt, List.append_assoc, List.drop_append_of_le_length startsBefore,
    ← List.append_assoc, List.take_append, List.take_of_length_le room]
  exact ⟨_, rfl⟩

/-- **Runs in windows.** -/
theorem exists_window_of_run (positive : 0 < stride) (overlapping : stride ≤ size)
    {items before run after : List α} (split : items = before ++ run ++ after)
    (nonempty : items ≠ []) (short : run.length + stride ≤ size + 1) :
    ∃ start ∈ starts stride items.length, ∃ left right,
      windowAt size items start = left ++ run ++ right ∧ before = items.take start ++ left := by
  have fits : before.length + run.length ≤ items.length := by
    rw [split, List.length_append, List.length_append]
    omega
  obtain ⟨start, isStart, startsBefore, endsAfter⟩ := exists_start_around positive overlapping
    (List.length_pos_iff.mpr nonempty) fits short
  subst split
  obtain ⟨right, window⟩ := windowAt_eq_append after startsBefore endsAfter
  refine ⟨start, isStart, before.drop start, right, window, ?_⟩
  rw [List.append_assoc, List.take_append_of_le_length startsBefore, List.take_append_drop]

end QuAIA.Library.Windows
