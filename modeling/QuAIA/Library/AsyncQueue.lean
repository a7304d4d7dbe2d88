import Mathlib.Data.List.Basic

/-!
Contract: an unbounded queue with a counter of unfinished items.

Owns: the queue state and its three operations that never suspend. Putting an
item counts it as unfinished; `taskDone` counts one item down and fails when
none is left; `join` waits for the counter to reach zero, so it is the
condition `unfinished = 0` on the state.
-/

set_option autoImplicit false

namespace QuAIA.Library

universe u

structure AsyncQueue (α : Type u) where
  items : List α
  unfinished : Nat
deriving DecidableEq, Repr

namespace AsyncQueue

variable {α : Type u}

def empty : AsyncQueue α := ⟨[], 0⟩

def putNowait (queue : AsyncQueue α) (item : α) : AsyncQueue α :=
  ⟨queue.items ++ [item], queue.unfinished + 1⟩

/-- Put the items of a list one after the other. -/
def putAll (queue : AsyncQueue α) (items : List α) : AsyncQueue α :=
  items.foldl putNowait queue

/-- Remove the oldest item; `none` where `get` would suspend. -/
def getNowait (queue : AsyncQueue α) : Option (α × AsyncQueue α) :=
  match queue.items with
  | [] => none
  | item :: rest => some (item, ⟨rest, queue.unfinished⟩)

/-- `none` where `task_done` raises because it was called too many times. -/
def taskDone (queue : AsyncQueue α) : Option (AsyncQueue α) :=
  if queue.unfinished = 0 then none else some ⟨queue.items, queue.unfinished - 1⟩

@[simp] theorem putNowait_items (queue : AsyncQueue α) (item : α) :
    (queue.putNowait item).items = queue.items ++ [item] := rfl

@[simp] theorem putNowait_unfinished (queue : AsyncQueue α) (item : α) :
    (queue.putNowait item).unfinished = queue.unfinished + 1 := rfl

theorem putAll_eq (queue : AsyncQueue α) (items : List α) :
    queue.putAll items = ⟨queue.items ++ items, queue.unfinished + items.length⟩ := by
  unfold putAll
  induction items generalizing queue with
  | nil => simp
  | cons item rest inductionHypothesis =>
      rw [List.foldl_cons, inductionHypothesis]
      simp [Nat.add_comm, Nat.add_left_comm]

theorem taskDone_of_pos {queue : AsyncQueue α} (pending : 0 < queue.unfinished) :
    queue.taskDone = some ⟨queue.items, queue.unfinished - 1⟩ := by
  have positive : queue.unfinished ≠ 0 := by omega
  simp [taskDone, positive]

/-- Whether or not it raises, `task_done` leaves the items alone. -/
theorem taskDone_getD_items (queue : AsyncQueue α) :
    (queue.taskDone.getD queue).items = queue.items := by
  unfold taskDone
  split <;> rfl

end AsyncQueue

end QuAIA.Library
