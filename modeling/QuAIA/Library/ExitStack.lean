import Mathlib.Data.List.Basic
import Mathlib.Data.List.Perm.Basic

/-!
Contract: contexts on an exit stack, with the account of every context that was opened or closed.

Owns: entering and closing; the balance of opened contexts with closed and entered ones; and
which contexts are open.

Closing runs in reverse order of entry, and no exit raises. A closed stack goes on as a fresh one.
-/

set_option autoImplicit false

namespace QuAIA.Library

universe u

variable {α : Type u}

structure ExitStack (α : Type u) where
  entered : List α
  opened : List α
  closed : List α

namespace ExitStack

def empty : ExitStack α := ⟨[], [], []⟩

def enter (stack : ExitStack α) (context : α) : ExitStack α :=
  { stack with
    entered := stack.entered ++ [context]
    opened := stack.opened ++ [context] }

def aclose (stack : ExitStack α) : ExitStack α :=
  { stack with
    entered := []
    closed := stack.closed ++ stack.entered.reverse }

/-- The contexts that were opened and not closed. -/
def stillOpen [DecidableEq α] (stack : ExitStack α) : List α :=
  stack.opened.filter fun context => context ∉ stack.closed

/-- Every context that was opened was closed or is on the stack, once. -/
structure Balanced (stack : ExitStack α) : Prop where
  distinct : stack.opened.Nodup
  accounted : stack.opened.Perm (stack.closed ++ stack.entered)

theorem balanced_empty : (empty : ExitStack α).Balanced := ⟨List.nodup_nil, .nil⟩

variable {stack : ExitStack α}

theorem Balanced.enter (balanced : stack.Balanced) {context : α}
    (fresh : context ∉ stack.opened) : (stack.enter context).Balanced where
  distinct := by
    rw [ExitStack.enter, List.nodup_append]
    refine ⟨balanced.distinct, by simp, ?_⟩
    intro other member new isNew
    rw [List.mem_singleton.mp isNew]
    exact fun same => fresh (same ▸ member)
  accounted := by
    simp only [ExitStack.enter]
    rw [← List.append_assoc]
    exact balanced.accounted.append_right [context]

theorem Balanced.aclose (balanced : stack.Balanced) : stack.aclose.Balanced where
  distinct := balanced.distinct
  accounted := by
    simp only [ExitStack.aclose, List.append_nil]
    exact balanced.accounted.trans ((List.reverse_perm stack.entered).symm.append_left stack.closed)

/-- Exactly the contexts on the stack are open. -/
theorem Balanced.stillOpen_perm [DecidableEq α] (balanced : stack.Balanced) :
    stack.stillOpen.Perm stack.entered := by
  have distinct := balanced.accounted.nodup_iff.mp balanced.distinct
  have apart := (List.nodup_append.mp distinct).2.2
  have split := balanced.accounted.filter fun context => context ∉ stack.closed
  have noneClosed : stack.closed.filter (fun context => context ∉ stack.closed) = [] := by
    simp [List.filter_eq_nil_iff]
  have allEntered :
      stack.entered.filter (fun context => context ∉ stack.closed) = stack.entered := by
    rw [List.filter_eq_self]
    intro context member
    rw [decide_eq_true_eq]
    intro isClosed
    exact apart context isClosed context member rfl
  rw [List.filter_append, noneClosed, allEntered, List.nil_append] at split
  exact split

/-- With nothing on the stack, every context that was opened was closed once. -/
theorem Balanced.closed_perm (balanced : stack.Balanced) (nothing : stack.entered = []) :
    stack.closed.Perm stack.opened := by
  have accounted := balanced.accounted
  rw [nothing, List.append_nil] at accounted
  exact accounted.symm

end ExitStack

end QuAIA.Library
