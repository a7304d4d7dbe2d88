import Mathlib.Data.List.ReduceOption

/-!
Contract: a list of outcomes that is compacted to its successes and then paired
by position with the list that produced them.

Owns: the pairing that stops at the shorter list; the outcomes whose failures
come last; and the fact that the pairing gives every element its own success
and no other exactly for these, up to repeated successes.
-/

set_option autoImplicit false

namespace QuAIA.Library

universe u v

variable {α : Type u} {β : Type v}

/-! ## Pairing by position -/

/-- `for x, y in zip(xs, ys)` that updates each paired element and leaves the
others alone. -/
def updateZip (update : α → β → α) : List α → List β → List α
  | x :: xs, y :: ys => update x y :: updateZip update xs ys
  | xs, _ => xs

section Pairing

variable (update : α → β → α)

@[simp] theorem length_updateZip (xs : List α) (ys : List β) :
    (updateZip update xs ys).length = xs.length := by
  induction xs generalizing ys with
  | nil => rfl
  | cons x xs inductionHypothesis =>
      cases ys with
      | nil => rfl
      | cons y ys =>
          show (updateZip update xs ys).length + 1 = xs.length + 1
          rw [inductionHypothesis]

theorem getElem?_updateZip_of_paired {xs : List α} {ys : List β} {index : Nat} {x : α} {y : β}
    (element : xs[index]? = some x) (paired : ys[index]? = some y) :
    (updateZip update xs ys)[index]? = some (update x y) := by
  induction xs generalizing ys index with
  | nil => cases element
  | cons head xs inductionHypothesis =>
      cases ys with
      | nil => cases paired
      | cons first ys =>
          cases index with
          | zero =>
              cases element
              cases paired
              rfl
          | succ index => exact inductionHypothesis element paired

/-- The elements past the shorter list keep their value. -/
theorem getElem?_updateZip_of_unpaired {xs : List α} {ys : List β} {index : Nat}
    (unpaired : ys.length ≤ index) : (updateZip update xs ys)[index]? = xs[index]? := by
  induction xs generalizing ys index with
  | nil => rfl
  | cons head xs inductionHypothesis =>
      cases ys with
      | nil => rfl
      | cons first ys =>
          cases index with
          | zero => exact absurd unpaired (by simp)
          | succ index => exact inductionHypothesis (Nat.le_of_succ_le_succ unpaired)

/-- The elements past a position. -/
theorem mem_drop_iff_getElem? {xs : List α} {count : Nat} {x : α} :
    x ∈ xs.drop count ↔ ∃ index, count ≤ index ∧ xs[index]? = some x := by
  rw [List.mem_iff_getElem?]
  constructor
  · rintro ⟨offset, found⟩
    rw [List.getElem?_drop] at found
    exact ⟨count + offset, Nat.le_add_right count offset, found⟩
  · rintro ⟨index, past, found⟩
    refine ⟨index - count, ?_⟩
    rw [List.getElem?_drop, Nat.add_sub_cancel' past]
    exact found

end Pairing

/-! ## Failures at the end -/

/-- No success comes after a failure. -/
def FailuresLast (outcomes : List (Option β)) : Prop :=
  outcomes.Pairwise fun earlier later => earlier = none → later = none

instance [DecidableEq β] : DecidablePred (FailuresLast (β := β)) :=
  fun outcomes => inferInstanceAs (Decidable (outcomes.Pairwise _))

/-- When failures come last, compaction moves no success. -/
theorem FailuresLast.getElem?_reduceOption {outcomes : List (Option β)}
    (last : FailuresLast outcomes) (index : Nat) :
    outcomes.reduceOption[index]? = outcomes[index]?.join := by
  induction outcomes generalizing index with
  | nil => rfl
  | cons outcome rest inductionHypothesis =>
      obtain ⟨afterFailure, restLast⟩ := List.pairwise_cons.mp last
      cases outcome with
      | some value =>
          cases index with
          | zero => rfl
          | succ index => exact inductionHypothesis restLast index
      | none =>
          have allFailed : ∀ other ∈ rest, other = none :=
            fun other member => afterFailure other member rfl
          have compacted : rest.reduceOption = [] :=
            List.filterMap_eq_nil_iff.mpr allFailed
          rw [List.reduceOption_cons_of_none, compacted]
          cases index with
          | zero => rfl
          | succ index =>
              show none = rest[index]?.join
              cases found : rest[index]? with
              | none => rfl
              | some other => rw [allFailed other (List.mem_of_getElem? found)]; rfl

/-- A compaction that moves no success onto another position comes from failures
at the end and successes without repetition. -/
theorem failuresLast_of_inPlace {outcomes : List (Option β)}
    (inPlace : ∀ (index origin : Nat) (value : β), outcomes.reduceOption[index]? = some value →
      outcomes[origin]? = some (some value) → index = origin) :
    FailuresLast outcomes ∧ outcomes.reduceOption.Nodup := by
  induction outcomes with
  | nil => exact ⟨List.Pairwise.nil, List.nodup_nil⟩
  | cons outcome rest inductionHypothesis =>
      cases outcome with
      | some value =>
          rw [List.reduceOption_cons_of_some] at inPlace ⊢
          have restInPlace : FailuresLast rest ∧ rest.reduceOption.Nodup := by
            apply inductionHypothesis
            intro index origin other paired created
            exact Nat.succ.inj (inPlace (index + 1) (origin + 1) other paired created)
          refine ⟨List.pairwise_cons.mpr ⟨?_, restInPlace.1⟩,
            List.nodup_cons.mpr ⟨?_, restInPlace.2⟩⟩
          · intro _ _ failed
            cases failed
          · intro repeated
            obtain ⟨origin, created⟩ :=
              List.mem_iff_getElem?.mp (List.reduceOption_mem_iff.mp repeated)
            have moved := inPlace 0 (origin + 1) value rfl created
            cases moved
      | none =>
          rw [List.reduceOption_cons_of_none] at inPlace ⊢
          have noSuccess : rest.reduceOption = [] := by
            cases compacted : rest.reduceOption with
            | nil => rfl
            | cons first others =>
                have member : first ∈ rest.reduceOption := by
                  rw [compacted]
                  exact List.mem_cons_self
                obtain ⟨origin, created⟩ :=
                  List.mem_iff_getElem?.mp (List.reduceOption_mem_iff.mp member)
                have moved := inPlace 0 (origin + 1) first (by rw [compacted]; rfl) created
                cases moved
          have allFailed := List.filterMap_eq_nil_iff.mp noSuccess
          refine ⟨List.pairwise_cons.mpr ⟨fun other member _ => allFailed other member, ?_⟩, ?_⟩
          · exact List.pairwise_of_forall_mem_list
              (fun _ _ other member _ => allFailed other member)
          · rw [noSuccess]
            exact List.nodup_nil

end QuAIA.Library
