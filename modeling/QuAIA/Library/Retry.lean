import Mathlib.Data.List.Count
import Mathlib.Tactic.ByContra

/-!
Contract: an operation that is attempted again while its attempts fail retryably.

Owns: the attempts that are made out of those that could be; and when two of them both have an
effect.
-/

set_option autoImplicit false

namespace QuAIA.Library.Retry

universe u

variable {α : Type u}

/-- The attempts that are made: the first one, and up to `retries` more while all before were
retryable. -/
def made (retryable : α → Bool) : Nat → (Nat → α) → List α
  | 0, attempts => [attempts 0]
  | retries + 1, attempts =>
      attempts 0 ::
        if retryable (attempts 0) then made retryable retries fun k => attempts (k + 1) else []

/-- An attempt that has the effect is retried until another one has it too. -/
def Repeats (retryable effective : α → Bool) (retries : Nat) (attempts : Nat → α) : Prop :=
  ∃ earlier later, earlier < later ∧ later ≤ retries ∧
    (∀ k < later, retryable (attempts k) = true) ∧
      effective (attempts earlier) = true ∧ effective (attempts later) = true

section Rules

variable (retryable effective : α → Bool)

theorem mem_made {retries : Nat} {attempts : Nat → α} {attempt : α} :
    attempt ∈ made retryable retries attempts ↔
      ∃ last ≤ retries, (∀ k < last, retryable (attempts k) = true) ∧
        attempts last = attempt := by
  induction retries generalizing attempts with
  | zero =>
      rw [made, List.mem_singleton]
      constructor
      · rintro rfl
        exact ⟨0, Nat.le_refl _, fun k before => absurd before (Nat.not_lt_zero k), rfl⟩
      · rintro ⟨last, within, -, rfl⟩
        rw [Nat.le_zero.mp within]
  | succ retries inductionHypothesis =>
      rw [made, List.mem_cons]
      constructor
      · rintro (rfl | later)
        · exact ⟨0, Nat.zero_le _, fun k before => absurd before (Nat.not_lt_zero k), rfl⟩
        · split at later
          · rename_i first
            obtain ⟨last, within, before, rfl⟩ := inductionHypothesis.mp later
            refine ⟨last + 1, Nat.succ_le_succ within, ?_, rfl⟩
            intro k below
            cases k with
            | zero => exact first
            | succ k => exact before k (Nat.lt_of_succ_lt_succ below)
          · cases later
      · rintro ⟨last, within, before, rfl⟩
        cases last with
        | zero => exact Or.inl rfl
        | succ last =>
            rw [if_pos (before 0 (Nat.succ_pos last))]
            refine Or.inr (inductionHypothesis.mpr ⟨last, Nat.le_of_succ_le_succ within, ?_, rfl⟩)
            intro k below
            exact before (k + 1) (Nat.succ_lt_succ below)

/-- Whether the first attempt is one of the two. -/
theorem repeats_succ {retries : Nat} {attempts : Nat → α} :
    Repeats retryable effective (retries + 1) attempts ↔
      retryable (attempts 0) = true ∧
        (Repeats retryable effective retries (fun k => attempts (k + 1)) ∨
          effective (attempts 0) = true ∧
            ∃ attempt ∈ made retryable retries (fun k => attempts (k + 1)),
              effective attempt = true) := by
  constructor
  · rintro ⟨earlier, later, order, within, before, first, second⟩
    refine ⟨before 0 (Nat.zero_lt_of_lt order), ?_⟩
    obtain ⟨later, rfl⟩ := Nat.exists_eq_succ_of_ne_zero (Nat.ne_zero_of_lt order)
    have beforeLater : ∀ k < later, retryable (attempts (k + 1)) = true :=
      fun k below => before (k + 1) (Nat.succ_lt_succ below)
    have withinRest : later ≤ retries := Nat.le_of_succ_le_succ within
    cases earlier with
    | zero =>
        exact Or.inr ⟨first, attempts (later + 1),
          (mem_made retryable).mpr ⟨later, withinRest, beforeLater, rfl⟩, second⟩
    | succ earlier =>
        exact Or.inl ⟨earlier, later, Nat.lt_of_succ_lt_succ order, withinRest, beforeLater, first,
          second⟩
  · rintro ⟨retried, rest⟩
    have shifted : ∀ {later : Nat}, (∀ k < later, retryable (attempts (k + 1)) = true) →
        ∀ k < later + 1, retryable (attempts k) = true := by
      intro later before k below
      cases k with
      | zero => exact retried
      | succ k => exact before k (Nat.lt_of_succ_lt_succ below)
    rcases rest with ⟨earlier, later, order, within, before, first, second⟩ |
      ⟨first, attempt, isMade, second⟩
    · exact ⟨earlier + 1, later + 1, Nat.succ_lt_succ order, Nat.succ_le_succ within,
        shifted before, first, second⟩
    · obtain ⟨later, within, before, rfl⟩ := (mem_made retryable).mp isMade
      exact ⟨0, later + 1, Nat.succ_pos later, Nat.succ_le_succ within, shifted before, first,
        second⟩

/-- **At most once.** At most one of the attempts that are made has the effect exactly if no
attempt that has it is retried until another one has it too. -/
theorem countP_made_le_one_iff (retries : Nat) (attempts : Nat → α) :
    (made retryable retries attempts).countP effective ≤ 1 ↔
      ¬ Repeats retryable effective retries attempts := by
  induction retries generalizing attempts with
  | zero =>
      have single : (made retryable 0 attempts).countP effective ≤ 1 := by
        simpa [made] using List.countP_le_length (p := effective) (l := [attempts 0])
      refine ⟨fun _ => ?_, fun _ => single⟩
      rintro ⟨earlier, later, order, within, -⟩
      omega
  | succ retries inductionHypothesis =>
      have rest := inductionHypothesis fun k => attempts (k + 1)
      have none_later := List.countP_eq_zero (p := effective)
        (l := made retryable retries fun k => attempts (k + 1))
      rw [repeats_succ]
      by_cases retried : retryable (attempts 0) = true
      · rw [made, if_pos retried, List.countP_cons]
        by_cases first : effective (attempts 0) = true
        · have noSecond : ¬ (∃ attempt ∈ made retryable retries fun k => attempts (k + 1),
              effective attempt = true) ↔
                (made retryable retries fun k => attempts (k + 1)).countP effective = 0 := by
            rw [none_later]
            simp
          simp only [first, if_true, retried, true_and, not_or, noSecond, ← rest]
          omega
        · simpa [first, retried] using rest
      · have single : (made retryable (retries + 1) attempts).countP effective ≤ 1 := by
          rw [made, if_neg retried]
          simpa using List.countP_le_length (p := effective) (l := [attempts 0])
        exact ⟨fun _ both => retried both.1, fun _ => single⟩

end Rules

end QuAIA.Library.Retry
