import QuAIA.Library.Dict
import QuAIA.Library.StepSystem

/-!
Contract: callers that share a value and refresh it one at a time, with a check before the lock
and again under it.

Owns: the phases of a caller and the lock; the steps of any number of callers; that only the
holder of the lock requests; and what a step can do to the shared value and to a caller.

A caller that finds the lock free need not take it at once, and it may go to any waiting caller.
-/

set_option autoImplicit false

namespace QuAIA.Library.SingleFlight

universe u v w x

variable {σ : Type u} {τ : Type v} {ρ : Type w} {β : Type x}

/-- What a call returns without a refresh, and what the answer to a request makes of the shared
value; the call raises where it returns nothing. -/
structure Protocol (σ : Type u) (τ : Type v) (ρ : Type w) (β : Type x) where
  check : τ → σ → Option β
  finish : τ → ρ → σ → σ × Option β

inductive Phase (β : Type x) where
  | waiting
  | requesting
  | returned (value : β)
  | raised

def Phase.ended : Option β → Phase β
  | some value => .returned value
  | none => .raised

structure State (σ : Type u) (β : Type x) where
  shared : σ
  lock : Option Nat
  callers : Dict Nat (Phase β)

inductive Action (ρ : Type w) where
  | call (caller : Nat)
  | acquire (caller : Nat)
  | answered (caller : Nat) (answer : ρ)
  | cancelled (caller : Nat)

/-- A segment of one caller at a time. The lock is released in the segment that ends the call. -/
def step (protocol : Protocol σ τ ρ β) (state : State σ β) (event : τ × Action ρ) :
    Option (State σ β) :=
  match event.2 with
  | .call caller =>
      if state.callers.contains caller then none
      else
        match protocol.check event.1 state.shared with
        | some value =>
            some { state with callers := state.callers.set caller (.returned value) }
        | none => some { state with callers := state.callers.set caller .waiting }
  | .acquire caller =>
      match state.callers.get? caller, state.lock with
      | some .waiting, none =>
          match protocol.check event.1 state.shared with
          | some value =>
              some { state with callers := state.callers.set caller (.returned value) }
          | none =>
              some { state with
                lock := some caller
                callers := state.callers.set caller .requesting }
      | _, _ => none
  | .answered caller answer =>
      match state.callers.get? caller with
      | some .requesting =>
          let done := protocol.finish event.1 answer state.shared
          some ⟨done.1, none, state.callers.set caller (.ended done.2)⟩
      | _ => none
  | .cancelled caller =>
      match state.callers.get? caller with
      | some .waiting => some { state with callers := state.callers.set caller .raised }
      | some .requesting =>
          some { state with lock := none, callers := state.callers.set caller .raised }
      | _ => none

/-- What a segment does: a call ends with a checked value or waits; a request begins when the
check under the free lock fails; an answer ends the request; or a cancellation ends the call. -/
inductive Stepped (protocol : Protocol σ τ ρ β) (state : State σ β) (now : τ) :
    Action ρ → State σ β → Prop
  | checked {action : Action ρ} {caller : Nat} {value : β}
      (idle : state.callers.get? caller ≠ some .requesting)
      (found : protocol.check now state.shared = some value) :
      Stepped protocol state now action
        { state with callers := state.callers.set caller (.returned value) }
  | waits {caller : Nat} (idle : state.callers.get? caller ≠ some .requesting) :
      Stepped protocol state now (.call caller)
        { state with callers := state.callers.set caller .waiting }
  | requests {caller : Nat} (free : state.lock = none)
      (missing : protocol.check now state.shared = none) :
      Stepped protocol state now (.acquire caller)
        { state with lock := some caller, callers := state.callers.set caller .requesting }
  | finished {caller : Nat} {answer : ρ}
      (requesting : state.callers.get? caller = some .requesting) :
      Stepped protocol state now (.answered caller answer)
        ⟨(protocol.finish now answer state.shared).1, none,
          state.callers.set caller (.ended (protocol.finish now answer state.shared).2)⟩
  | gaveUp {caller : Nat} (idle : state.callers.get? caller ≠ some .requesting) :
      Stepped protocol state now (.cancelled caller)
        { state with callers := state.callers.set caller .raised }
  | aborted {caller : Nat} (requesting : state.callers.get? caller = some .requesting) :
      Stepped protocol state now (.cancelled caller)
        { state with lock := none, callers := state.callers.set caller .raised }

section Rules

variable {protocol : Protocol σ τ ρ β} {state next : State σ β} {now : τ} {action : Action ρ}

theorem stepped_of_step (segment : step protocol state (now, action) = some next) :
    Stepped protocol state now action next := by
  cases action with
  | call caller =>
      simp only [step] at segment
      split at segment
      · cases segment
      · rename_i unknown
        have idle : state.callers.get? caller ≠ some .requesting := by
          intro known
          rw [Dict.contains, known] at unknown
          exact unknown rfl
        split at segment
        · rename_i value found
          cases segment
          exact .checked idle found
        · cases segment
          exact .waits idle
  | acquire caller =>
      simp only [step] at segment
      split at segment
      · rename_i waiting free
        have idle : state.callers.get? caller ≠ some .requesting := by
          rw [waiting]
          intro same
          cases same
        split at segment
        · rename_i value found
          cases segment
          exact .checked idle found
        · rename_i missing
          cases segment
          exact .requests free missing
      · cases segment
  | answered caller answer =>
      simp only [step] at segment
      split at segment
      · rename_i requesting
        cases segment
        exact .finished requesting
      · cases segment
  | cancelled caller =>
      simp only [step] at segment
      split at segment
      · rename_i waiting
        cases segment
        refine .gaveUp ?_
        rw [waiting]
        intro same
        cases same
      · rename_i requesting
        cases segment
        exact .aborted requesting
      · cases segment

/-- Exactly the holder of the lock requests. -/
def Exclusive (state : State σ β) : Prop :=
  ∀ caller, state.callers.get? caller = some .requesting ↔ state.lock = some caller

theorem Exclusive.unique (exclusive : Exclusive state) {first second : Nat}
    (firstRequests : state.callers.get? first = some .requesting)
    (secondRequests : state.callers.get? second = some .requesting) : first = second := by
  have firstHolds := (exclusive first).mp firstRequests
  have secondHolds := (exclusive second).mp secondRequests
  rwa [firstHolds, Option.some.injEq] at secondHolds

/-- A caller that does not request is set to a phase without a request. -/
theorem Exclusive.set_idle (exclusive : Exclusive state) {caller : Nat} {phase : Phase β}
    (idle : state.callers.get? caller ≠ some .requesting) (stays : phase ≠ .requesting) :
    Exclusive { state with callers := state.callers.set caller phase } := by
  intro other
  have same := exclusive other
  by_cases isCaller : other = caller
  · subst isCaller
    simp only [Dict.get?_set_self, Option.some.injEq, stays, false_iff]
    rwa [← same]
  · rw [Dict.get?_set_other _ _ isCaller]
    exact same

/-- The request of the holder ends. -/
theorem Exclusive.set_ended (exclusive : Exclusive state) {caller : Nat} {phase : Phase β}
    (requesting : state.callers.get? caller = some .requesting) (stays : phase ≠ .requesting)
    (shared : σ) : Exclusive ⟨shared, none, state.callers.set caller phase⟩ := by
  intro other
  simp only [reduceCtorEq, iff_false]
  by_cases isCaller : other = caller
  · subst isCaller
    simp only [Dict.get?_set_self, Option.some.injEq]
    exact stays
  · rw [Dict.get?_set_other _ _ isCaller]
    intro otherRequests
    exact isCaller (exclusive.unique otherRequests requesting)

theorem Exclusive.stepped (exclusive : Exclusive state)
    (stepped : Stepped protocol state now action next) : Exclusive next := by
  cases stepped with
  | checked idle found => exact exclusive.set_idle idle (by intro same; cases same)
  | waits idle => exact exclusive.set_idle idle (by intro same; cases same)
  | requests free missing =>
      rename_i caller
      intro other
      by_cases isCaller : other = caller
      · simp [isCaller]
      · have notHolder := exclusive other
        rw [free] at notHolder
        simpa [Dict.get?_set_other _ _ isCaller, Ne.symm isCaller] using notHolder
  | finished requesting =>
      rename_i caller answer
      refine exclusive.set_ended requesting ?_ _
      cases (protocol.finish now answer state.shared).2 <;> (intro same; cases same)
  | gaveUp idle => exact exclusive.set_idle idle (by intro same; cases same)
  | aborted requesting =>
      have stays : (Phase.raised : Phase β) ≠ .requesting := by
        intro same
        cases same
      exact exclusive.set_ended requesting stays state.shared

/-- A request begins only where the check fails. -/
theorem Stepped.check_of_requests (stepped : Stepped protocol state now action next)
    {caller : Nat} (before : state.callers.get? caller ≠ some .requesting)
    (after : next.callers.get? caller = some .requesting) :
    protocol.check now state.shared = none := by
  cases stepped with
  | requests free missing => exact missing
  | finished requesting =>
      rename_i other answer
      rw [Dict.get?_set] at after
      split at after
      · cases ended : (protocol.finish now answer state.shared).2 <;>
          · rw [ended] at after
            cases after
      · exact absurd after before
  | _ =>
      rw [Dict.get?_set] at after
      split at after
      · cases after
      · exact absurd after before

/-- A value is returned from the check, or from the answer to the caller's request. -/
theorem Stepped.returned (stepped : Stepped protocol state now action next) {caller : Nat}
    {value : β} (before : state.callers.get? caller ≠ some (.returned value))
    (after : next.callers.get? caller = some (.returned value)) :
    (next.shared = state.shared ∧ protocol.check now state.shared = some value) ∨
      ∃ answer, action = .answered caller answer ∧
        protocol.finish now answer state.shared = (next.shared, some value) := by
  cases stepped with
  | checked idle found =>
      rw [Dict.get?_set] at after
      split at after
      · cases after
        exact Or.inl ⟨rfl, found⟩
      · exact absurd after before
  | finished requesting =>
      rename_i other answer
      rw [Dict.get?_set] at after
      split at after
      · rename_i same
        refine Or.inr ⟨answer, by rw [same], ?_⟩
        cases ended : (protocol.finish now answer state.shared).2 with
        | none =>
            rw [ended] at after
            cases after
        | some returned =>
            rw [ended] at after
            cases after
            exact Prod.ext rfl ended
      · exact absurd after before
  | _ =>
      rw [Dict.get?_set] at after
      split at after
      · cases after
      · exact absurd after before

/-- A request that ends with an exception leaves the shared value alone, unless its answer
changes it. -/
theorem Stepped.raised (stepped : Stepped protocol state now action next) {caller : Nat}
    (before : state.callers.get? caller = some .requesting)
    (after : next.callers.get? caller = some .raised) :
    next.shared = state.shared ∨
      ∃ answer, action = .answered caller answer ∧
        protocol.finish now answer state.shared = (next.shared, none) := by
  cases stepped with
  | finished requesting =>
      rename_i other answer
      rw [Dict.get?_set] at after
      split at after
      · rename_i same
        refine Or.inr ⟨answer, by rw [same], ?_⟩
        cases ended : (protocol.finish now answer state.shared).2 with
        | none => exact Prod.ext rfl ended
        | some returned =>
            rw [ended] at after
            cases after
      · rw [before] at after
        cases after
  | _ => exact Or.inl rfl

end Rules

end QuAIA.Library.SingleFlight
