import Mathlib.Logic.Basic
import Mathlib.Data.Option.Basic

/-!
Contract: runs of partial deterministic step functions over labelled events.

Owns: the run of an event list; invariants of runs; conditions imposed on every
step of a run (`Along`) and on every state of a run (`Throughout`); the rule
that turns a step-level equivalence between the two into a run-level one; functional
simulations; measures that no step lowers or that every step lowers; and a ledger beside the
system (`observed`).

An event that is not enabled makes the whole run undefined, so nondeterminism
lives entirely in the choice of the event list.
-/

set_option autoImplicit false

namespace QuAIA.Library.StepSystem

universe u v w

variable {σ : Type u} {ε : Type v}

/-- Execute a list of events from a state. -/
def run (step : σ → ε → Option σ) : σ → List ε → Option σ
  | state, [] => some state
  | state, event :: rest =>
      match step state event with
      | some next => run step next rest
      | none => none

/-- Every event of the run satisfies `condition` in the state that takes it. -/
def Along (step : σ → ε → Option σ) (condition : σ → ε → Prop) : σ → List ε → Prop
  | _, [] => True
  | state, event :: rest =>
      condition state event ∧
        match step state event with
        | some next => Along step condition next rest
        | none => True

/-- Every state that the run visits satisfies `property`. -/
def Throughout (step : σ → ε → Option σ) (property : σ → Prop) : σ → List ε → Prop
  | state, [] => property state
  | state, event :: rest =>
      property state ∧
        match step state event with
        | some next => Throughout step property next rest
        | none => True

/-- Run the system beside a ledger, in which every step is recorded. -/
def observed {ω : Type w} (step : σ → ε → Option σ) (record : σ → ε → σ → ω → ω)
    (state : σ × ω) (event : ε) : Option (σ × ω) :=
  (step state.1 event).map fun next => (next, record state.1 event next state.2)

section Rules

variable {step : σ → ε → Option σ}

@[simp] theorem run_nil (state : σ) : run step state [] = some state := rfl

theorem run_cons (state : σ) (event : ε) (rest : List ε) :
    run step state (event :: rest) =
      (step state event).bind fun next => run step next rest := by
  rw [run]
  cases step state event <;> rfl

theorem run_cons_eq_some {state final : σ} {event : ε} {rest : List ε} :
    run step state (event :: rest) = some final ↔
      ∃ next, step state event = some next ∧ run step next rest = some final := by
  rw [run_cons, Option.bind_eq_some_iff]

/-- A condition that every step meets is met along every run. -/
theorem along_of_forall {condition : σ → ε → Prop}
    (every : ∀ state event, condition state event) (state : σ) (events : List ε) :
    Along step condition state events := by
  induction events generalizing state with
  | nil => trivial
  | cons event rest inductionHypothesis =>
      refine ⟨every state event, ?_⟩
      cases step state event with
      | none => trivial
      | some next => exact inductionHypothesis next

/-- A property preserved by every step that meets the condition holds wherever a
run whose steps all meet it ends. -/
theorem invariant_along {property : σ → Prop} {condition : σ → ε → Prop}
    (preserved : ∀ state event next, property state → condition state event →
      step state event = some next → property next)
    {state final : σ} {events : List ε} (initially : property state)
    (along : Along step condition state events)
    (ran : run step state events = some final) : property final := by
  induction events generalizing state with
  | nil =>
      rw [run_nil, Option.some.injEq] at ran
      exact ran ▸ initially
  | cons event rest inductionHypothesis =>
      obtain ⟨next, stepped, rested⟩ := run_cons_eq_some.mp ran
      simp only [Along, stepped] at along
      exact inductionHypothesis (preserved state event next initially along.1 stepped)
        along.2 rested

/-- A step-preserved property holds wherever a run ends. -/
theorem invariant_of_step {property : σ → Prop}
    (preserved : ∀ state event next, property state → step state event = some next →
      property next)
    {state final : σ} {events : List ε} (initially : property state)
    (ran : run step state events = some final) : property final := by
  have noCondition : Along step (fun _ _ => True) state events :=
    along_of_forall (fun _ _ => trivial) state events
  apply invariant_along _ initially noCondition ran
  intro state event next holds _ stepped
  exact preserved state event next holds stepped

/-- A property preserved by every step that meets the condition holds in every
state of a run whose steps all meet it. -/
theorem throughout_of_along {property : σ → Prop} {condition : σ → ε → Prop}
    (preserved : ∀ state event next, property state → condition state event →
      step state event = some next → property next)
    {state : σ} {events : List ε} (initially : property state)
    (along : Along step condition state events) : Throughout step property state events := by
  induction events generalizing state with
  | nil => exact initially
  | cons event rest inductionHypothesis =>
      refine ⟨initially, ?_⟩
      have condition := along.1
      have others := along.2
      cases stepped : step state event with
      | none => trivial
      | some next =>
          rw [stepped] at others
          exact inductionHypothesis (preserved state event next initially condition stepped) others

/-- A condition on events alone is met along a run as soon as every event meets
it. -/
theorem along_of_forall_event {condition : ε → Prop} {events : List ε} (state : σ)
    (every : ∀ event ∈ events, condition event) :
    Along step (fun _ event => condition event) state events := by
  induction events generalizing state with
  | nil => trivial
  | cons event rest inductionHypothesis =>
      refine ⟨every event (by simp), ?_⟩
      cases step state event with
      | none => trivial
      | some next =>
          exact inductionHypothesis next (fun other member => every other (by simp [member]))

/-- What an invariant and the condition of a step imply of it holds along every run whose
steps all meet the condition. -/
theorem along_of_invariant {invariant : σ → Prop} {condition implied : σ → ε → Prop}
    (preserved : ∀ state event next, invariant state → condition state event →
      step state event = some next → invariant next)
    (implies : ∀ state event, invariant state → condition state event → implied state event)
    {state : σ} {events : List ε} (initially : invariant state)
    (along : Along step condition state events) : Along step implied state events := by
  induction events generalizing state with
  | nil => trivial
  | cons event rest inductionHypothesis =>
      obtain ⟨here, later⟩ := along
      refine ⟨implies state event initially here, ?_⟩
      cases stepped : step state event with
      | none => trivial
      | some next =>
          rw [stepped] at later
          exact inductionHypothesis (preserved state event next initially here stepped) later

theorem along_and {first second : σ → ε → Prop} {state : σ} {events : List ε}
    (meetsFirst : Along step first state events) (meetsSecond : Along step second state events) :
    Along step (fun state event => first state event ∧ second state event) state events := by
  induction events generalizing state with
  | nil => trivial
  | cons event rest inductionHypothesis =>
      refine ⟨⟨meetsFirst.1, meetsSecond.1⟩, ?_⟩
      have firstLater := meetsFirst.2
      have secondLater := meetsSecond.2
      cases stepped : step state event with
      | none => trivial
      | some next =>
          rw [stepped] at firstLater secondLater
          exact inductionHypothesis firstLater secondLater

theorem along_congr {condition other : σ → ε → Prop}
    (same : ∀ state event, condition state event ↔ other state event) (state : σ)
    (events : List ε) : Along step condition state events ↔ Along step other state events := by
  have equal : condition = other := by
    funext state event
    exact propext (same state event)
  rw [equal]

/-- A condition that is met along a run is met by the event after a part of the run. -/
theorem along_at {condition : σ → ε → Prop} {state middle : σ} {before after : List ε}
    {event : ε} (along : Along step condition state (before ++ event :: after))
    (ran : run step state before = some middle) : condition middle event := by
  induction before generalizing state with
  | nil =>
      rw [run_nil, Option.some.injEq] at ran
      exact ran ▸ along.1
  | cons first rest inductionHypothesis =>
      obtain ⟨next, stepped, rested⟩ := run_cons_eq_some.mp ran
      obtain ⟨-, later⟩ := along
      rw [stepped] at later
      exact inductionHypothesis later rested

/-- A step beside the ledger is a step of the system, and what is recorded of it. -/
theorem observed_eq_some {ω : Type w} {record : σ → ε → σ → ω → ω} {state next : σ × ω}
    {event : ε} :
    observed step record state event = some next ↔
      step state.1 event = some next.1 ∧ next.2 = record state.1 event next.1 state.2 := by
  simp only [observed, Option.map_eq_some_iff]
  constructor
  · rintro ⟨stepped, isStep, rfl⟩
    exact ⟨isStep, rfl⟩
  · rintro ⟨isStep, recorded⟩
    exact ⟨next.1, isStep, Prod.ext rfl recorded.symm⟩

/-- A property that holds throughout a run holds where the run starts. -/
theorem holds_of_throughout {property : σ → Prop} {state : σ} {events : List ε}
    (through : Throughout step property state events) : property state := by
  cases events with
  | nil => exact through
  | cons _ _ => exact through.1

/-- A property that holds throughout a run holds where the run ends. -/
theorem holds_finally {property : σ → Prop} {state final : σ} {events : List ε}
    (through : Throughout step property state events)
    (ran : run step state events = some final) : property final := by
  induction events generalizing state with
  | nil =>
      rw [run_nil, Option.some.injEq] at ran
      exact ran ▸ through
  | cons event rest inductionHypothesis =>
      obtain ⟨next, stepped, rested⟩ := run_cons_eq_some.mp ran
      simp only [Throughout, stepped] at through
      exact inductionHypothesis through.2 rested

theorem throughout_mono {property weaker : σ → Prop}
    (weakens : ∀ state, property state → weaker state) {state : σ} {events : List ε} (through : Throughout step property state events) :
    Throughout step weaker state events := by
  induction events generalizing state with
  | nil => exact weakens state through
  | cons event rest inductionHypothesis =>
      obtain ⟨holds, others⟩ := through
      refine ⟨weakens state holds, ?_⟩
      cases stepped : step state event with
      | none => trivial
      | some next =>
          rw [stepped] at others
          exact inductionHypothesis others

/-- **From steps to runs.** If, under an invariant and an assumption on every step, a
step keeps the property exactly when it meets the condition, then a run whose steps all
meet the assumption keeps the property throughout exactly when they all meet the
condition. -/
theorem throughout_iff_along_of_assumed {invariant property : σ → Prop}
    {assumed condition : σ → ε → Prop}
    (preserved : ∀ state event next, invariant state → assumed state event →
      step state event = some next → invariant next)
    (exactStep : ∀ state event next, invariant state → property state →
      assumed state event → step state event = some next →
      (property next ↔ condition state event))
    {state final : σ} {events : List ε} (initially : invariant state) (holds : property state)
    (assumption : Along step assumed state events)
    (ran : run step state events = some final) :
    Throughout step property state events ↔ Along step condition state events := by
  induction events generalizing state with
  | nil => simp [Throughout, Along, holds]
  | cons event rest inductionHypothesis =>
      obtain ⟨next, stepped, rested⟩ := run_cons_eq_some.mp ran
      simp only [Along, stepped] at assumption
      obtain ⟨assumedHere, assumedLater⟩ := assumption
      have kept := preserved state event next initially assumedHere stepped
      have same := exactStep state event next initially holds assumedHere stepped
      simp only [Throughout, Along, stepped, holds, true_and]
      constructor
      · intro through
        have nextHolds : property next := holds_of_throughout through
        exact ⟨same.mp nextHolds,
          (inductionHypothesis kept nextHolds assumedLater rested).mp through⟩
      · rintro ⟨met, along⟩
        exact (inductionHypothesis kept (same.mpr met) assumedLater rested).mpr along

/-- The rule without an assumption. -/
theorem throughout_iff_along {invariant property : σ → Prop} {condition : σ → ε → Prop}
    (preserved : ∀ state event next, invariant state → step state event = some next →
      invariant next)
    (exactStep : ∀ state event next, invariant state → property state →
      step state event = some next → (property next ↔ condition state event))
    {state final : σ} {events : List ε} (initially : invariant state) (holds : property state)
    (ran : run step state events = some final) :
    Throughout step property state events ↔ Along step condition state events := by
  have noAssumption : Along step (fun _ _ => True) state events :=
    along_of_forall (fun _ _ => trivial) state events
  apply throughout_iff_along_of_assumed _ _ initially holds noAssumption ran
  · intro state event next holdsHere _ stepped
    exact preserved state event next holdsHere stepped
  · intro state event next holdsHere propertyHere _ stepped
    exact exactStep state event next holdsHere propertyHere stepped

/-- **Functional simulation.** If an abstraction commutes with every step of a system in a
state that meets the invariant, it commutes with every run. -/
theorem map_run {τ : Type w} {abstractStep : τ → ε → Option τ} {abstraction : σ → τ}
    {invariant : σ → Prop}
    (preserved : ∀ state event next, invariant state → step state event = some next →
      invariant next)
    (commutes : ∀ state event, invariant state →
      (step state event).map abstraction = abstractStep (abstraction state) event)
    {state : σ} {events : List ε} (initially : invariant state) :
    (run step state events).map abstraction =
      run abstractStep (abstraction state) events := by
  induction events generalizing state with
  | nil => rfl
  | cons event rest inductionHypothesis =>
      have commutesHere := commutes state event initially
      rw [run_cons, run_cons, ← commutesHere]
      cases stepped : step state event with
      | none => rfl
      | some next =>
          exact inductionHypothesis (preserved state event next initially stepped)

/-- A run is not longer than a measure that every step lowers. -/
theorem length_le_of_decreasing {measure : σ → Nat}
    (decreasing : ∀ state event next, step state event = some next →
      measure next < measure state)
    {state final : σ} {events : List ε} (ran : run step state events = some final) :
    events.length + measure final ≤ measure state := by
  induction events generalizing state with
  | nil =>
      rw [run_nil, Option.some.injEq] at ran
      simp [ran]
  | cons event rest inductionHypothesis =>
      obtain ⟨next, stepped, rested⟩ := run_cons_eq_some.mp ran
      have less := decreasing state event next stepped
      have later := inductionHypothesis rested
      rw [List.length_cons]
      omega

/-- A measure that no step lowers is unchanged over a run exactly when every step of
the run leaves it unchanged. -/
theorem measure_eq_iff_along {measure : σ → Nat} {condition : σ → ε → Prop}
    (monotone : ∀ state event next, step state event = some next →
      measure state ≤ measure next)
    (exactStep : ∀ state event next, step state event = some next →
      (measure next = measure state ↔ condition state event))
    {state final : σ} {events : List ε} (ran : run step state events = some final) :
    measure final = measure state ↔ Along step condition state events := by
  have grows : ∀ (rest : List ε) (start : σ), run step start rest = some final →
      measure start ≤ measure final := by
    intro rest
    induction rest with
    | nil =>
        intro start ended
        rw [run_nil, Option.some.injEq] at ended
        exact Nat.le_of_eq (congrArg measure ended)
    | cons event rest inductionHypothesis =>
        intro start ended
        obtain ⟨next, stepped, rested⟩ := run_cons_eq_some.mp ended
        exact Nat.le_trans (monotone start event next stepped)
          (inductionHypothesis next rested)
  induction events generalizing state with
  | nil =>
      rw [run_nil, Option.some.injEq] at ran
      simp [Along, ran]
  | cons event rest inductionHypothesis =>
      obtain ⟨next, stepped, rested⟩ := run_cons_eq_some.mp ran
      have first := monotone state event next stepped
      have later := grows rest next rested
      have same := exactStep state event next stepped
      have others := inductionHypothesis rested
      simp only [Along, stepped, ← same, ← others]
      omega

end Rules

section Decidability

variable (step : σ → ε → Option σ)

instance alongDecidable (condition : σ → ε → Prop)
    [∀ state event, Decidable (condition state event)] (state : σ) (events : List ε) : Decidable (Along step condition state events) :=
  match events with
  | [] => isTrue trivial
  | event :: rest =>
      match stepped : step state event with
      | some next =>
          haveI := alongDecidable condition next rest
          decidable_of_iff (condition state event ∧ Along step condition next rest)
            (by simp [Along, stepped])
      | none => decidable_of_iff (condition state event) (by simp [Along, stepped])

end Decidability

end QuAIA.Library.StepSystem
