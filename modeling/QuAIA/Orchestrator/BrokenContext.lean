import QuAIA.Library.StepSystem
import QuAIA.Orchestrator.AgentRegistry

/-!
Contract: the reason and the stuck task that the registry reports of a broken agent.

Owns: `get_broken_agents`; the reports that were given for each agent since its last full
release, as a ledger beside the registry; and the equivalence, over every run of calls, of
reporting what was given with a condition on every call.

Does not own: who calls the registry, and why.
-/

set_option autoImplicit false

namespace QuAIA.Orchestrator

open QuAIA.Library

/-- What `get_broken_context` returns. -/
abbrev BrokenPair := Option BrokenReason × Option String

namespace AgentRegistry

/-- Every agent whose status is broken, with its reason and stuck task. -/
def getBrokenAgents (registry : AgentRegistry) : Dict AgentId BrokenPair where
  entries := (registry.statuses.entries.filter fun entry => entry.2 = .broken).map
    fun entry => (entry.1, registry.getBrokenContext entry.1)
  nodup := by
    rw [List.map_map]
    exact registry.statuses.nodup.sublist (List.filter_sublist.map Prod.fst)

/-! ## The context under a call -/

/-- An empty id is none. -/
def givenId : Option String → Option String
  | none => none
  | some taskId => if taskId = "" then none else some taskId

/-- The context after an update of a registered agent. -/
def contextAfter (status : AgentStatus) (brokenReason : Option BrokenReason)
    (stuckTaskId : Option String) (slots : Int) (context : BrokenPair) : BrokenPair :=
  match status, brokenReason with
  | .busy, _ => context
  | .available, _ => if slotsAfter .available slots = 0 then (none, none) else context
  | .broken, none => context
  | .broken, some reason => (some reason, givenId stuckTaskId <|> context.2)

theorem getBrokenContext_recordBroken (registry : AgentRegistry) (agentId : AgentId)
    (brokenReason : Option BrokenReason) (stuckTaskId : Option String) (other : AgentId) :
    (registry.recordBroken agentId brokenReason stuckTaskId).getBrokenContext other =
      if other = agentId then
        contextAfter .broken brokenReason stuckTaskId 0 (registry.getBrokenContext other)
      else registry.getBrokenContext other := by
  unfold recordBroken
  cases brokenReason with
  | none => simp [contextAfter]
  | some reason =>
      cases stuckTaskId with
      | none => by_cases same : other = agentId <;>
          simp [getBrokenContext, contextAfter, givenId, Dict.get?_set, same]
      | some taskId =>
          by_cases same : other = agentId <;> by_cases empty : taskId = "" <;>
            simp [getBrokenContext, contextAfter, givenId, Dict.get?_set, same, empty]

/-- **Context under an update.** Only the named agent's context moves. -/
theorem getBrokenContext_updateStatus (registry : AgentRegistry) (agentId : AgentId)
    (status : AgentStatus) (brokenReason : Option BrokenReason) (stuckTaskId : Option String)
    (other : AgentId) :
    (registry.updateStatus agentId status brokenReason stuckTaskId).getBrokenContext other =
      if other = agentId ∧ registry.contains agentId = true then
        contextAfter status brokenReason stuckTaskId (registry.slots other)
          (registry.getBrokenContext other)
      else registry.getBrokenContext other := by
  unfold updateStatus contains
  by_cases known : registry.cards.contains agentId
  · cases status with
    | busy => simp [known, getBrokenContext, contextAfter]
    | available =>
        simp only [known, if_true, and_true, contextAfter, slotsAfter]
        by_cases same : other = agentId
        · subst same
          by_cases drained : max 0 (registry.slots other - 1) = 0 <;>
            simp [drained, getBrokenContext, Dict.get?_pop]
        · by_cases drained : max 0 (registry.slots agentId - 1) = 0 <;>
            simp [drained, same, getBrokenContext, Dict.get?_pop]
    | broken =>
        simp only [known, if_true, and_true, getBrokenContext_recordBroken]
        by_cases same : other = agentId
        · cases brokenReason <;> simp [same, contextAfter, getBrokenContext]
        · simp [same, getBrokenContext]
  · simp [known]

theorem getBrokenContext_register (registry : AgentRegistry) (agentId : AgentId)
    (card : AgentCard) (other : AgentId) :
    (registry.register agentId card).getBrokenContext other = registry.getBrokenContext other := by
  unfold register
  dsimp only
  split <;> rfl

theorem getBrokenContext_setCurrentTask (registry : AgentRegistry) (agentId : AgentId)
    (taskId : Option String) (other : AgentId) :
    (registry.setCurrentTask agentId taskId).getBrokenContext other =
      registry.getBrokenContext other := by
  unfold setCurrentTask
  split
  · rfl
  · split <;> rfl

theorem getBrokenContext_remove (registry : AgentRegistry) (agentId other : AgentId) :
    (registry.remove agentId).getBrokenContext other =
      if other = agentId then (none, none) else registry.getBrokenContext other := by
  simp only [remove, getBrokenContext, Dict.get?_pop]
  split <;> rfl

theorem Consistent.remove {registry : AgentRegistry} (consistent : registry.Consistent)
    (agentId : AgentId) : (registry.remove agentId).Consistent where
  statusKnown other := by
    simp only [AgentRegistry.remove, contains, Dict.contains_pop]
    rw [consistent.statusKnown other, contains]
  slotsKnown other := by
    simp only [AgentRegistry.remove, contains, Dict.contains_pop]
    rw [consistent.slotsKnown other, contains]
  slotsNonneg other := by
    have nonneg := consistent.slotsNonneg other
    simp only [slots, AgentRegistry.remove, Dict.getD, Dict.get?_pop] at nonneg ⊢
    split
    · exact le_refl 0
    · exact nonneg
  slotsOfAvailable other isAvailable := by
    simp only [getStatus, slots, AgentRegistry.remove, Dict.getD, Dict.get?_pop] at isAvailable ⊢
    split
    · rfl
    · rename_i kept
      rw [if_neg kept] at isAvailable
      exact consistent.slotsOfAvailable other isAvailable
  slotsOfBusy other isBusy := by
    simp only [getStatus, slots, AgentRegistry.remove, Dict.getD, Dict.get?_pop] at isBusy ⊢
    split at isBusy
    · cases isBusy
    · rename_i kept
      rw [if_neg kept]
      exact consistent.slotsOfBusy other isBusy

theorem Consistent.call {registry : AgentRegistry} (consistent : registry.Consistent)
    (registryCall : Call) : (registry.call registryCall).Consistent := by
  cases registryCall with
  | register agentId card => exact consistent.register agentId card
  | updateStatus agentId status brokenReason stuckTaskId =>
      exact consistent.updateStatus agentId status brokenReason stuckTaskId
  | setCurrentTask agentId taskId => exact consistent.setCurrentTask agentId taskId
  | remove agentId => exact consistent.remove agentId

/-- The broken agents are listed, each with its context. -/
theorem Consistent.getBrokenAgents_eq_some_iff {registry : AgentRegistry}
    (consistent : registry.Consistent) {agentId : AgentId} {context : BrokenPair} :
    registry.getBrokenAgents.get? agentId = some context ↔
      registry.contains agentId = true ∧ registry.getStatus agentId = .broken ∧
        context = registry.getBrokenContext agentId := by
  rw [← Dict.mem_entries_iff, ← consistent.statusKnown agentId]
  simp only [getBrokenAgents, List.mem_map, List.mem_filter, decide_eq_true_eq, Prod.mk.injEq]
  constructor
  · rintro ⟨⟨other, status⟩, ⟨member, isBroken⟩, rfl, rfl⟩
    have stored := (Dict.mem_entries_iff _ _ _).mp member
    exact ⟨by simp [Dict.contains, stored], by simpa [getStatus, Dict.getD, stored] using isBroken,
      rfl⟩
  · rintro ⟨known, isBroken, rfl⟩
    obtain ⟨status, stored⟩ := Option.isSome_iff_exists.mp known
    refine ⟨(agentId, status), ⟨(Dict.mem_entries_iff _ _ _).mpr stored, ?_⟩, rfl, rfl⟩
    simpa [getStatus, Dict.getD, stored] using isBroken

/-! ## What was reported -/

/-- For each agent, the reason and the stuck task that were given by the last broken update with a
reason since its last full release. -/
abbrev Reports := AgentId → Option (BrokenReason × Option String)

/-- The report after an update of a registered agent. -/
def reportAfter (status : AgentStatus) (brokenReason : Option BrokenReason)
    (stuckTaskId : Option String) (slots : Int) (report : Option (BrokenReason × Option String)) :
    Option (BrokenReason × Option String) :=
  match status, brokenReason with
  | .busy, _ => report
  | .available, _ => if slotsAfter .available slots = 0 then none else report
  | .broken, none => report
  | .broken, some reason => some (reason, givenId stuckTaskId)

/-- A full release leaves no slot taken, or removes the agent. -/
def Reports.record (registry : AgentRegistry) (registryCall : Call) (_next : AgentRegistry)
    (reports : Reports) : Reports :=
  match registryCall with
  | .updateStatus agentId status brokenReason stuckTaskId => fun other =>
      if other = agentId ∧ registry.contains agentId = true then
        reportAfter status brokenReason stuckTaskId (registry.slots other) (reports other)
      else reports other
  | .remove agentId => fun other => if other = agentId then none else reports other
  | _ => reports

/-- The registry beside the reports. -/
def reportedStep : AgentRegistry × Reports → Call → Option (AgentRegistry × Reports) :=
  StepSystem.observed (fun registry registryCall => some (registry.call registryCall))
    Reports.record

/-- The pair that a report amounts to. -/
def pairOf (report : Option (BrokenReason × Option String)) : BrokenPair :=
  (report.map Prod.fst, report.bind Prod.snd)

/-- Broken agents are reported with exactly what was given, a stuck task only with its reason,
and agents that are not broken have no context. -/
structure Paired (state : AgentRegistry × Reports) : Prop where
  context : ∀ agentId, state.1.getStatus agentId = .broken →
    state.1.getBrokenContext agentId = pairOf (state.2 agentId)
  listed : ∀ agentId pair, state.1.getBrokenAgents.get? agentId = some pair ↔
    state.1.contains agentId = true ∧ state.1.getStatus agentId = .broken ∧
      pair = pairOf (state.2 agentId)
  stuckOnly : ∀ agentId taskId, (state.1.getBrokenContext agentId).2 = some taskId →
    (state.1.getBrokenContext agentId).1 = some .taskStuck
  notBroken : ∀ agentId, state.1.getStatus agentId ≠ .broken →
    state.1.getBrokenContext agentId = (none, none)

/-- A registered agent is marked busy only if no reason is recorded for it, and broken for a
reason without a stuck task only if no stuck task is recorded; a stuck task is given only with
its reason. -/
def KeepsPair (state : AgentRegistry × Reports) : Call → Prop
  | .updateStatus agentId .busy _ _ =>
      state.1.contains agentId = true → state.1.brokenReasons.get? agentId = none
  | .updateStatus agentId .broken (some reason) stuckTaskId =>
      state.1.contains agentId = true →
        if givenId stuckTaskId = none then state.1.stuckTaskIds.get? agentId = none
        else reason = .taskStuck
  | _ => True

/-! ## One agent -/

/-- The same of one agent, with its status, context and report. -/
structure PairedAt (status : AgentStatus) (pair : BrokenPair)
    (report : Option (BrokenReason × Option String)) : Prop where
  context : status = .broken → pair = pairOf report
  stuckOnly : ∀ taskId, pair.2 = some taskId → pair.1 = some .taskStuck
  notBroken : status ≠ .broken → pair = (none, none)

/-- What a call must meet to keep it, if it updates the agent. -/
def KeepsPairAt (status : AgentStatus) (brokenReason : Option BrokenReason)
    (stuckTaskId : Option String) (pair : BrokenPair) : Prop :=
  match status, brokenReason with
  | .busy, _ => pair.1 = none
  | .broken, some reason =>
      if givenId stuckTaskId = none then pair.2 = none else reason = .taskStuck
  | _, _ => True

theorem pairedAt_none (status : AgentStatus) : PairedAt status (none, none) none where
  context _ := rfl
  stuckOnly _ given := by cases given
  notBroken _ := rfl

/-- A report and a context with the same reason, and no stuck task without one. -/
structure TracedAt (pair : BrokenPair) (report : Option (BrokenReason × Option String)) :
    Prop where
  sameReason : pair.1 = report.map Prod.fst
  reasonOfStuck : pair.1 = none → pair.2 = none

theorem TracedAt.none_of_reason {pair : BrokenPair}
    {report : Option (BrokenReason × Option String)} (traced : TracedAt pair report)
    (noReason : pair.1 = none) : pair = (none, none) ∧ report = none := by
  constructor
  · exact Prod.ext noReason (traced.reasonOfStuck noReason)
  · have mapped := traced.sameReason
    rw [noReason] at mapped
    exact Option.map_eq_none_iff.mp mapped.symm

section Update

variable {current status : AgentStatus} {pair : BrokenPair}
  {report : Option (BrokenReason × Option String)} (brokenReason : Option BrokenReason)
  (stuckTaskId : Option String) (slots : Int)

theorem TracedAt.update (traced : TracedAt pair report) :
    TracedAt (contextAfter status brokenReason stuckTaskId slots pair)
      (reportAfter status brokenReason stuckTaskId slots report) := by
  cases status with
  | busy => exact traced
  | available =>
      simp only [contextAfter, reportAfter]
      split
      · exact ⟨rfl, fun _ => rfl⟩
      · exact traced
  | broken =>
      cases brokenReason with
      | none => exact traced
      | some reason => exact ⟨rfl, fun noReason => by cases noReason⟩

/-- An update keeps the pair of its agent exactly under its condition. -/
theorem PairedAt.update_iff (traced : TracedAt pair report)
    (paired : PairedAt current pair report) :
    PairedAt (statusAfter status current slots)
        (contextAfter status brokenReason stuckTaskId slots pair)
        (reportAfter status brokenReason stuckTaskId slots report) ↔
      KeepsPairAt status brokenReason stuckTaskId pair := by
  cases status with
  | busy =>
      simp only [statusAfter, contextAfter, reportAfter, KeepsPairAt]
      constructor
      · intro kept
        rw [kept.notBroken (by decide)]
      · intro noReason
        obtain ⟨noPair, noReport⟩ := traced.none_of_reason noReason
        rw [noPair, noReport]
        exact pairedAt_none .busy
  | available =>
      simp only [statusAfter, contextAfter, reportAfter, KeepsPairAt, iff_true]
      split
      · exact pairedAt_none .available
      · exact paired
  | broken =>
      cases brokenReason with
      | none =>
          simp only [statusAfter, contextAfter, reportAfter, KeepsPairAt, iff_true]
          refine ⟨fun _ => ?_, paired.stuckOnly, fun notBroken => absurd rfl notBroken⟩
          by_cases isBroken : current = .broken
          · exact paired.context isBroken
          · have noPair := paired.notBroken isBroken
            rw [(traced.none_of_reason (congrArg Prod.fst noPair)).2, noPair]
            rfl
      | some reason =>
          simp only [statusAfter, contextAfter, reportAfter, KeepsPairAt]
          cases given : givenId stuckTaskId with
          | none =>
              rw [if_pos rfl]
              constructor
              · intro kept
                exact congrArg Prod.snd (kept.context rfl)
              · intro noStuck
                rw [noStuck]
                exact ⟨fun _ => rfl, fun _ isStuck => absurd isStuck (Option.some_ne_none _).symm,
                  fun notBroken => absurd rfl notBroken⟩
          | some taskId =>
              rw [if_neg (Option.some_ne_none taskId)]
              constructor
              · intro kept
                exact Option.some.inj (kept.stuckOnly taskId rfl)
              · intro isStuck
                rw [isStuck]
                exact ⟨fun _ => rfl, fun _ _ => rfl, fun notBroken => absurd rfl notBroken⟩

end Update

/-! ## Over a run -/

/-- The maps agree, the context of every agent is traced by its report, and nothing is reported
of an agent that is not registered. -/
structure Traced (state : AgentRegistry × Reports) : Prop where
  consistent : state.1.Consistent
  traced : ∀ agentId, TracedAt (state.1.getBrokenContext agentId) (state.2 agentId)
  unknown : ∀ agentId, state.1.contains agentId = false → state.2 agentId = none

variable {state next : AgentRegistry × Reports} {registryCall : Call}

theorem traced_empty : Traced (empty, fun _ => none) where
  consistent := consistent_empty
  traced _ := ⟨rfl, fun _ => rfl⟩
  unknown _ _ := rfl

theorem reportedStep_eq (step : reportedStep state registryCall = some next) :
    next = (state.1.call registryCall,
      Reports.record state.1 registryCall (state.1.call registryCall) state.2) := by
  obtain ⟨called, recorded⟩ := StepSystem.observed_eq_some.mp step
  rw [Option.some.injEq] at called
  exact Prod.ext called.symm (called ▸ recorded)

theorem contains_call_remove (registry : AgentRegistry) (agentId other : AgentId) :
    (registry.remove agentId).contains other =
      (decide (other ≠ agentId) && registry.contains other) :=
  Dict.contains_pop registry.cards agentId other

theorem Traced.step (traced : Traced state) (step : reportedStep state registryCall = some next) :
    Traced next := by
  rw [reportedStep_eq step]
  refine ⟨traced.consistent.call registryCall, fun other => ?_, fun other absent => ?_⟩
  · have here := traced.traced other
    cases registryCall with
    | register agentId card =>
        simpa only [call, Reports.record, getBrokenContext_register] using here
    | updateStatus agentId status brokenReason stuckTaskId =>
        simp only [call, Reports.record, getBrokenContext_updateStatus]
        split
        · exact here.update brokenReason stuckTaskId (state.1.slots other)
        · exact here
    | setCurrentTask agentId taskId =>
        simpa only [call, Reports.record, getBrokenContext_setCurrentTask] using here
    | remove agentId =>
        simp only [call, Reports.record, getBrokenContext_remove]
        split
        · exact ⟨rfl, fun _ => rfl⟩
        · exact here
  · cases registryCall with
    | register agentId card =>
        simp only [call, contains_register, Bool.or_eq_false_iff] at absent
        exact traced.unknown other absent.2
    | updateStatus agentId status brokenReason stuckTaskId =>
        simp only [call, contains_updateStatus] at absent
        have other_ne : ¬(other = agentId ∧ state.1.contains agentId = true) := by
          intro named
          rw [← named.1, absent] at named
          cases named.2
        simp only [Reports.record, if_neg other_ne]
        exact traced.unknown other absent
    | setCurrentTask agentId taskId =>
        simp only [call, contains_setCurrentTask] at absent
        exact traced.unknown other absent
    | remove agentId =>
        simp only [Reports.record]
        split
        · rfl
        · rename_i kept
          rw [call, contains_call_remove, decide_eq_true kept, Bool.true_and] at absent
          exact traced.unknown other absent

theorem paired_iff (consistent : state.1.Consistent) :
    Paired state ↔ ∀ agentId, PairedAt (state.1.getStatus agentId)
      (state.1.getBrokenContext agentId) (state.2 agentId) := by
  constructor
  · intro paired agentId
    exact ⟨paired.context agentId, paired.stuckOnly agentId, paired.notBroken agentId⟩
  · intro paired
    refine ⟨fun agentId => (paired agentId).context, fun agentId pair => ?_,
      fun agentId => (paired agentId).stuckOnly, fun agentId => (paired agentId).notBroken⟩
    rw [consistent.getBrokenAgents_eq_some_iff]
    refine and_congr_right fun _ => and_congr_right fun isBroken => ?_
    rw [(paired agentId).context isBroken]

theorem keepsPair_updateStatus {agentId : AgentId} (known : state.1.contains agentId = true)
    {status : AgentStatus} {brokenReason : Option BrokenReason} {stuckTaskId : Option String} :
    KeepsPair state (.updateStatus agentId status brokenReason stuckTaskId) ↔
      KeepsPairAt status brokenReason stuckTaskId (state.1.getBrokenContext agentId) := by
  cases status <;> cases brokenReason <;> simp [KeepsPair, KeepsPairAt, known, getBrokenContext]

/-- A call keeps the pairs exactly when it meets the condition. -/
theorem Paired.step_iff (traced : Traced state) (paired : Paired state)
    (step : reportedStep state registryCall = some next) :
    Paired next ↔ KeepsPair state registryCall := by
  have pairedAt := (paired_iff traced.consistent).mp paired
  rw [paired_iff (traced.step step).consistent, reportedStep_eq step]
  cases registryCall with
  | register agentId card =>
      simp only [call, Reports.record, KeepsPair, iff_true, getBrokenContext_register,
        traced.consistent.getStatus_register]
      intro other
      split
      · rename_i fresh
        have noReport := traced.unknown other (fresh.1 ▸ fresh.2)
        have noReason : (state.1.getBrokenContext other).1 = none := by
          rw [(traced.traced other).sameReason, noReport, Option.map_none]
        rw [((traced.traced other).none_of_reason noReason).1, noReport]
        exact pairedAt_none .available
      · exact pairedAt other
  | updateStatus agentId status brokenReason stuckTaskId =>
      simp only [call, Reports.record, getBrokenContext_updateStatus, getStatus_updateStatus]
      by_cases known : state.1.contains agentId = true
      · rw [keepsPair_updateStatus known, ← (pairedAt agentId).update_iff brokenReason stuckTaskId
          (state.1.slots agentId) (traced.traced agentId)]
        constructor
        · intro every
          simpa [known] using every agentId
        · intro updated other
          by_cases same : other = agentId
          · subst same
            simpa [known] using updated
          · simpa [same] using pairedAt other
      · have keeps : KeepsPair state (.updateStatus agentId status brokenReason stuckTaskId) := by
          cases status <;> cases brokenReason <;> simp [KeepsPair, known]
        rw [iff_true_right keeps]
        intro other
        simpa [known] using pairedAt other
  | setCurrentTask agentId taskId =>
      simpa only [call, Reports.record, KeepsPair, iff_true, getBrokenContext_setCurrentTask,
        getStatus_setCurrentTask] using pairedAt
  | remove agentId =>
      simp only [call, Reports.record, KeepsPair, iff_true, getBrokenContext_remove]
      intro other
      split
      · exact pairedAt_none _
      · rename_i kept
        have sameStatus : (state.1.remove agentId).getStatus other = state.1.getStatus other := by
          simp [getStatus, AgentRegistry.remove, Dict.getD, Dict.get?_pop, kept]
        rw [sameStatus]
        exact pairedAt other

theorem paired_empty : Paired (empty, fun _ => none) :=
  (paired_iff consistent_empty).mpr fun _ => pairedAt_none _

theorem exists_run (calls : List Call) (start : AgentRegistry × Reports) :
    ∃ final, StepSystem.run reportedStep start calls = some final := by
  induction calls generalizing start with
  | nil => exact ⟨start, rfl⟩
  | cons registryCall rest inductionHypothesis =>
      obtain ⟨final, ran⟩ := inductionHypothesis (start.1.call registryCall,
        Reports.record start.1 registryCall (start.1.call registryCall) start.2)
      exact ⟨final, StepSystem.run_cons_eq_some.mpr ⟨_, rfl, ran⟩⟩

/-- **Broken context.** In every sequence of calls, the registry reports what was given in every
state that is reached exactly when every call meets the condition. -/
theorem throughout_paired_iff (calls : List Call) :
    StepSystem.Throughout reportedStep Paired (empty, fun _ => none) calls ↔
      StepSystem.Along reportedStep KeepsPair (empty, fun _ => none) calls := by
  obtain ⟨final, ran⟩ := exists_run calls (empty, fun _ => none)
  exact StepSystem.throughout_iff_along (fun _ _ _ traced step => traced.step step)
    (fun _ _ _ traced paired step => paired.step_iff traced step) traced_empty paired_empty ran

/-- A task is stuck, then its agent is offline. -/
def stuckThenOffline : List Call :=
  [.register "agent" ⟨"Reviewer", [], []⟩,
    .updateStatus "agent" .broken (some .taskStuck) (some "task-1"),
    .updateStatus "agent" .broken (some .offline) none]

/-- The task is still reported with the new reason. -/
theorem stuckThenOffline_unpaired :
    ¬∀ calls : List Call,
      StepSystem.Throughout reportedStep Paired (empty, fun _ => none) calls := by
  intro throughout
  obtain ⟨final, ran⟩ := exists_run stuckThenOffline (empty, fun _ => none)
  have paired := StepSystem.holds_finally (throughout stuckThenOffline) ran
  cases ran
  exact absurd (paired.stuckOnly "agent" "task-1" (by decide)) (by decide)

end AgentRegistry

end QuAIA.Orchestrator
