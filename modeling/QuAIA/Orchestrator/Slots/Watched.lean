import QuAIA.Orchestrator.RecoveredAgents
import QuAIA.Orchestrator.Slots.Exact

/-!
Contract: what a taken slot and a broken agent wait for, with test workers.

Owns: the invariant that every slot stands for a task in flight or for a failed one, and that a
broken agent has something to wait for; and its runs, which are those in which the recovery worker
meets no exception.

The exact account does not hold here: a test worker puts an entry of its own beside the one of the
failed task, so a slot can be released twice. No slot can be left over, though.
-/

set_option autoImplicit false

namespace QuAIA.Orchestrator

open QuAIA.Common
open QuAIA.Library

namespace SlotAccount

/-- A task in flight will leave the agent, an entry will be taken by the recovery worker, or the
worker has given up. -/
def Awaits (account : SlotAccount) : Prop :=
  0 < account.inFlight ∨ (∃ kind, 0 < account.pending kind) ∨ ∃ kind, 0 < account.givenUp kind

/-- Every slot stands for a task in flight or a failed one, and a broken agent awaits something. -/
structure Watched (account : SlotAccount) : Prop where
  unknown : account.registered = false → account.slots = 0
  explained : account.slots ≤
    account.inFlight + account.pending .failedTask + account.givenUp .failedTask
  broken : account.registered = true → account.status = .broken → account.Awaits

section Moves

variable {account next : SlotAccount} {kind : EntryKind}

theorem awaits_of_pending (waits : 0 < account.pending kind) : account.Awaits :=
  Or.inr (Or.inl ⟨kind, waits⟩)

/-- A taken slot is awaited. -/
theorem awaits_of_slots (explained : account.slots ≤
      account.inFlight + account.pending .failedTask + account.givenUp .failedTask)
    (taken : 0 < account.slots) : account.Awaits := by
  by_cases running : 0 < account.inFlight
  · exact Or.inl running
  · by_cases waits : 0 < account.pending .failedTask
    · exact awaits_of_pending waits
    · exact Or.inr (Or.inr ⟨.failedTask, by omega⟩)

/-- Marking an agent as broken moves no slot. -/
theorem slots_broken (account : SlotAccount) : (account.updated .broken).slots = account.slots := by
  unfold updated
  split
  · rfl
  · rfl

theorem registered_updated (account : SlotAccount) (status : AgentStatus) :
    (account.updated status).registered = account.registered := by
  unfold updated
  split
  · rfl
  · rfl

theorem givenUp_updated (account : SlotAccount) (status : AgentStatus) :
    (account.updated status).givenUp = account.givenUp := by
  unfold updated
  split
  · rfl
  · rfl

/-- An agent that is marked as broken and handed over is watched. -/
theorem Watched.handedOver (watched : account.Watched) :
    ((account.updated .broken).put kind).Watched where
  unknown unknown := by
    rw [put, registered_updated] at unknown
    exact (slots_broken account).trans (watched.unknown unknown)
  explained := by
    have explained := watched.explained
    have more : account.pending .failedTask ≤
        ((account.updated .broken).put kind).pending .failedTask := by
      rw [put_pending, updated_pending]
      split
      · rename_i same
        rw [same]
        omega
      · exact Nat.le_refl _
    show (account.updated .broken).slots ≤ (account.updated .broken).inFlight +
      ((account.updated .broken).put kind).pending .failedTask +
        (account.updated .broken).givenUp .failedTask
    rw [slots_broken, updated_inFlight, givenUp_updated]
    omega
  broken _ _ := awaits_of_pending ((account.updated .broken).put_waits kind)

/-- A release leaves the agent usable, or a slot that stands for something. -/
theorem Watched.release (watched : account.Watched)
    (slots : next.slots = (account.updated .available).slots)
    (status : next.status = (account.updated .available).status)
    (registered : next.registered = account.registered)
    (explained : max 0 (account.slots - 1) ≤
      (next.inFlight + next.pending .failedTask + next.givenUp .failedTask : Int)) :
    next.Watched := by
  cases known : account.registered with
  | false =>
      rw [updated_of_unknown _ known, watched.unknown known] at slots
      refine ⟨fun _ => slots, by omega, fun isKnown => ?_⟩
      exact unknown_elim isKnown (registered.trans known)
  | true =>
      rw [updated_of_registered _ known] at slots status
      have fewer : next.slots = max 0 (account.slots - 1) := slots
      refine ⟨fun unknown => unknown_elim (registered.trans known) unknown, by omega, ?_⟩
      intro _ isBroken
      apply awaits_of_slots (by omega)
      rw [isBroken, AgentRegistry.statusAfter, AgentRegistry.slotsAfter] at status
      split at status
      · cases status
      · omega

/-- **Every move keeps the watch** that loses no entry to a fault. -/
theorem Watched.move {maxSlots : Nat} {allowed : SlotAccount → Prop} {faulty : Prop}
    (watched : account.Watched) (moved : account.Move maxSlots allowed faulty next)
    (kept : faulty → ∀ kind, account.pending kind ≤ next.pending kind) : next.Watched := by
  have explained := watched.explained
  cases moved with
  | idle => exact watched
  | register unknown => exact ⟨nofun, explained, fun _ isBroken => by cases isBroken⟩
  | reserve known notBroken free =>
      rw [updated_of_registered _ known]
      refine ⟨fun unknown => unknown_elim known unknown, ?_, fun _ isBroken => by cases isBroken⟩
      show account.slots + 1 ≤ ((account.inFlight + 1 : Nat) : Int) +
        account.pending .failedTask + account.givenUp .failedTask
      omega
  | finish held =>
      refine watched.release rfl rfl (registered_updated _ _) ?_
      show max 0 (account.slots - 1) ≤ ((account.inFlight - 1 : Nat) : Int) +
        (account.updated .available).pending .failedTask +
          (account.updated .available).givenUp .failedTask
      rw [updated_pending, givenUp_updated]
      omega
  | fail held =>
      refine ⟨?_, ?_, fun _ _ => awaits_of_pending (put_waits _ .failedTask)⟩
      · intro unknown
        rw [put, registered_updated] at unknown
        exact (slots_broken account).trans (watched.unknown unknown)
      · rw [put_pending, if_pos rfl]
        show (account.updated .broken).slots ≤ ((account.inFlight - 1 : Nat) : Int) +
          (((account.updated .broken).pending .failedTask + 1 : Nat) : Int) +
            (account.updated .broken).givenUp .failedTask
        rw [slots_broken, updated_pending, givenUp_updated]
        omega
  | probe isAvailable => exact watched.handedOver
  | crash fault => exact watched.handedOver
  | @recover kind waits room =>
      refine watched.release rfl rfl (registered_updated _ _) ?_
      show max 0 (account.slots - 1) ≤ ((account.updated .available).inFlight : Int) +
        ((account.updated .available).take kind).pending .failedTask +
          (account.updated .available).givenUp .failedTask
      rw [take_pending, updated_inFlight, updated_pending, givenUp_updated]
      split
      · rename_i same
        subst same
        omega
      · omega
  | @loseContact kind waits =>
      have stillWaits : 0 < (account.updated .broken).pending kind := by
        rw [updated_pending]
        exact waits
      refine ⟨?_, ?_, fun _ _ => awaits_of_pending stillWaits⟩
      · intro unknown
        rw [registered_updated] at unknown
        exact (slots_broken account).trans (watched.unknown unknown)
      · rw [slots_broken, updated_inFlight, updated_pending, givenUp_updated]
        exact explained
  | @giveUp kind waits =>
      refine ⟨watched.unknown, ?_, fun _ _ => Or.inr (Or.inr ⟨kind, ?_⟩)⟩
      · show account.slots ≤ (account.inFlight : Int) + (account.abandon kind).pending .failedTask +
          (account.abandon kind).givenUp .failedTask
        rw [abandon_pending, abandon_givenUp]
        split
        · rename_i same
          subst same
          omega
        · omega
      · rw [abandon_givenUp, if_pos rfl]
        omega
  | @skip kind waits unknown =>
      have zero := watched.unknown unknown
      refine ⟨fun _ => zero, ?_, fun known => unknown_elim known unknown⟩
      show account.slots ≤ _
      omega
  | @drop kind waits fault =>
      have fewer := kept fault kind
      rw [take_pending, if_pos rfl] at fewer
      omega

end Moves

end SlotAccount

/-! ## Runs -/

/-- Events in which the recovery worker meets no exception: it raises none, and every card has an
interface. -/
def SystemEvent.Faultless (event : SystemEvent) : Prop :=
  match event.action with
  | .discovered _ card => card.supportedInterfaces ≠ []
  | .recovery recoveryEvent => recoveryEvent ≠ .raised
  | _ => True

instance : DecidablePred SystemEvent.Faultless
  | ⟨_, .discovered _ card⟩ => inferInstanceAs (Decidable (card.supportedInterfaces ≠ []))
  | ⟨_, .recovery recoveryEvent⟩ => inferInstanceAs (Decidable (recoveryEvent ≠ .raised))
  | ⟨_, .startGroup _ _ _⟩ => instDecidableTrue
  | ⟨_, .group _ _⟩ => instDecidableTrue
  | ⟨_, .beginTask _ _⟩ => instDecidableTrue
  | ⟨_, .task _ _⟩ => instDecidableTrue
  | ⟨_, .healthCheck⟩ => instDecidableTrue
  | ⟨_, .check _ _⟩ => instDecidableTrue

/-- The invariant of faultless runs. -/
structure System.WatchInvariant (system : System) : Prop where
  consistent : system.shared.registry.Consistent
  interfaces : ∀ agentId card, system.shared.registry.getCard agentId = some card →
    card.supportedInterfaces ≠ []
  cardInHand : ∀ card ∈ system.recovery.phase.card, card.supportedInterfaces ≠ []
  watched : ∀ agentId, (system.account agentId).Watched

theorem System.watchInvariant_initial : System.initial.WatchInvariant where
  consistent := AgentRegistry.consistent_empty
  interfaces := nofun
  cardInHand := nofun
  watched agentId := by
    rw [System.account_initial]
    exact ⟨fun _ => rfl, le_refl _, nofun⟩

section Steps

variable {config : OrchestratorConfig} {now : Instant} {system next : System}

/-- A segment of a test group takes no entry out of the queue. -/
theorem System.pending_le_of_group {index : Nat} {event : GroupEvent}
    (stepped : system.Stepped config now (.group index event) next) (agentId : AgentId)
    (kind : EntryKind) :
    (system.account agentId).pending kind ≤ (next.account agentId).pending kind := by
  have grows : ∀ effects : List Effect,
      entryCounts (pendingEntries system.shared system.recovery) agentId kind ≤
        entryCounts (pendingEntries (system.shared.applyAll effects) system.recovery)
          agentId kind := by
    intro effects
    rw [pendingEntries, pendingEntries, Shared.applyAll_cancellationQueue, ← List.append_assoc]
    exact (List.sublist_append_left _ _).countP_le
  cases stepped with
  | group found delivers segment begins => exact grows _
  | groupBegan found delivers segment begins fresh => exact grows _

theorem System.watchInvariant_step (system : System) (event : SystemEvent) (next : System)
    (invariant : system.WatchInvariant) (faultless : event.Faultless)
    (step : system.step config event = some next) : next.WatchInvariant := by
  have stepped := System.stepped_of_step step
  obtain ⟨now, action⟩ := event
  refine ⟨System.consistent_step invariant.consistent stepped, ?_, ?_, ?_⟩
  · intro agentId card known
    rcases System.getCard_step stepped agentId card known with before | discovered
    · exact invariant.interfaces agentId card before
    · obtain rfl : action = .discovered agentId card := discovered
      exact faultless
  · intro card inHand
    rcases System.cardInHand_step stepped card inHand with before | ⟨agentId, known⟩
    · exact invariant.cardInHand card before
    · exact invariant.interfaces agentId card known
  · intro agentId
    have kept : system.Fault action → ∀ kind,
        (system.account agentId).pending kind ≤ (next.account agentId).pending kind := by
      intro fault
      cases action with
      | group index groupEvent => exact System.pending_le_of_group stepped agentId
      | recovery recoveryEvent =>
          rcases fault with raised | ⟨other, card, known, noInterface⟩ |
            ⟨card, inHand, noInterface⟩
          · exact absurd raised faultless
          · exact absurd noInterface (invariant.interfaces other card known)
          · exact absurd noInterface (invariant.cardInHand card inHand)
      | _ => exact fault.elim
    have moved : (system.account agentId).Move config.maxSlotsPerAgent (fun _ => True)
        (∀ kind, (system.account agentId).pending kind ≤ (next.account agentId).pending kind)
        (next.account agentId) := by
      apply System.account_moves invariant.consistent stepped
      · intro _ _ _ _ _ _ _
        trivial
      · exact kept
    exact (invariant.watched agentId).move moved id

end Steps

/-- **No agent is forgotten.** Wherever a run of the whole orchestrator ends in which the recovery
worker met no exception, with test groups and with whatever failures: a registered agent that is
broken has a recovery entry that waits or is processed, or one that was given up, or a task in
flight; and an agent with none of these is available with all its slots free. -/
theorem no_agent_is_forgotten {config : OrchestratorConfig} {events : List SystemEvent}
    {final : System} (faultless : ∀ event ∈ events, event.Faultless)
    (ran : StepSystem.run (System.step config) System.initial events = some final)
    {agentId : AgentId} (registered : final.shared.registry.contains agentId = true) :
    (∃ entry ∈ pendingEntries final.shared final.recovery, entry.agentId = some agentId) ∨
      (∃ entry ∈ final.recovery.givenUp, entry.agentId = some agentId) ∨
      0 < inFlightOn final.sends agentId ∨
      (final.shared.registry.getStatus agentId = .available ∧
        final.shared.registry.slots agentId = 0) := by
  have invariant : final.WatchInvariant :=
    StepSystem.invariant_along System.watchInvariant_step System.watchInvariant_initial
      (StepSystem.along_of_forall_event System.initial faultless) ran
  have watched := invariant.watched agentId
  by_cases awaits : (final.account agentId).Awaits
  · rcases awaits with running | ⟨kind, waits⟩ | ⟨kind, gaveUp⟩
    · exact Or.inr (Or.inr (Or.inl running))
    · obtain ⟨entry, member, mine, -⟩ := exists_entry_of_entryCounts waits
      exact Or.inl ⟨entry, member, mine⟩
    · obtain ⟨entry, member, mine, -⟩ := exists_entry_of_entryCounts gaveUp
      exact Or.inr (Or.inl ⟨entry, member, mine⟩)
  · refine Or.inr (Or.inr (Or.inr ?_))
    have free : final.shared.registry.slots agentId = 0 := by
      have nonneg := invariant.consistent.slotsNonneg agentId
      by_contra taken
      apply awaits
      apply SlotAccount.awaits_of_slots watched.explained
      show 0 < final.shared.registry.slots agentId
      omega
    refine ⟨?_, free⟩
    cases status : final.shared.registry.getStatus agentId with
    | available => rfl
    | busy =>
        have taken := invariant.consistent.slotsOfBusy agentId status
        omega
    | broken => exact absurd (watched.broken registered status) awaits

/-- A test worker's task times out, and the handler of the worker hands the agent over once more
when the recovery worker has already brought it back. -/
def handedOverTwice : List SystemEvent :=
  [(SystemAction.discovered "agent" ⟨"Agent", ["UI tests"], ["http://agent"]⟩).atTime 0,
    (SystemAction.startGroup "UI" [TestCase.named "T-1"] ["agent"]).atTime 1,
    (SystemAction.group 0 (.resume 0 "task-1")).atTime 1,
    (SystemAction.task "task-1" .lockAcquired).atTime 1,
    (SystemAction.task "task-1" (.selected (.ok "agent"))).atTime 2,
    (SystemAction.task "task-1" .clientCreated).atTime 5,
    (SystemAction.task "task-1" .timedOut).atTime 7205,
    (SystemAction.recovery .taken).atTime 7205,
    (SystemAction.recovery (.fetched true)).atTime 7206,
    (SystemAction.task "task-1" (.closed none)).atTime 7207,
    (SystemAction.group 0 (.sent 0 (.error (.httpException 408
      ("Task 'Execution of test case T-1 (type: UI)' timed out while waiting for " ++
        "completion."))))).atTime 7207]

theorem no_agent_is_forgotten_handedOver :
    ∃ final ∈ StepSystem.run (System.step .default) System.initial handedOverTwice,
      final.shared.registry.getStatus "agent" = .broken ∧
        ∃ entry ∈ pendingEntries final.shared final.recovery, entry.agentId = some "agent" := by
  have ends : ∃ final ∈ StepSystem.run (System.step .default) System.initial handedOverTwice,
      final.shared.registry.contains "agent" = true ∧
        final.shared.registry.getStatus "agent" = .broken ∧ final.recovery.givenUp = [] ∧
        inFlightOn final.sends "agent" = 0 := by
    decide
  obtain ⟨final, ran, registered, isBroken, noneGivenUp, idle⟩ := ends
  have faultless : ∀ event ∈ handedOverTwice, event.Faultless := by decide
  refine ⟨final, ran, isBroken, ?_⟩
  rcases no_agent_is_forgotten faultless ran registered with
    waits | ⟨entry, gaveUp, -⟩ | running | ⟨isAvailable, -⟩
  · exact waits
  · rw [noneGivenUp] at gaveUp
    exact absurd gaveUp List.not_mem_nil
  · omega
  · rw [isBroken] at isAvailable
    cases isAvailable

end QuAIA.Orchestrator
