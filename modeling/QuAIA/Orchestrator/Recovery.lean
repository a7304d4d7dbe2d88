import QuAIA.Orchestrator.Shared

/-!
Contract: the two background tasks that watch over broken agents: the recovery
worker (`_retry_cancellation_task`) and the health check
(`_health_check_agents`).

Owns: the suspensions of both, the segment that follows each of them, and the
ways in which an entry leaves the recovery worker's hand.

Does not own: how a cancellation or a card fetch gets its answer, which is an
argument of the step. An exception in the recovery worker drops the entry in
its hand.
-/

set_option autoImplicit false

namespace QuAIA.Orchestrator

/-! ## The recovery worker -/

/-- Where the recovery worker is suspended: at the empty queue, in a
cancellation, in a card fetch, in the pause before a retry, or in the pause
after an exception. Only the fetch after a failed cancellation changes the
reason when it fails. -/
inductive RecoveryPhase where
  | waiting
  | cancelling (entry : RecoveryEntry) (card : AgentCard) (stuckTaskId : String)
  | fetching (entry : RecoveryEntry) (cancellationFailed : Bool)
  | sleeping (entry : RecoveryEntry)
  | pausing
deriving DecidableEq, Repr

/-- The entry in the worker's hand. -/
def RecoveryPhase.entry : RecoveryPhase → Option RecoveryEntry
  | .cancelling entry _ _ => some entry
  | .fetching entry _ => some entry
  | .sleeping entry => some entry
  | _ => none

/-- The worker with the entries it gave up, which it only logs. -/
structure RecoveryWorker where
  phase : RecoveryPhase
  givenUp : List RecoveryEntry
deriving DecidableEq, Repr

/-- Twenty-four hours, in seconds. -/
def giveUpAfter : Int := 24 * 3600

def RecoveryEntry.card (registry : AgentRegistry) (entry : RecoveryEntry) : Option AgentCard :=
  entry.agentId.bind registry.getCard

def RecoveryEntry.brokenContext (registry : AgentRegistry) (entry : RecoveryEntry) :
    Option BrokenReason × Option String :=
  match entry.agentId with
  | some agentId => registry.getBrokenContext agentId
  | none => (none, none)

/-- `_fetch_agent_card(agent_card.supported_interfaces[0].url)`, up to its
suspension. A card without interfaces raises an index error. -/
def fetchAgentCard (entry : RecoveryEntry) (card : AgentCard) (cancellationFailed : Bool) :
    RecoveryPhase :=
  if card.supportedInterfaces.isEmpty then .pausing else .fetching entry cancellationFailed

/-- The attempt to recover the agent of an entry. -/
def attemptRecovery (registry : AgentRegistry) (entry : RecoveryEntry) (card : AgentCard) :
    RecoveryPhase :=
  match entry.brokenContext registry with
  | (some .taskStuck, some stuckTaskId) =>
      if stuckTaskId = "" then fetchAgentCard entry card false
      else .cancelling entry card stuckTaskId
  | _ => fetchAgentCard entry card false

/-- What resumes the recovery worker. -/
inductive RecoveryEvent where
  | taken
  | cancelled (success : Bool)
  | fetched (found : Bool)
  | raised
  | slept
  | resumed
deriving DecidableEq, Repr

/-- The segments that mark the agent of the entry in hand as available. -/
def RecoveryEvent.releases : RecoveryEvent → Bool
  | .cancelled success => success
  | .fetched found => found
  | _ => false

/-- The agent of the entry is marked available. -/
def recovered (shared : Shared) (worker : RecoveryWorker) (entry : RecoveryEntry) :
    Shared × RecoveryWorker :=
  (shared.apply (.updateStatus entry.agentId .available none none),
    { worker with phase := .waiting })

def RecoveryWorker.step (shared : Shared) (now : Instant) (worker : RecoveryWorker) :
    RecoveryEvent → Option (Shared × RecoveryWorker)
  | .taken =>
      match worker.phase, shared.cancellationQueue with
      | .waiting, entry :: rest =>
          let shared := { shared with cancellationQueue := rest }
          if giveUpAfter < now.time - entry.timestamp then
            some (shared, { worker with givenUp := worker.givenUp ++ [entry] })
          else
            match entry.card shared.registry with
            | none => some (shared, worker)
            | some card =>
                some (shared,
                  { worker with phase := attemptRecovery shared.registry entry card })
      | _, _ => none
  | .cancelled success =>
      match worker.phase with
      | .cancelling entry card _ =>
          if success then some (recovered shared worker entry)
          else some (shared, { worker with phase := fetchAgentCard entry card true })
      | _ => none
  | .fetched found =>
      match worker.phase with
      | .fetching entry cancellationFailed =>
          if found then some (recovered shared worker entry)
          else if cancellationFailed then
            some (shared.apply (.updateStatus entry.agentId .broken (some .offline) none),
              { worker with phase := .sleeping entry })
          else some (shared, { worker with phase := .sleeping entry })
      | _ => none
  | .raised =>
      match worker.phase with
      | .cancelling _ _ _ => some (shared, { worker with phase := .pausing })
      | .fetching _ _ => some (shared, { worker with phase := .pausing })
      | _ => none
  | .slept =>
      match worker.phase with
      | .sleeping entry =>
          some ({ shared with cancellationQueue := shared.cancellationQueue ++ [entry] },
            { worker with phase := .waiting })
      | _ => none
  | .resumed =>
      match worker.phase with
      | .pausing => some (shared, { worker with phase := .waiting })
      | _ => none

/-- The card whose interface the recovery worker is going to use. -/
def RecoveryPhase.card : RecoveryPhase → Option AgentCard
  | .cancelling _ card _ => some card
  | _ => none

/-- The ways a segment can treat the entries. -/
inductive RecoveryWorker.Moved (shared : Shared) (worker : RecoveryWorker) :
    RecoveryEvent → Shared → RecoveryWorker → Prop
  | took {entry : RecoveryEntry} {rest : List RecoveryEntry} {phase : RecoveryPhase}
      (free : worker.phase.entry = none) (queued : shared.cancellationQueue = entry :: rest)
      (held : phase.entry = some entry)
      (cardOf : ∀ card ∈ phase.card, entry.card shared.registry = some card) :
      Moved shared worker .taken { shared with cancellationQueue := rest }
        { worker with phase := phase }
  | gaveUp {entry : RecoveryEntry} {rest : List RecoveryEntry}
      (free : worker.phase.entry = none) (queued : shared.cancellationQueue = entry :: rest) :
      Moved shared worker .taken { shared with cancellationQueue := rest }
        { worker with givenUp := worker.givenUp ++ [entry] }
  | skipped {entry : RecoveryEntry} {rest : List RecoveryEntry}
      (free : worker.phase.entry = none) (queued : shared.cancellationQueue = entry :: rest)
      (unknown : entry.card shared.registry = none) :
      Moved shared worker .taken { shared with cancellationQueue := rest } worker
  | tookUnreachable {entry : RecoveryEntry} {rest : List RecoveryEntry} {card : AgentCard}
      (free : worker.phase.entry = none) (queued : shared.cancellationQueue = entry :: rest)
      (known : entry.card shared.registry = some card)
      (noInterface : card.supportedInterfaces = []) :
      Moved shared worker .taken { shared with cancellationQueue := rest }
        { worker with phase := .pausing }
  | kept {event : RecoveryEvent} {phase : RecoveryPhase}
      (same : phase.entry = worker.phase.entry) (cardless : phase.card = none) :
      Moved shared worker event shared { worker with phase := phase }
  | lostContact {entry : RecoveryEntry} (held : worker.phase.entry = some entry) :
      Moved shared worker (.fetched false)
        (shared.apply (.updateStatus entry.agentId .broken (some .offline) none))
        { worker with phase := .sleeping entry }
  | recovered {event : RecoveryEvent} {entry : RecoveryEntry}
      (held : worker.phase.entry = some entry)
      (succeeds : event.releases = true) :
      Moved shared worker event
        (shared.apply (.updateStatus entry.agentId .available none none))
        { worker with phase := .waiting }
  | dropped {event : RecoveryEvent} {entry : RecoveryEntry}
      (held : worker.phase.entry = some entry)
      (fault : event = .raised ∨ ∃ card ∈ worker.phase.card, card.supportedInterfaces = []) :
      Moved shared worker event shared { worker with phase := .pausing }
  | requeued {entry : RecoveryEntry} (held : worker.phase.entry = some entry) :
      Moved shared worker .slept
        { shared with cancellationQueue := shared.cancellationQueue ++ [entry] }
        { worker with phase := .waiting }

/-- Beginning an attempt either keeps the entry in hand or fails for want of an
interface. -/
theorem attemptRecovery_cases (registry : AgentRegistry) (entry : RecoveryEntry)
    (card : AgentCard) :
    ((attemptRecovery registry entry card).entry = some entry ∧
        ∀ other ∈ (attemptRecovery registry entry card).card, other = card) ∨
      (attemptRecovery registry entry card = .pausing ∧ card.supportedInterfaces = []) := by
  have fetching : ((fetchAgentCard entry card false).entry = some entry ∧
        ∀ other ∈ (fetchAgentCard entry card false).card, other = card) ∨
      (fetchAgentCard entry card false = .pausing ∧ card.supportedInterfaces = []) := by
    unfold fetchAgentCard
    split
    · rename_i noInterface
      exact Or.inr ⟨rfl, List.isEmpty_iff.mp noInterface⟩
    · exact Or.inl ⟨rfl, nofun⟩
  unfold attemptRecovery
  split
  · split
    · exact fetching
    · refine Or.inl ⟨rfl, ?_⟩
      intro other isCard
      exact (Option.some.inj isCard).symm
  · exact fetching

/-- **Entries under the recovery worker.** Every segment treats them in one of
the listed ways. -/
theorem RecoveryWorker.moved_of_step {shared after : Shared} {now : Instant}
    {worker next : RecoveryWorker} {event : RecoveryEvent}
    (step : worker.step shared now event = some (after, next)) :
    worker.Moved shared event after next := by
  cases event with
  | taken =>
      simp only [RecoveryWorker.step] at step
      split at step
      · rename_i entry rest waiting queued
        have free : worker.phase.entry = none := by
          rw [waiting]
          rfl
        split at step
        · cases step
          exact .gaveUp free queued
        · split at step
          · rename_i unknown
            cases step
            exact .skipped free queued unknown
          · rename_i card known
            cases step
            rcases attemptRecovery_cases shared.registry entry card with
              ⟨held, cardOf⟩ | ⟨isPausing, noInterface⟩
            · refine .took free queued held ?_
              intro other isCard
              rw [cardOf other isCard]
              exact known
            · rw [isPausing]
              exact .tookUnreachable free queued known noInterface
      · cases step
  | cancelled success =>
      simp only [RecoveryWorker.step] at step
      split at step
      · rename_i entry card stuckTaskId cancelling
        have held : worker.phase.entry = some entry := by
          rw [cancelling]
          rfl
        split at step
        · rename_i succeeded
          cases step
          exact .recovered held succeeded
        · cases step
          unfold fetchAgentCard
          split
          · rename_i noInterface
            refine .dropped held (Or.inr ⟨card, ?_, List.isEmpty_iff.mp noInterface⟩)
            rw [cancelling]
            rfl
          · exact .kept (by rw [held]; rfl) rfl
      · cases step
  | fetched found =>
      simp only [RecoveryWorker.step] at step
      split at step
      · rename_i entry cancellationFailed fetching
        have held : worker.phase.entry = some entry := by
          rw [fetching]
          rfl
        split at step
        · rename_i isFound
          cases step
          exact .recovered held isFound
        · rename_i notFound
          rw [Bool.not_eq_true] at notFound
          split at step
          · cases step
            rw [notFound]
            exact .lostContact held
          · cases step
            exact .kept (by rw [held]; rfl) rfl
      · cases step
  | raised =>
      simp only [RecoveryWorker.step] at step
      split at step
      · rename_i entry card stuckTaskId cancelling
        cases step
        exact .dropped (by rw [cancelling]; rfl) (Or.inl rfl)
      · rename_i entry cancellationFailed fetching
        cases step
        exact .dropped (by rw [fetching]; rfl) (Or.inl rfl)
      · cases step
  | slept =>
      simp only [RecoveryWorker.step] at step
      split at step
      · rename_i entry sleeping
        cases step
        exact .requeued (by rw [sleeping]; rfl)
      · cases step
  | resumed =>
      simp only [RecoveryWorker.step] at step
      split at step
      · rename_i pausing
        cases step
        exact .kept (by rw [pausing]; rfl) rfl
      · cases step

/-- The recovery worker changes the registry by status updates only. -/
theorem RecoveryWorker.Moved.registry_cases {shared after : Shared}
    {worker next : RecoveryWorker} {event : RecoveryEvent}
    (moved : worker.Moved shared event after next) :
    after.registry = shared.registry ∨
      ∃ agentId status reason, after.registry =
        (shared.apply (.updateStatus agentId status reason none)).registry := by
  cases moved with
  | lostContact held => exact Or.inr ⟨_, _, _, rfl⟩
  | recovered held succeeds => exact Or.inr ⟨_, _, _, rfl⟩
  | _ => exact Or.inl rfl

/-- Nor does it put new entries: it puts back what it took. -/
theorem RecoveryWorker.Moved.recoveryLog {shared after : Shared}
    {worker next : RecoveryWorker} {event : RecoveryEvent}
    (moved : worker.Moved shared event after next) : after.recoveryLog = shared.recoveryLog := by
  have updated : ∀ agentId status reason,
      (shared.apply (.updateStatus agentId status reason none)).recoveryLog =
        shared.recoveryLog := by
    intro agentId status reason
    cases agentId <;> rfl
  cases moved with
  | lostContact held => exact updated _ _ _
  | recovered held succeeds => exact updated _ _ _
  | _ => rfl

/-! ## The health check -/

/-- One `_check` of a pass: not yet started, or suspended in its probe. -/
inductive HealthCheck where
  | created (agentId : AgentId) (card : AgentCard)
  | probing (agentId : AgentId)
deriving DecidableEq, Repr

/-- `_health_check_agents` starts one check for each registered card. -/
def healthCheckAgents (registry : AgentRegistry) : List HealthCheck :=
  registry.cards.entries.map fun entry => .created entry.1 entry.2

inductive HealthCheckEvent where
  | started
  | probed (reachable : Bool)
deriving DecidableEq, Repr

/-- A segment of a check, which has finished when no phase is left. -/
def HealthCheck.step (registry : AgentRegistry) (now : Instant) :
    HealthCheck → HealthCheckEvent → Option (List Effect × Option HealthCheck)
  | .created agentId card, .started =>
      if registry.getStatus agentId ≠ .available then some ([], none)
      else if card.supportedInterfaces.isEmpty then some ([], none)
      else some ([], some (.probing agentId))
  | .probing agentId, .probed reachable =>
      if reachable then some ([], none)
      else if registry.getStatus agentId ≠ .available then some ([], none)
      else
        some ([.updateStatus (some agentId) .broken (some .offline) none,
          .putRecovery ⟨some agentId, now.time, .healthCheck⟩], none)
  | _, _ => none

/-- A check does nothing to the shared state, or hands an available agent to
the recovery worker. -/
theorem HealthCheck.effects_of_step {registry : AgentRegistry} {now : Instant}
    {check : HealthCheck} {event : HealthCheckEvent} {effects : List Effect}
    {next : Option HealthCheck} (step : check.step registry now event = some (effects, next)) :
    effects = [] ∨ ∃ agentId, registry.getStatus agentId = .available ∧
      effects = [.updateStatus (some agentId) .broken (some .offline) none,
        .putRecovery ⟨some agentId, now.time, .healthCheck⟩] := by
  unfold HealthCheck.step at step
  split at step
  · split at step
    · cases step
      exact Or.inl rfl
    · split at step
      · cases step
        exact Or.inl rfl
      · cases step
        exact Or.inl rfl
  · rename_i agentId reachable
    split at step
    · cases step
      exact Or.inl rfl
    · split at step
      · cases step
        exact Or.inl rfl
      · rename_i isAvailable
        cases step
        exact Or.inr ⟨agentId, not_not.mp isAvailable, rfl⟩
  · cases step

end QuAIA.Orchestrator
