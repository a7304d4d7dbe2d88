import QuAIA.Orchestrator.AgentRegistry

/-!
Contract: the state that the orchestrator's coroutines share, and the effects
that their segments have on it.

Owns: the registry paired with the recovery queue (`cancellation_queue`), the
effects on the two, and their application in order. A segment between two
suspensions is described by the list of its effects, in source order.

Each recovery entry is tagged with the code place that put it. The tag and the
log of all entries ever put are bookkeeping for statements: no modelled
function reads them.
-/

set_option autoImplicit false

namespace QuAIA.Orchestrator

abbrev TaskId := String

/-- The clock readings of one segment: `time.time()` in seconds and
`datetime.now().isoformat()`. -/
structure Instant where
  time : Int
  iso : String
deriving DecidableEq, Repr

/-- The place that put a recovery entry: a failed task of the dispatch path, the
health check, or the exception handler of a test worker. -/
inductive EntryOrigin where
  | failedTask (taskId : TaskId)
  | healthCheck
  | worker (taskId : TaskId)
deriving DecidableEq, Repr

/-- The task that an entry was put for. -/
def EntryOrigin.task : EntryOrigin → Option TaskId
  | .failedTask taskId => some taskId
  | .worker taskId => some taskId
  | .healthCheck => none

/-- A member of `cancellation_queue`. The agent is `None` when a task failed
before any agent was reserved. -/
structure RecoveryEntry where
  agentId : Option AgentId
  timestamp : Int
  origin : EntryOrigin
deriving DecidableEq, Repr

/-- The kind of an entry. Only the entry of a failed task stands for a slot that
is still occupied. -/
inductive EntryKind where
  | failedTask
  | healthCheck
  | worker
deriving DecidableEq, Repr

def RecoveryEntry.kind (entry : RecoveryEntry) : EntryKind :=
  match entry.origin with
  | .failedTask _ => .failedTask
  | .healthCheck => .healthCheck
  | .worker _ => .worker

structure Shared where
  registry : AgentRegistry
  cancellationQueue : List RecoveryEntry
  recoveryLog : List RecoveryEntry
deriving DecidableEq, Repr

def Shared.empty : Shared := ⟨.empty, [], []⟩

/-- The state after the given agents were registered, all idle. -/
def Shared.withAgents (agentIds : List AgentId) : Shared :=
  { Shared.empty with
    registry := agentIds.foldl
      (fun registry agentId => registry.register agentId ⟨agentId, [], ["http://" ++ agentId]⟩)
      AgentRegistry.empty }

inductive Effect where
  | updateStatus (agentId : Option AgentId) (status : AgentStatus)
      (brokenReason : Option BrokenReason) (stuckTaskId : Option String)
  | setCurrentTask (agentId : Option AgentId) (taskId : Option String)
  | putRecovery (entry : RecoveryEntry)
deriving DecidableEq, Repr

/-- The recovery entry that an effect puts. -/
def Effect.entry : Effect → Option RecoveryEntry
  | .putRecovery entry => some entry
  | _ => none

/-- Registry calls for the agent `None` change nothing: it has no card and no
running tasks. -/
def Shared.apply (shared : Shared) : Effect → Shared
  | .updateStatus (some agentId) status brokenReason stuckTaskId =>
      { shared with
        registry := shared.registry.updateStatus agentId status brokenReason stuckTaskId }
  | .updateStatus none _ _ _ => shared
  | .setCurrentTask (some agentId) taskId =>
      { shared with registry := shared.registry.setCurrentTask agentId taskId }
  | .setCurrentTask none _ => shared
  | .putRecovery entry =>
      { shared with
        cancellationQueue := shared.cancellationQueue ++ [entry]
        recoveryLog := shared.recoveryLog ++ [entry] }

def Shared.applyAll (shared : Shared) (effects : List Effect) : Shared :=
  effects.foldl apply shared

@[simp] theorem Shared.applyAll_nil (shared : Shared) : shared.applyAll [] = shared := rfl

@[simp] theorem Shared.applyAll_cons (shared : Shared) (effect : Effect) (rest : List Effect) :
    shared.applyAll (effect :: rest) = (shared.apply effect).applyAll rest := rfl

/-- An effect puts its entry, if it has one, into the queue and into the log. -/
theorem Shared.apply_entry (shared : Shared) (effect : Effect) :
    (shared.apply effect).recoveryLog = shared.recoveryLog ++ effect.entry.toList ∧
      (shared.apply effect).cancellationQueue =
        shared.cancellationQueue ++ effect.entry.toList := by
  cases effect with
  | updateStatus agentId status reason stuck => cases agentId <;> simp [Shared.apply, Effect.entry]
  | setCurrentTask agentId taskId => cases agentId <;> simp [Shared.apply, Effect.entry]
  | putRecovery entry => exact ⟨rfl, rfl⟩

/-- What every effect extends by its entry is extended by all entries in order. -/
theorem Shared.applyAll_extends {read : Shared → List RecoveryEntry}
    (extends_ : ∀ shared effect, read (Shared.apply shared effect) =
      read shared ++ effect.entry.toList) (shared : Shared) (effects : List Effect) :
    read (shared.applyAll effects) = read shared ++ effects.filterMap Effect.entry := by
  induction effects generalizing shared with
  | nil => simp
  | cons effect rest inductionHypothesis =>
      rw [Shared.applyAll_cons, inductionHypothesis, extends_, List.append_assoc]
      cases put : effect.entry <;> simp [put]

theorem Shared.applyAll_recoveryLog (shared : Shared) (effects : List Effect) :
    (shared.applyAll effects).recoveryLog =
      shared.recoveryLog ++ effects.filterMap Effect.entry :=
  Shared.applyAll_extends (fun shared effect => (shared.apply_entry effect).1) shared effects

theorem Shared.applyAll_cancellationQueue (shared : Shared) (effects : List Effect) :
    (shared.applyAll effects).cancellationQueue =
      shared.cancellationQueue ++ effects.filterMap Effect.entry :=
  Shared.applyAll_extends (fun shared effect => (shared.apply_entry effect).2) shared effects

/-- No effect registers or removes an agent. -/
@[simp] theorem Shared.apply_cards (shared : Shared) (effect : Effect) :
    (shared.apply effect).registry.cards = shared.registry.cards := by
  cases effect with
  | updateStatus agentId status reason stuck =>
      cases agentId with
      | none => rfl
      | some agentId => exact shared.registry.updateStatus_cards agentId status reason stuck
  | setCurrentTask agentId taskId =>
      cases agentId with
      | none => rfl
      | some agentId => exact shared.registry.setCurrentTask_cards agentId taskId
  | putRecovery entry => rfl

@[simp] theorem Shared.applyAll_cards (shared : Shared) (effects : List Effect) :
    (shared.applyAll effects).registry.cards = shared.registry.cards := by
  induction effects generalizing shared with
  | nil => rfl
  | cons effect rest inductionHypothesis =>
      rw [Shared.applyAll_cons, inductionHypothesis, Shared.apply_cards]

theorem Shared.apply_consistent {shared : Shared} (consistent : shared.registry.Consistent)
    (effect : Effect) : (shared.apply effect).registry.Consistent := by
  cases effect with
  | updateStatus agentId status reason stuck =>
      cases agentId with
      | none => exact consistent
      | some agentId => exact consistent.updateStatus agentId status reason stuck
  | setCurrentTask agentId taskId =>
      cases agentId with
      | none => exact consistent
      | some agentId => exact consistent.setCurrentTask agentId taskId
  | putRecovery entry => exact consistent

theorem Shared.applyAll_consistent {shared : Shared} (consistent : shared.registry.Consistent)
    (effects : List Effect) : (shared.applyAll effects).registry.Consistent := by
  induction effects generalizing shared with
  | nil => exact consistent
  | cons effect rest inductionHypothesis =>
      exact inductionHypothesis (Shared.apply_consistent consistent effect)

/-- An agent that becomes broken was marked so by an effect. -/
theorem Shared.marked_of_applyAll {shared : Shared} {effects : List Effect} {agentId : AgentId}
    (before : shared.registry.getStatus agentId ≠ .broken)
    (after : (shared.applyAll effects).registry.getStatus agentId = .broken) :
    ∃ reason stuck, Effect.updateStatus (some agentId) .broken reason stuck ∈ effects := by
  induction effects generalizing shared with
  | nil => exact absurd after before
  | cons effect rest inductionHypothesis =>
      by_cases marked : (shared.apply effect).registry.getStatus agentId = .broken
      · cases effect with
        | updateStatus updated status reason stuck =>
            cases updated with
            | none => exact absurd marked before
            | some updated =>
                simp only [Shared.apply, AgentRegistry.getStatus_updateStatus] at marked
                split at marked
                · rename_i same
                  obtain rfl : agentId = updated := same.1
                  cases status with
                  | broken => exact ⟨reason, stuck, List.mem_cons_self⟩
                  | busy => cases marked
                  | available =>
                      simp only [AgentRegistry.statusAfter] at marked
                      split at marked
                      · cases marked
                      · exact absurd marked before
                · exact absurd marked before
        | setCurrentTask updated taskId =>
            cases updated with
            | none => exact absurd marked before
            | some updated =>
                simp only [Shared.apply, AgentRegistry.getStatus_setCurrentTask] at marked
                exact absurd marked before
        | putRecovery entry => exact absurd marked before
      · obtain ⟨reason, stuck, member⟩ := inductionHypothesis marked after
        exact ⟨reason, stuck, List.mem_cons_of_mem effect member⟩

end QuAIA.Orchestrator
