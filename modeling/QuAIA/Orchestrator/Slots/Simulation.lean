import QuAIA.Orchestrator.Slots.Account
import QuAIA.Orchestrator.System

/-!
Contract: the orchestrator simulates the slot account of every agent.

Owns: the account of an agent in a state of the orchestrator; what each effect
does to it; and the simulation, which maps every step to a move of every
account.

Does not own: the moves, and what they keep.
-/

set_option autoImplicit false

namespace QuAIA.Orchestrator

open QuAIA.Common
open QuAIA.Library

/-! ## The account of an agent -/

/-- The entries of an agent in a list, by kind. -/
def entryCounts (entries : List RecoveryEntry) (agentId : AgentId) (kind : EntryKind) : Nat :=
  entries.countP fun entry => decide (entry.agentId = some agentId ∧ entry.kind = kind)

/-- The entries that wait in the queue or are in the recovery worker's hand. -/
def pendingEntries (shared : Shared) (recovery : RecoveryWorker) : List RecoveryEntry :=
  recovery.phase.entry.toList ++ shared.cancellationQueue

/-- The number of tasks in flight on an agent. -/
def inFlightOn (sends : Dict TaskId SendTask) (agentId : AgentId) : Nat :=
  sends.countValues fun task => decide (task.phase.busyOn = some agentId)

def accountOf (shared : Shared) (sends : Dict TaskId SendTask) (recovery : RecoveryWorker)
    (agentId : AgentId) : SlotAccount where
  registered := shared.registry.contains agentId
  status := shared.registry.getStatus agentId
  slots := shared.registry.slots agentId
  inFlight := inFlightOn sends agentId
  pending := entryCounts (pendingEntries shared recovery) agentId
  givenUp := entryCounts recovery.givenUp agentId

def System.account (system : System) (agentId : AgentId) : SlotAccount :=
  accountOf system.shared system.sends system.recovery agentId

/-! ## Counting entries -/

section Counting

variable {agentId : AgentId} {entry : RecoveryEntry}

theorem entryCounts_perm {left right : List RecoveryEntry} (permuted : left.Perm right) :
    entryCounts left agentId = entryCounts right agentId := by
  funext kind
  exact permuted.countP_eq _

theorem entryCounts_cons_mine (mine : entry.agentId = some agentId)
    (entries : List RecoveryEntry) :
    entryCounts (entry :: entries) agentId =
      Function.update (entryCounts entries agentId) entry.kind
        (entryCounts entries agentId entry.kind + 1) := by
  funext kind
  rw [Function.update_apply]
  split
  · rename_i same
    simp [entryCounts, mine, same]
  · rename_i different
    simp [entryCounts, Ne.symm different]

theorem entryCounts_cons_other (other : entry.agentId ≠ some agentId)
    (entries : List RecoveryEntry) :
    entryCounts (entry :: entries) agentId = entryCounts entries agentId := by
  funext kind
  simp [entryCounts, other]

/-- Counted entries exist. -/
theorem exists_entry_of_entryCounts {entries : List RecoveryEntry} {kind : EntryKind}
    (counted : 0 < entryCounts entries agentId kind) :
    ∃ entry ∈ entries, entry.agentId = some agentId ∧ entry.kind = kind := by
  obtain ⟨entry, member, isCounted⟩ := List.countP_pos_iff.mp counted
  exact ⟨entry, member, of_decide_eq_true isCounted⟩

end Counting

/-! ## Effects on an account -/

section Effects

variable (shared : Shared) (sends : Dict TaskId SendTask) (recovery : RecoveryWorker)
  (agentId : AgentId)

theorem accountOf_updateStatus_mine (status : AgentStatus) (reason : Option BrokenReason)
    (stuck : Option String) :
    accountOf (shared.apply (.updateStatus (some agentId) status reason stuck)) sends recovery
        agentId =
      (accountOf shared sends recovery agentId).updated status := by
  have slots := shared.registry.slots_updateStatus agentId status reason stuck agentId
  have newStatus := shared.registry.getStatus_updateStatus agentId status reason stuck agentId
  have contains := shared.registry.contains_updateStatus agentId status reason stuck agentId
  cases known : shared.registry.contains agentId with
  | true =>
      rw [SlotAccount.updated_of_registered _ known]
      ext
      · exact contains
      · exact newStatus.trans (by simp [known, accountOf])
      · exact slots.trans (by simp [known, accountOf])
      · rfl
      · rfl
      · rfl
  | false =>
      rw [SlotAccount.updated_of_unknown _ known]
      ext
      · exact contains
      · exact newStatus.trans (by simp [known, accountOf])
      · exact slots.trans (by simp [known, accountOf])
      · rfl
      · rfl
      · rfl

theorem accountOf_updateStatus_other {named : Option AgentId} (other : named ≠ some agentId)
    (status : AgentStatus) (reason : Option BrokenReason) (stuck : Option String) :
    accountOf (shared.apply (.updateStatus named status reason stuck)) sends recovery agentId =
      accountOf shared sends recovery agentId := by
  cases named with
  | none => rfl
  | some named =>
      have different : agentId ≠ named := fun same => other (by rw [same])
      have slots := shared.registry.slots_updateStatus named status reason stuck agentId
      have newStatus := shared.registry.getStatus_updateStatus named status reason stuck agentId
      have contains := shared.registry.contains_updateStatus named status reason stuck agentId
      ext
      · exact contains
      · exact newStatus.trans (by simp [different, accountOf])
      · exact slots.trans (by simp [different, accountOf])
      · rfl
      · rfl
      · rfl

@[simp] theorem accountOf_setCurrentTask (named : Option AgentId) (taskId : Option TaskId) :
    accountOf (shared.apply (.setCurrentTask named taskId)) sends recovery agentId =
      accountOf shared sends recovery agentId := by
  cases named with
  | none => rfl
  | some named =>
      ext
      · exact shared.registry.contains_setCurrentTask named taskId agentId
      · exact shared.registry.getStatus_setCurrentTask named taskId agentId
      · exact shared.registry.slots_setCurrentTask named taskId agentId
      · rfl
      · rfl
      · rfl

variable {agentId} {entry : RecoveryEntry}

theorem pendingEntries_put :
    (pendingEntries (shared.apply (.putRecovery entry)) recovery).Perm
      (entry :: pendingEntries shared recovery) := by
  have appended := List.perm_append_singleton entry (pendingEntries shared recovery)
  simpa [pendingEntries, Shared.apply] using appended

theorem accountOf_putRecovery_mine (mine : entry.agentId = some agentId) :
    accountOf (shared.apply (.putRecovery entry)) sends recovery agentId =
      (accountOf shared sends recovery agentId).put entry.kind := by
  have permuted : (pendingEntries (shared.apply (.putRecovery entry)) recovery).Perm
      (entry :: pendingEntries shared recovery) := pendingEntries_put shared recovery
  have counted := (entryCounts_perm permuted).trans (entryCounts_cons_mine mine _)
  ext kind
  · rfl
  · rfl
  · rfl
  · rfl
  · exact congrFun counted kind
  · rfl

theorem accountOf_putRecovery_other (other : entry.agentId ≠ some agentId) :
    accountOf (shared.apply (.putRecovery entry)) sends recovery agentId =
      accountOf shared sends recovery agentId := by
  have permuted : (pendingEntries (shared.apply (.putRecovery entry)) recovery).Perm
      (entry :: pendingEntries shared recovery) := pendingEntries_put shared recovery
  have counted := (entryCounts_perm permuted).trans (entryCounts_cons_other other _)
  ext kind
  · rfl
  · rfl
  · rfl
  · rfl
  · exact congrFun counted kind
  · rfl

/-- An agent marked as broken and handed to the recovery worker: its own account gets
the entry, the others are left alone. -/
theorem accountOf_handedOver (marked : AgentId) (reason : Option BrokenReason)
    (timestamp : Int) (origin : EntryOrigin) :
    accountOf
        (shared.applyAll [.updateStatus (some marked) .broken reason none,
          .putRecovery ⟨some marked, timestamp, origin⟩]) sends recovery agentId =
      if marked = agentId then
        ((accountOf shared sends recovery agentId).updated .broken).put
          (RecoveryEntry.mk (some marked) timestamp origin).kind
      else accountOf shared sends recovery agentId := by
  simp only [Shared.applyAll_cons, Shared.applyAll_nil]
  by_cases mine : marked = agentId
  · subst mine
    rw [if_pos rfl, accountOf_putRecovery_mine _ _ _ rfl, accountOf_updateStatus_mine]
  · have other : some marked ≠ some agentId := fun same => mine (Option.some.inj same)
    rw [if_neg mine, accountOf_putRecovery_other _ _ _ other,
      accountOf_updateStatus_other _ _ _ _ other]

end Effects

/-! ## Tasks move the account -/

section Tasks

variable {shared : Shared} {sends : Dict TaskId SendTask} {recovery : RecoveryWorker}
  {taskId : TaskId} {task : SendTask} {phase : SendPhase} {agentId : AgentId}

theorem inFlightOn_set (found : sends.get? taskId = some task) (phase : SendPhase)
    (agentId : AgentId) :
    inFlightOn (sends.set taskId { task with phase := phase }) agentId +
        (decide (task.phase.busyOn = some agentId)).toNat =
      inFlightOn sends agentId + (decide (phase.busyOn = some agentId)).toNat :=
  Dict.countValues_set found _ _

/-- A task that neither enters nor leaves the agent does not touch its account. -/
theorem accountOf_set_same (found : sends.get? taskId = some task)
    (same : phase.busyOn = some agentId ↔ task.phase.busyOn = some agentId) :
    accountOf shared (sends.set taskId { task with phase := phase }) recovery agentId =
      accountOf shared sends recovery agentId := by
  have counted := inFlightOn_set found phase agentId
  have unmoved : inFlightOn (sends.set taskId { task with phase := phase }) agentId =
      inFlightOn sends agentId := by
    simp only [same] at counted
    omega
  simp only [accountOf, unmoved]

theorem accountOf_set_entered (found : sends.get? taskId = some task)
    (outside : task.phase.busyOn = none) (inside : phase.busyOn = some agentId) :
    accountOf shared (sends.set taskId { task with phase := phase }) recovery agentId =
      { accountOf shared sends recovery agentId with
        inFlight := (accountOf shared sends recovery agentId).inFlight + 1 } := by
  have counted := inFlightOn_set found phase agentId
  have more : inFlightOn (sends.set taskId { task with phase := phase }) agentId =
      inFlightOn sends agentId + 1 := by
    simpa [outside, inside] using counted
  simp only [accountOf, more]

theorem accountOf_set_left (shared : Shared) (recovery : RecoveryWorker)
    (found : sends.get? taskId = some task)
    (inside : task.phase.busyOn = some agentId) (outside : phase.busyOn = none) :
    0 < (accountOf shared sends recovery agentId).inFlight ∧
      accountOf shared (sends.set taskId { task with phase := phase }) recovery agentId =
        { accountOf shared sends recovery agentId with
          inFlight := (accountOf shared sends recovery agentId).inFlight - 1 } := by
  have counted := inFlightOn_set found phase agentId
  have fewer : inFlightOn (sends.set taskId { task with phase := phase }) agentId + 1 =
      inFlightOn sends agentId := by
    simpa [outside, inside] using counted
  refine ⟨?_, ?_⟩
  · show 0 < inFlightOn sends agentId
    omega
  · have less : inFlightOn (sends.set taskId { task with phase := phase }) agentId =
        inFlightOn sends agentId - 1 := by omega
    simp only [accountOf, less]

/-- A failed task leaves the agent broken, with an entry in its place. -/
theorem accountOf_failed (shared : Shared) (recovery : RecoveryWorker)
    (found : sends.get? taskId = some task)
    (inside : task.phase.busyOn = some agentId) (outside : phase.busyOn = none)
    (now : Instant) (reason : Option BrokenReason) (stuck : Option String) :
    0 < (accountOf shared sends recovery agentId).inFlight ∧
      accountOf
          (shared.applyAll
            [.updateStatus (some agentId) .broken reason stuck,
              .setCurrentTask (some agentId) none,
              .putRecovery ⟨some agentId, now.time, .failedTask taskId⟩])
          (sends.set taskId { task with phase := phase }) recovery agentId =
        { (accountOf shared sends recovery agentId).updated .broken with
          inFlight := (accountOf shared sends recovery agentId).inFlight - 1 }.put
            .failedTask := by
  have left : 0 < (accountOf shared sends recovery agentId).inFlight ∧
      accountOf shared (sends.set taskId { task with phase := phase }) recovery agentId =
        { accountOf shared sends recovery agentId with
          inFlight := (accountOf shared sends recovery agentId).inFlight - 1 } :=
    accountOf_set_left shared recovery found inside outside
  refine ⟨left.1, ?_⟩
  simp only [Shared.applyAll_cons, Shared.applyAll_nil]
  rw [accountOf_putRecovery_mine _ _ _ rfl, accountOf_setCurrentTask,
    accountOf_updateStatus_mine, left.2, SlotAccount.updated_with_inFlight]
  rfl

/-- The effects of a failure on another agent leave the account alone. -/
theorem accountOf_failed_other {failed : Option AgentId} (other : failed ≠ some agentId)
    (now : Instant) (reason : Option BrokenReason) (stuck : Option String)
    (origin : EntryOrigin) (sends : Dict TaskId SendTask) :
    accountOf
        (shared.applyAll
          [.updateStatus failed .broken reason stuck, .setCurrentTask failed none,
            .putRecovery ⟨failed, now.time, origin⟩]) sends recovery agentId =
      accountOf shared sends recovery agentId := by
  simp only [Shared.applyAll_cons, Shared.applyAll_nil]
  rw [accountOf_putRecovery_other _ _ _ other, accountOf_setCurrentTask,
    accountOf_updateStatus_other _ _ _ _ other]

/-- A failure of a task is a move of every account. -/
theorem failed_moves {failed : AgentId} (found : sends.get? taskId = some task)
    (held : task.phase.busyOn = some failed) (outside : phase.busyOn = none) (now : Instant)
    (reason : Option BrokenReason) (stuck : Option String) {maxSlots : Nat}
    (allowed : SlotAccount → Prop) (faulty : Prop) :
    (accountOf shared sends recovery agentId).Move maxSlots allowed faulty
      (accountOf
        (shared.applyAll
          [.updateStatus (some failed) .broken reason stuck, .setCurrentTask (some failed) none,
            .putRecovery ⟨some failed, now.time, .failedTask taskId⟩])
        (sends.set taskId { task with phase := phase }) recovery agentId) := by
  by_cases mine : failed = agentId
  · subst mine
    have left := accountOf_failed shared recovery found held outside now reason stuck
    rw [left.2]
    exact .fail left.1
  · have other : some failed ≠ some agentId := fun same => mine (Option.some.inj same)
    rw [accountOf_failed_other other now, accountOf_set_same found]
    · exact .idle
    · rw [outside, held]
      exact iff_of_false nofun other

/-- **A segment of a task is a move of every account.** -/
theorem task_moves {config : OrchestratorConfig} {now : Instant} {chosen : Option AgentId}
    {effects : List Effect} (found : sends.get? taskId = some task)
    (moved : task.phase.Moved config shared.registry now taskId chosen effects phase)
    (allowed : SlotAccount → Prop) (faulty : Prop) :
    (accountOf shared sends recovery agentId).Move config.maxSlotsPerAgent allowed faulty
      (accountOf (shared.applyAll effects) (sends.set taskId { task with phase := phase })
        recovery agentId) := by
  cases moved with
  | waited unreserved still =>
      have before := busyOn_of_agentId_none (agentId_of_unreserved unreserved)
      have after := busyOn_of_agentId_none still
      rw [Shared.applyAll_nil, accountOf_set_same found (by rw [before, after])]
      exact .idle
  | reserved unreserved free =>
      rename_i reserved
      have before := busyOn_of_agentId_none (agentId_of_unreserved unreserved)
      simp only [Shared.applyAll_cons, Shared.applyAll_nil, accountOf_setCurrentTask]
      by_cases mine : reserved = agentId
      · subst mine
        obtain ⟨notBroken, known, below⟩ := AgentRegistry.mem_getAvailableAgents.mp free
        rw [accountOf_updateStatus_mine, accountOf_set_entered found before rfl,
          SlotAccount.updated_with_inFlight]
        exact .reserve known notBroken below
      · have other : some reserved ≠ some agentId := fun same => mine (Option.some.inj same)
        rw [accountOf_updateStatus_other _ _ _ _ other, accountOf_set_same found]
        · exact .idle
        · rw [before]
          exact iff_of_false other nofun
  | selectionFailed unreserved =>
      have before := busyOn_of_agentId_none (agentId_of_unreserved unreserved)
      have other : (none : Option AgentId) ≠ some agentId := nofun
      unfold communicationFailed
      rw [accountOf_failed_other other now, accountOf_set_same found (by rw [before]; rfl)]
      exact .idle
  | continued held =>
      rw [Shared.applyAll_nil, accountOf_set_same found (by rw [held]; rfl)]
      exact .idle
  | released held =>
      rename_i released outcome
      simp only [releaseAgent, Shared.applyAll_cons, Shared.applyAll_nil,
        accountOf_setCurrentTask]
      by_cases mine : released = agentId
      · subst mine
        have outside : (SendPhase.closing released outcome).busyOn = none := rfl
        have left := accountOf_set_left shared recovery found held outside
        rw [accountOf_updateStatus_mine, left.2, SlotAccount.updated_with_inFlight]
        exact .finish left.1
      · have other : some released ≠ some agentId := fun same => mine (Option.some.inj same)
        rw [accountOf_updateStatus_other _ _ _ _ other, accountOf_set_same found]
        · exact .idle
        · rw [held]
          exact iff_of_false nofun other
  | timedOut held => exact failed_moves found held rfl now _ _ allowed faulty
  | failed held => exact failed_moves found held rfl now _ _ allowed faulty
  | closed wasClosing =>
      have before : task.phase.busyOn = none := by
        rw [wasClosing]
        rfl
      rw [Shared.applyAll_nil, accountOf_set_same found (by rw [before]; rfl)]
      exact .idle

end Tasks

/-! ## The recovery worker moves the account -/

section Recovery

variable {shared : Shared} {sends : Dict TaskId SendTask} {recovery : RecoveryWorker}
  {agentId : AgentId} {entry : RecoveryEntry}

/-- The account without an entry in the recovery worker's hand. -/
theorem accountOf_held_mine (held : recovery.phase.entry = some entry)
    (mine : entry.agentId = some agentId) :
    accountOf shared sends recovery agentId =
      (accountOf shared sends { recovery with phase := .waiting } agentId).put entry.kind := by
  have counted := entryCounts_cons_mine mine shared.cancellationQueue
  ext kind
  · rfl
  · rfl
  · rfl
  · rfl
  · simp only [accountOf, pendingEntries, held, Option.toList_some, List.singleton_append]
    exact congrFun counted kind
  · rfl

theorem accountOf_held_other (held : recovery.phase.entry = some entry)
    (other : entry.agentId ≠ some agentId) :
    accountOf shared sends recovery agentId =
      accountOf shared sends { recovery with phase := .waiting } agentId := by
  have counted := entryCounts_cons_other other shared.cancellationQueue
  simp only [accountOf, pendingEntries, held, Option.toList_some, List.singleton_append, counted]
  rfl

/-- Only the entry in the worker's hand matters for the account. -/
theorem accountOf_phase {phase : RecoveryPhase} (same : phase.entry = recovery.phase.entry) :
    accountOf shared sends { recovery with phase := phase } agentId =
      accountOf shared sends recovery agentId := by
  simp only [accountOf, pendingEntries, same]

/-- Taking the head of the queue into the hand moves nothing. -/
theorem accountOf_took {rest : List RecoveryEntry} {phase : RecoveryPhase}
    (free : recovery.phase.entry = none) (queued : shared.cancellationQueue = entry :: rest)
    (held : phase.entry = some entry) :
    accountOf { shared with cancellationQueue := rest } sends { recovery with phase := phase }
        agentId =
      accountOf shared sends recovery agentId := by
  simp only [accountOf, pendingEntries, free, queued, held, Option.toList_some,
    Option.toList_none, List.singleton_append, List.nil_append]

/-- Putting the entry in the hand back into the queue moves nothing. -/
theorem accountOf_requeued (held : recovery.phase.entry = some entry) :
    accountOf { shared with cancellationQueue := shared.cancellationQueue ++ [entry] } sends
        { recovery with phase := .waiting } agentId =
      accountOf shared sends recovery agentId := by
  have permuted : (shared.cancellationQueue ++ [entry]).Perm (entry :: shared.cancellationQueue) :=
    List.perm_append_singleton entry shared.cancellationQueue
  have counted : entryCounts (shared.cancellationQueue ++ [entry]) agentId =
      entryCounts (entry :: shared.cancellationQueue) agentId := entryCounts_perm permuted
  simp only [accountOf, pendingEntries, held, Option.toList_some, List.singleton_append]
  show SlotAccount.mk _ _ _ _ (entryCounts (shared.cancellationQueue ++ [entry]) agentId) _ = _
  rw [counted]

theorem accountOf_gaveUp_mine (mine : entry.agentId = some agentId) :
    accountOf shared sends { recovery with givenUp := recovery.givenUp ++ [entry] } agentId =
      { accountOf shared sends recovery agentId with
        givenUp := Function.update (entryCounts recovery.givenUp agentId) entry.kind
          (entryCounts recovery.givenUp agentId entry.kind + 1) } := by
  have permuted : (recovery.givenUp ++ [entry]).Perm (entry :: recovery.givenUp) :=
    List.perm_append_singleton entry recovery.givenUp
  have counted : entryCounts (recovery.givenUp ++ [entry]) agentId = _ :=
    (entryCounts_perm permuted).trans (entryCounts_cons_mine mine _)
  simp only [accountOf, counted]
  rfl

theorem accountOf_gaveUp_other (other : entry.agentId ≠ some agentId) :
    accountOf shared sends { recovery with givenUp := recovery.givenUp ++ [entry] } agentId =
      accountOf shared sends recovery agentId := by
  have permuted : (recovery.givenUp ++ [entry]).Perm (entry :: recovery.givenUp) :=
    List.perm_append_singleton entry recovery.givenUp
  have counted : entryCounts (recovery.givenUp ++ [entry]) agentId = _ :=
    (entryCounts_perm permuted).trans (entryCounts_cons_other other _)
  simp only [accountOf, counted]
  rfl

/-- The account without the entry at the head of the queue. -/
theorem accountOf_head_mine {rest : List RecoveryEntry} (free : recovery.phase.entry = none)
    (queued : shared.cancellationQueue = entry :: rest) (mine : entry.agentId = some agentId) :
    accountOf shared sends recovery agentId =
      (accountOf { shared with cancellationQueue := rest } sends recovery agentId).put
        entry.kind := by
  have counted := entryCounts_cons_mine mine rest
  ext kind
  · rfl
  · rfl
  · rfl
  · rfl
  · simp only [accountOf, pendingEntries, free, queued, Option.toList_none, List.nil_append]
    exact congrFun counted kind
  · rfl

theorem accountOf_head_other {rest : List RecoveryEntry} (free : recovery.phase.entry = none)
    (queued : shared.cancellationQueue = entry :: rest)
    (other : entry.agentId ≠ some agentId) :
    accountOf shared sends recovery agentId =
      accountOf { shared with cancellationQueue := rest } sends recovery agentId := by
  have counted := entryCounts_cons_other other rest
  simp only [accountOf, pendingEntries, free, queued, Option.toList_none, List.nil_append,
    counted]

/-- The recovery worker can fault in this step: it drops the entry in its hand
because of an exception. -/
def RecoveryFault (shared : Shared) (recovery : RecoveryWorker) (event : RecoveryEvent) : Prop :=
  event = .raised ∨
    (∃ agentId card, shared.registry.getCard agentId = some card ∧
      card.supportedInterfaces = []) ∨
    ∃ card ∈ recovery.phase.card, card.supportedInterfaces = []

/-- An entry leaves the head of the queue, which is a move of its own agent alone. -/
theorem head_moves {maxSlots : Nat} {allowed : SlotAccount → Prop} {faulty : Prop}
    {rest : List RecoveryEntry} (free : recovery.phase.entry = none)
    (queued : shared.cancellationQueue = entry :: rest)
    (leaves : entry.agentId = some agentId →
      ((accountOf { shared with cancellationQueue := rest } sends recovery agentId).put
        entry.kind).Move maxSlots allowed faulty
        (accountOf { shared with cancellationQueue := rest } sends recovery agentId)) :
    (accountOf shared sends recovery agentId).Move maxSlots allowed faulty
      (accountOf { shared with cancellationQueue := rest } sends recovery agentId) := by
  by_cases mine : entry.agentId = some agentId
  · rw [accountOf_head_mine free queued mine]
    exact leaves mine
  · rw [accountOf_head_other free queued mine]
    exact .idle

/-- **A segment of the recovery worker is a move of every account.** -/
theorem recovery_moves {maxSlots : Nat} {event : RecoveryEvent} {after : Shared}
    {next : RecoveryWorker} (moved : recovery.Moved shared event after next)
    {allowed : SlotAccount → Prop} {faulty : Prop}
    (covered : event.releases = true → ∀ entry ∈ recovery.phase.entry, entry.kind ≠ .failedTask →
      entry.agentId = some agentId → allowed (accountOf shared sends recovery agentId))
    (faults : RecoveryFault shared recovery event → faulty) :
    (accountOf shared sends recovery agentId).Move maxSlots allowed faulty
      (accountOf after sends next agentId) := by
  cases moved with
  | took free queued held cardOf =>
      rw [accountOf_took free queued held]
      exact .idle
  | gaveUp free queued =>
      rename_i entry rest
      by_cases mine : entry.agentId = some agentId
      · rw [accountOf_gaveUp_mine mine, accountOf_head_mine free queued mine]
        exact SlotAccount.Move.giveUp_put _ _
      · rw [accountOf_gaveUp_other mine, accountOf_head_other free queued mine]
        exact .idle
  | skipped free queued unknown =>
      apply head_moves free queued
      intro mine
      have noCard : shared.registry.cards.get? agentId = none := by
        simpa [RecoveryEntry.card, mine, AgentRegistry.getCard] using unknown
      have absent : shared.registry.contains agentId = false := by
        simp [AgentRegistry.contains, Dict.contains, noCard]
      exact SlotAccount.Move.skip_put _ _ absent
  | tookUnreachable free queued known noInterface =>
      rename_i entry rest card
      have still : accountOf { shared with cancellationQueue := rest } sends
          { recovery with phase := .pausing } agentId =
          accountOf { shared with cancellationQueue := rest } sends recovery agentId :=
        accountOf_phase (by rw [free]; rfl)
      rw [still]
      apply head_moves free queued
      intro mine
      have hasCard : shared.registry.getCard agentId = some card := by
        simpa [RecoveryEntry.card, mine] using known
      have fault : faulty := faults (Or.inr (Or.inl ⟨agentId, card, hasCard, noInterface⟩))
      exact SlotAccount.Move.drop_put _ _ fault
  | kept same cardless =>
      rw [accountOf_phase same]
      exact .idle
  | lostContact held =>
      rename_i entry
      have still : accountOf
          (shared.apply (.updateStatus entry.agentId .broken (some .offline) none)) sends
          { recovery with phase := .sleeping entry } agentId =
          accountOf (shared.apply (.updateStatus entry.agentId .broken (some .offline) none))
            sends recovery agentId := accountOf_phase held.symm
      rw [still]
      by_cases mine : entry.agentId = some agentId
      · rw [mine, accountOf_updateStatus_mine, accountOf_held_mine held mine,
          SlotAccount.updated_put]
        exact SlotAccount.Move.loseContact_put _ _
      · rw [accountOf_updateStatus_other _ _ _ _ mine]
        exact .idle
  | recovered held succeeds =>
      rename_i entry
      by_cases mine : entry.agentId = some agentId
      · have room : entry.kind = .failedTask ∨
            allowed (accountOf shared sends recovery agentId) := by
          by_cases carries : entry.kind = .failedTask
          · exact Or.inl carries
          · exact Or.inr (covered succeeds entry held carries mine)
        rw [accountOf_held_mine held mine] at room ⊢
        rw [mine, accountOf_updateStatus_mine]
        exact SlotAccount.Move.recover_put _ _ room
      · rw [accountOf_updateStatus_other _ _ _ _ mine, accountOf_held_other held mine]
        exact .idle
  | dropped held fault =>
      rename_i entry
      have still : accountOf shared sends { recovery with phase := .pausing } agentId =
          accountOf shared sends { recovery with phase := .waiting } agentId := rfl
      rw [still]
      by_cases mine : entry.agentId = some agentId
      · have isFault : faulty := by
          apply faults
          rcases fault with raised | noInterface
          · exact Or.inl raised
          · exact Or.inr (Or.inr noInterface)
        rw [accountOf_held_mine held mine]
        exact SlotAccount.Move.drop_put _ _ isFault
      · rw [accountOf_held_other held mine]
        exact .idle
  | requeued held =>
      rw [accountOf_requeued held]
      exact .idle

end Recovery

/-! ## Steps of the orchestrator move the account -/

section Steps

variable {config : OrchestratorConfig} {now : Instant} {system next : System}
  {action : SystemAction} {agentId : AgentId}

/-- The step can leave an entry without a slot behind, or lose one: a test worker
runs, or the recovery worker meets an exception. -/
def System.Fault (system : System) : SystemAction → Prop
  | .recovery event => RecoveryFault system.shared system.recovery event
  | .group _ _ => True
  | _ => False

/-- A task that begins is in flight nowhere. -/
theorem accountOf_began {shared : Shared} {sends : Dict TaskId SendTask}
    {recovery : RecoveryWorker} {taskId : TaskId} (fresh : sends.contains taskId = false)
    (registry : AgentRegistry) (taskDescription : String) :
    accountOf shared
        (sends.set taskId ⟨taskDescription, beginSend config registry now taskDescription⟩)
        recovery agentId =
      accountOf shared sends recovery agentId := by
  have outside : (beginSend config registry now taskDescription).busyOn = none :=
    busyOn_of_agentId_none (beginSend_agentId taskDescription)
  have counted := Dict.countValues_set_of_fresh fresh
    ⟨taskDescription, beginSend config registry now taskDescription⟩
    fun task => decide (task.phase.busyOn = some agentId)
  simp only [outside] at counted
  simp only [accountOf, inFlightOn, counted]
  rfl

/-- Registering an agent opens its account. -/
theorem accountOf_register (consistent : system.shared.registry.Consistent)
    {registered : AgentId} (card : AgentCard)
    (fresh : system.shared.registry.contains registered = false)
    (maxSlots : Nat) (allowed : SlotAccount → Prop) (faulty : Prop) :
    (system.account agentId).Move maxSlots allowed faulty
      (accountOf { system.shared with
        registry := system.shared.registry.register registered card } system.sends
        system.recovery agentId) := by
  have contains := AgentRegistry.contains_register system.shared.registry registered card agentId
  have status := consistent.getStatus_register registered card agentId
  have slots := consistent.slots_register registered card agentId
  by_cases mine : agentId = registered
  · subst mine
    have opened : accountOf { system.shared with
        registry := system.shared.registry.register agentId card } system.sends
        system.recovery agentId =
        { system.account agentId with registered := true, status := .available } := by
      ext
      · exact contains.trans (by simp)
      · exact status.trans (by simp [fresh])
      · exact slots
      · rfl
      · rfl
      · rfl
    rw [opened]
    exact .register fresh
  · have still : accountOf { system.shared with
        registry := system.shared.registry.register registered card } system.sends
        system.recovery agentId = system.account agentId := by
      ext
      · exact contains.trans (by simp [mine, System.account, accountOf])
      · exact status.trans (by simp [mine, System.account, accountOf])
      · exact slots
      · rfl
      · rfl
      · rfl
    rw [still]
    exact .idle

/-- A failure handler of a test worker is a crash on its own agent. -/
theorem group_moves {effects : List Effect} {group nextGroup : TestGroup} {event : GroupEvent}
    (stepped : group.Stepped system.shared.registry now event effects nextGroup)
    (maxSlots : Nat) (allowed : SlotAccount → Prop) {faulty : Prop} (fault : faulty) :
    (system.account agentId).Move maxSlots allowed faulty
      (accountOf (system.shared.applyAll effects) system.sends system.recovery agentId) := by
  rcases stepped.handler_cases with ⟨rfl, -⟩ | ⟨index, worker, taskId, -, -, -, -, rfl⟩
  · exact .idle
  · unfold failureEffects
    rw [accountOf_handedOver]
    split
    · exact .crash fault
    · exact .idle

/-- **Simulation.** Every step of the orchestrator is a move of every account. -/
theorem System.account_moves (consistent : system.shared.registry.Consistent)
    (stepped : system.Stepped config now action next) {allowed : SlotAccount → Prop}
    {faulty : Prop}
    (covered : ∀ event, action = .recovery event → event.releases = true →
      ∀ entry ∈ system.recovery.phase.entry, entry.kind ≠ .failedTask →
        entry.agentId = some agentId → allowed (system.account agentId))
    (faults : system.Fault action → faulty) :
    (system.account agentId).Move config.maxSlotsPerAgent allowed faulty
      (next.account agentId) := by
  cases stepped with
  | discovered fresh => exact accountOf_register consistent _ fresh _ _ _
  | began fresh =>
      simp only [System.account, accountOf_began fresh]
      exact .idle
  | task found segment => exact task_moves found (SendTask.moved_of_step segment) allowed faulty
  | recovery moved => exact recovery_moves moved (covered _ rfl) faults
  | healthCheck => exact .idle
  | check does =>
      rcases does with rfl | ⟨probed, isAvailable, rfl⟩
      · exact .idle
      · simp only [System.account, accountOf_handedOver]
        split
        · rename_i mine
          subst mine
          exact .probe isAvailable
        · exact .idle
  | startGroup started => exact .idle
  | group found delivers stepped begins => exact group_moves stepped _ _ (faults trivial)
  | groupBegan found delivers stepped begins fresh =>
      simp only [System.account, accountOf_began fresh]
      exact group_moves stepped _ _ (faults trivial)

/-- The registry stays consistent through every step. -/
theorem System.consistent_step (consistent : system.shared.registry.Consistent)
    (stepped : system.Stepped config now action next) : next.shared.registry.Consistent := by
  cases stepped with
  | discovered fresh => exact consistent.register _ _
  | task found segment => exact Shared.applyAll_consistent consistent _
  | recovery moved =>
      rcases moved.registry_cases with same | ⟨agentId, status, reason, updated⟩
      · rw [same]
        exact consistent
      · rw [updated]
        exact Shared.apply_consistent consistent _
  | check does => exact Shared.applyAll_consistent consistent _
  | group found delivers stepped begins => exact Shared.applyAll_consistent consistent _
  | groupBegan found delivers stepped begins fresh =>
      exact Shared.applyAll_consistent consistent _
  | began fresh => exact consistent
  | healthCheck => exact consistent
  | startGroup started => exact consistent

end Steps

theorem System.account_initial (agentId : AgentId) :
    System.initial.account agentId = ⟨false, .broken, 0, 0, fun _ => 0, fun _ => 0⟩ := rfl

end QuAIA.Orchestrator
