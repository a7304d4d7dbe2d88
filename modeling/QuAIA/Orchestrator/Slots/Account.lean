import Mathlib.Logic.Function.Basic
import QuAIA.Orchestrator.Shared

/-!
Contract: the slot account of one agent, the abstract counterpart of the
registry, the running tasks and the recovery entries seen from that agent.

Owns: the account, the moves that tasks, test workers, the health check and the
recovery worker can make on it, and two invariants of these moves: an exact one
for runs in which every failure puts its own entry, and a bound for all runs in
which a release without a slot of its own finds room.

Does not own: which step of the orchestrator makes which move.
-/

set_option autoImplicit false

namespace QuAIA.Orchestrator

/-- What one agent's slots stand for: running tasks, and recovery entries of each
kind that are waiting or being processed (`pending`) or were given up. -/
@[ext] structure SlotAccount where
  registered : Bool
  status : AgentStatus
  slots : Int
  inFlight : Nat
  pending : EntryKind → Nat
  givenUp : EntryKind → Nat

namespace SlotAccount

/-- A status update, which reaches registered agents only. -/
def updated (account : SlotAccount) (status : AgentStatus) : SlotAccount :=
  if account.registered then
    { account with
      status := AgentRegistry.statusAfter status account.status account.slots
      slots := AgentRegistry.slotsAfter status account.slots }
  else account

def put (account : SlotAccount) (kind : EntryKind) : SlotAccount :=
  { account with
    pending := Function.update account.pending kind (account.pending kind + 1) }

def take (account : SlotAccount) (kind : EntryKind) : SlotAccount :=
  { account with
    pending := Function.update account.pending kind (account.pending kind - 1) }

def abandon (account : SlotAccount) (kind : EntryKind) : SlotAccount :=
  { account.take kind with
    givenUp := Function.update account.givenUp kind (account.givenUp kind + 1) }

/-- One more slot can be released without touching a slot that a running task or
a failed one still stands for. -/
def Covered (account : SlotAccount) : Prop :=
  (account.inFlight + account.pending .failedTask : Int) ≤ max 0 (account.slots - 1)

instance (account : SlotAccount) : Decidable account.Covered :=
  inferInstanceAs (Decidable ((_ : Int) ≤ _))

/-- The moves on an account. A `recover` for an entry without a slot is subject to
`allowed`; a worker's `crash` and a `drop` by an exception of the recovery
worker are subject to `faulty`. -/
inductive Move (maxSlots : Nat) (allowed : SlotAccount → Prop) (faulty : Prop)
    (account : SlotAccount) : SlotAccount → Prop
  | idle : Move maxSlots allowed faulty account account
  | register (unknown : account.registered = false) :
      Move maxSlots allowed faulty account
        { account with registered := true, status := .available }
  | reserve (known : account.registered = true) (notBroken : account.status ≠ .broken)
      (free : account.slots < maxSlots) :
      Move maxSlots allowed faulty account
        { account.updated .busy with inFlight := account.inFlight + 1 }
  | finish (held : 0 < account.inFlight) :
      Move maxSlots allowed faulty account
        { account.updated .available with inFlight := account.inFlight - 1 }
  | fail (held : 0 < account.inFlight) :
      Move maxSlots allowed faulty account
        ({ account.updated .broken with inFlight := account.inFlight - 1 }.put .failedTask)
  | probe (isAvailable : account.status = .available) :
      Move maxSlots allowed faulty account ((account.updated .broken).put .healthCheck)
  | crash (fault : faulty) :
      Move maxSlots allowed faulty account ((account.updated .broken).put .worker)
  | recover {kind : EntryKind} (waits : 0 < account.pending kind)
      (room : kind = .failedTask ∨ allowed account) :
      Move maxSlots allowed faulty account ((account.updated .available).take kind)
  | loseContact {kind : EntryKind} (waits : 0 < account.pending kind) :
      Move maxSlots allowed faulty account (account.updated .broken)
  | giveUp {kind : EntryKind} (waits : 0 < account.pending kind) :
      Move maxSlots allowed faulty account (account.abandon kind)
  | skip {kind : EntryKind} (waits : 0 < account.pending kind)
      (unknown : account.registered = false) :
      Move maxSlots allowed faulty account (account.take kind)
  | drop {kind : EntryKind} (waits : 0 < account.pending kind) (fault : faulty) :
      Move maxSlots allowed faulty account (account.take kind)

section Lemmas

variable (account : SlotAccount) (kind other : EntryKind) (status : AgentStatus)

@[simp] theorem put_pending : (account.put kind).pending other =
    if other = kind then account.pending kind + 1 else account.pending other := by
  simp [put, Function.update_apply]

@[simp] theorem take_pending : (account.take kind).pending other =
    if other = kind then account.pending kind - 1 else account.pending other := by
  simp [take, Function.update_apply]

@[simp] theorem abandon_pending : (account.abandon kind).pending other =
    if other = kind then account.pending kind - 1 else account.pending other := by
  simp [abandon]

@[simp] theorem abandon_givenUp : (account.abandon kind).givenUp other =
    if other = kind then account.givenUp kind + 1 else account.givenUp other := by
  simp [abandon, Function.update_apply]

@[simp] theorem updated_inFlight : (account.updated status).inFlight = account.inFlight := by
  unfold updated
  split <;> rfl

@[simp] theorem updated_pending : (account.updated status).pending = account.pending := by
  unfold updated
  split <;> rfl

@[simp] theorem take_put : (account.put kind).take kind = account := by
  simp [put, take]

theorem abandon_put : (account.put kind).abandon kind =
    { account with
      givenUp := Function.update account.givenUp kind (account.givenUp kind + 1) } := by
  simp [put, abandon, take]

theorem put_waits : 0 < (account.put kind).pending kind := by
  simp

variable {account}

theorem unknown_elim {goal : Prop} (known : account.registered = true)
    (unknown : account.registered = false) : goal :=
  absurd (known.symm.trans unknown) (by decide)

theorem updated_of_registered (known : account.registered = true) :
    account.updated status =
      { account with
        status := AgentRegistry.statusAfter status account.status account.slots
        slots := AgentRegistry.slotsAfter status account.slots } := by
  simp [updated, known]

theorem updated_of_unknown (unknown : account.registered = false) :
    account.updated status = account := by
  simp [updated, unknown]

theorem updated_put : (account.put kind).updated status = (account.updated status).put kind := by
  unfold updated
  split
  · rename_i known
    have known' : account.registered = true := known
    simp [put, known']
  · rename_i unknown
    have unknown' : ¬account.registered = true := unknown
    simp [unknown']

theorem updated_with_inFlight (inFlight : Nat) :
    ({ account with inFlight := inFlight } : SlotAccount).updated status =
      { account.updated status with inFlight := inFlight } := by
  unfold updated
  split
  · rename_i known
    have known' : account.registered = true := known
    simp [known']
  · rename_i unknown
    have unknown' : ¬account.registered = true := unknown
    simp [unknown']

end Lemmas

/-! ## Moves on an entry -/

section EntryMoves

variable {maxSlots : Nat} {allowed : SlotAccount → Prop} {faulty : Prop}
  (account : SlotAccount) (kind : EntryKind)

theorem Move.giveUp_put :
    Move maxSlots allowed faulty (account.put kind)
      { account with
        givenUp := Function.update account.givenUp kind (account.givenUp kind + 1) } := by
  have gaveUp : Move maxSlots allowed faulty (account.put kind) ((account.put kind).abandon kind) :=
    .giveUp (account.put_waits kind)
  rw [abandon_put] at gaveUp
  exact gaveUp

theorem Move.skip_put (unknown : account.registered = false) :
    Move maxSlots allowed faulty (account.put kind) account := by
  have skipped : Move maxSlots allowed faulty (account.put kind) ((account.put kind).take kind) :=
    .skip (account.put_waits kind) unknown
  rw [take_put] at skipped
  exact skipped

theorem Move.drop_put (fault : faulty) :
    Move maxSlots allowed faulty (account.put kind) account := by
  have dropped : Move maxSlots allowed faulty (account.put kind) ((account.put kind).take kind) :=
    .drop (account.put_waits kind) fault
  rw [take_put] at dropped
  exact dropped

/-- An entry released with its agent: the slot count falls and the entry is gone. -/
theorem Move.recover_put (room : kind = .failedTask ∨ allowed (account.put kind)) :
    Move maxSlots allowed faulty (account.put kind) (account.updated .available) := by
  have released : Move maxSlots allowed faulty (account.put kind)
      (((account.put kind).updated .available).take kind) :=
    .recover (account.put_waits kind) room
  rw [updated_put, take_put] at released
  exact released

theorem Move.loseContact_put :
    Move maxSlots allowed faulty (account.put kind) ((account.updated .broken).put kind) := by
  have lost : Move maxSlots allowed faulty (account.put kind)
      ((account.put kind).updated .broken) := .loseContact (account.put_waits kind)
  rw [updated_put] at lost
  exact lost

end EntryMoves

/-! ## The bound -/

/-- Every slot that a running task, or a failed one that waits for recovery,
stands for is counted. -/
structure Bounded (maxSlots : Nat) (account : SlotAccount) : Prop where
  unknown : account.registered = false → account.slots = 0
  capped : account.slots ≤ maxSlots
  room : (account.inFlight + account.pending .failedTask : Int) ≤ account.slots

section Bound

variable {maxSlots : Nat} {account next : SlotAccount}

/-- A slot that something stands for belongs to a registered agent. -/
theorem Bounded.registered (bounded : account.Bounded maxSlots)
    (held : 0 < account.inFlight + account.pending .failedTask) : account.registered = true := by
  have room := bounded.room
  cases known : account.registered with
  | true => rfl
  | false =>
      have zero := bounded.unknown known
      omega

/-- Marking an agent as broken moves no slot. -/
theorem Bounded.broken (bounded : account.Bounded maxSlots) :
    (account.updated .broken).Bounded maxSlots := by
  unfold updated
  split
  · exact ⟨fun unknown => bounded.unknown unknown, bounded.capped, bounded.room⟩
  · exact bounded

theorem Bounded.put (bounded : account.Bounded maxSlots) {kind : EntryKind}
    (slotless : kind ≠ .failedTask) : (account.put kind).Bounded maxSlots where
  unknown := bounded.unknown
  capped := bounded.capped
  room := by
    rw [put_pending, if_neg slotless.symm]
    exact bounded.room

/-- An entry that leaves the queue makes room. -/
theorem Bounded.take (bounded : account.Bounded maxSlots) (kind : EntryKind) :
    (account.take kind).Bounded maxSlots where
  unknown := bounded.unknown
  capped := bounded.capped
  room := by
    have room := bounded.room
    have fewer : (account.take kind).pending .failedTask ≤ account.pending .failedTask := by
      rw [take_pending]
      split
      · rename_i same
        rw [same]
        omega
      · exact Nat.le_refl _
    show (account.inFlight + (account.take kind).pending .failedTask : Int) ≤ account.slots
    omega

theorem Bounded.abandon (bounded : account.Bounded maxSlots) (kind : EntryKind) :
    (account.abandon kind).Bounded maxSlots :=
  have taken := bounded.take kind
  ⟨taken.unknown, taken.capped, taken.room⟩

/-- A release for a failed task gives back the slot that its entry stood for. -/
theorem Bounded.recover_failedTask (bounded : account.Bounded maxSlots)
    (waits : 0 < account.pending .failedTask) :
    ((account.updated .available).take .failedTask).Bounded maxSlots := by
  have known := bounded.registered (by omega)
  have capped := bounded.capped
  have room := bounded.room
  rw [updated_of_registered _ known]
  refine ⟨fun unknown => ?_, ?_, ?_⟩
  · exact unknown_elim known unknown
  · simp only [SlotAccount.take, AgentRegistry.slotsAfter]
    omega
  · simp only [SlotAccount.take, AgentRegistry.slotsAfter, Function.update_self]
    omega

/-- A release without a slot of its own keeps the bound when it is covered. -/
theorem Bounded.recover_covered (bounded : account.Bounded maxSlots)
    (covered : account.Covered) (kind : EntryKind) :
    ((account.updated .available).take kind).Bounded maxSlots := by
  apply Bounded.take
  have capped := bounded.capped
  unfold Covered at covered
  cases known : account.registered with
  | true =>
      rw [updated_of_registered _ known]
      refine ⟨fun unknown => ?_, ?_, covered⟩
      · exact unknown_elim known unknown
      · simp only [AgentRegistry.slotsAfter]
        omega
  | false =>
      rw [updated_of_unknown _ known]
      exact bounded

/-- **The bound holds through every move** whose slotless releases are
covered. -/
theorem Bounded.move {faulty : Prop} (bounded : account.Bounded maxSlots)
    (moved : account.Move maxSlots Covered faulty next) : next.Bounded maxSlots := by
  have capped := bounded.capped
  have room := bounded.room
  cases moved with
  | idle => exact bounded
  | register unknown =>
      exact ⟨nofun, capped, room⟩
  | reserve known notBroken free =>
      rw [updated_of_registered _ known]
      refine ⟨fun unknown => ?_, ?_, ?_⟩
      · exact unknown_elim known unknown
      · simp only [AgentRegistry.slotsAfter]
        omega
      · simp only [AgentRegistry.slotsAfter]
        omega
  | finish held =>
      have known := bounded.registered (by omega)
      rw [updated_of_registered _ known]
      refine ⟨fun unknown => ?_, ?_, ?_⟩
      · exact unknown_elim known unknown
      · simp only [AgentRegistry.slotsAfter]
        omega
      · simp only [AgentRegistry.slotsAfter]
        omega
  | fail held =>
      have known := bounded.registered (by omega)
      rw [updated_of_registered _ known]
      refine ⟨fun unknown => ?_, capped, ?_⟩
      · exact unknown_elim known unknown
      · simp only [SlotAccount.put, AgentRegistry.slotsAfter, Function.update_self]
        omega
  | probe isAvailable => exact bounded.broken.put (by decide)
  | crash fault => exact bounded.broken.put (by decide)
  | recover waits allowed =>
      rename_i kind
      rcases allowed with rfl | covered
      · exact bounded.recover_failedTask waits
      · exact bounded.recover_covered covered kind
  | loseContact waits => exact bounded.broken
  | giveUp waits =>
      rename_i kind
      exact bounded.abandon kind
  | skip waits unknown =>
      rename_i kind
      exact bounded.take kind
  | drop waits fault =>
      rename_i kind
      exact bounded.take kind

end Bound

/-! ## The exact account -/

/-- Without faults, the slots of an agent are exactly its running tasks and the
failed ones that were not recovered. An entry of the health check occupies the
agent alone. -/
structure Exact (maxSlots : Nat) (account : SlotAccount) : Prop where
  unknown : account.registered = false → account.status = .broken ∧ account.slots = 0
  capped : account.slots ≤ maxSlots
  balance : account.slots =
    account.inFlight + account.pending .failedTask + account.givenUp .failedTask
  noCrash : account.pending .worker = 0
  probedOnce : account.pending .healthCheck ≤ 1
  probed : 0 < account.pending .healthCheck →
    account.registered = true ∧ account.status = .broken ∧ account.slots = 0
  idle : account.status = .available → account.slots = 0
  broken : account.registered = true → account.status = .broken →
    0 < account.inFlight ∨ (∃ kind, 0 < account.pending kind) ∨
      ∃ kind, 0 < account.givenUp kind

section Exactness

variable {maxSlots : Nat} {account next : SlotAccount}

theorem Exact.registered (exact : account.Exact maxSlots) (held : 0 < account.slots) :
    account.registered = true := by
  cases known : account.registered with
  | true => rfl
  | false =>
      have zero := (exact.unknown known).2
      omega

/-- A pending entry belongs to a registered agent. -/
theorem Exact.registered_of_pending (exact : account.Exact maxSlots) {kind : EntryKind}
    (waits : 0 < account.pending kind) : account.registered = true := by
  have balance := exact.balance
  cases kind with
  | failedTask => exact exact.registered (by omega)
  | healthCheck => exact (exact.probed waits).1
  | worker =>
      have none := exact.noCrash
      omega

/-- While a slot is taken, no entry of the health check is pending. -/
theorem Exact.not_probed (exact : account.Exact maxSlots) (held : 0 < account.slots) :
    account.pending .healthCheck = 0 := by
  by_contra probed
  have zero := (exact.probed (Nat.pos_of_ne_zero probed)).2.2
  omega

/-- Releasing one of several slots leaves the status, releasing the last one
makes the agent available. -/
theorem updated_available (known : account.registered = true) (held : 0 < account.slots) :
    account.updated .available =
      { account with
        status := if account.slots = 1 then .available else account.status
        slots := account.slots - 1 } := by
  have released : max 0 (account.slots - 1) = account.slots - 1 := by omega
  have last : account.slots - 1 = 0 ↔ account.slots = 1 := by omega
  rw [updated_of_registered _ known]
  simp only [AgentRegistry.statusAfter, AgentRegistry.slotsAfter, released, last]

theorem Exact.register (exact : account.Exact maxSlots) (unknown : account.registered = false) :
    ({ account with registered := true, status := .available } : SlotAccount).Exact
      maxSlots where
  unknown := nofun
  capped := exact.capped
  balance := exact.balance
  noCrash := exact.noCrash
  probedOnce := exact.probedOnce
  probed probed := by
    have known := (exact.probed probed).1
    exact unknown_elim known unknown
  idle _ := (exact.unknown unknown).2
  broken _ := nofun

theorem Exact.reserve (exact : account.Exact maxSlots) (known : account.registered = true)
    (notBroken : account.status ≠ .broken) (free : account.slots < maxSlots) :
    ({ account.updated .busy with inFlight := account.inFlight + 1 } : SlotAccount).Exact
      maxSlots := by
  have balance := exact.balance
  rw [updated_of_registered _ known]
  exact {
    unknown := fun unknown => unknown_elim known unknown
    capped := by
      simp only [AgentRegistry.slotsAfter]
      omega
    balance := by
      simp only [AgentRegistry.slotsAfter]
      omega
    noCrash := exact.noCrash
    probedOnce := exact.probedOnce
    probed := fun probed => absurd (exact.probed probed).2.1 notBroken
    idle := nofun
    broken := fun _ => nofun }

/-- A slot is released, and what stood for it, a running task or an entry, is
gone. -/
theorem Exact.release (exact : account.Exact maxSlots) (held : 0 < account.slots)
    {inFlight : Nat} {pending : EntryKind → Nat}
    (fewer : inFlight + pending .failedTask + 1 =
      account.inFlight + account.pending .failedTask)
    (probes : pending .healthCheck = account.pending .healthCheck)
    (workers : pending .worker = account.pending .worker) :
    ({ account.updated .available with inFlight := inFlight, pending := pending } :
      SlotAccount).Exact maxSlots := by
  have known := exact.registered held
  have capped := exact.capped
  have balance := exact.balance
  have noProbe := exact.not_probed held
  rw [updated_available known held]
  exact {
    unknown := fun unknown => unknown_elim known unknown
    capped := by
      show account.slots - 1 ≤ maxSlots
      omega
    balance := by
      show account.slots - 1 = inFlight + pending .failedTask + account.givenUp .failedTask
      omega
    noCrash := workers.trans exact.noCrash
    probedOnce := by
      show pending .healthCheck ≤ 1
      omega
    probed := fun probed => by
      have positive : 0 < pending .healthCheck := probed
      omega
    idle := fun isAvailable => by
      show account.slots - 1 = 0
      dsimp only at isAvailable
      split at isAvailable
      · omega
      · have zero := exact.idle isAvailable
        omega
    broken := fun _ isBroken => by
      dsimp only at isBroken ⊢
      split at isBroken
      · cases isBroken
      · -- Another slot is taken, and something stands for it.
        by_cases running : 0 < inFlight
        · exact Or.inl running
        · by_cases waiting : 0 < pending .failedTask
          · exact Or.inr (Or.inl ⟨.failedTask, waiting⟩)
          · exact Or.inr (Or.inr ⟨.failedTask, by omega⟩) }

theorem Exact.fail (exact : account.Exact maxSlots) (held : 0 < account.inFlight) :
    ({ account.updated .broken with inFlight := account.inFlight - 1 }.put .failedTask).Exact
      maxSlots := by
  have balance := exact.balance
  have taken : 0 < account.slots := by omega
  have known := exact.registered taken
  have noProbe := exact.not_probed taken
  rw [updated_of_registered _ known]
  exact {
    unknown := fun unknown => unknown_elim known unknown
    capped := exact.capped
    balance := by
      rw [put_pending, if_pos rfl]
      simp only [put, AgentRegistry.slotsAfter]
      omega
    noCrash := by
      rw [put_pending, if_neg (by decide)]
      exact exact.noCrash
    probedOnce := by
      rw [put_pending, if_neg (by decide)]
      exact exact.probedOnce
    probed := fun probed => by
      rw [put_pending, if_neg (by decide)] at probed
      have positive : 0 < account.pending .healthCheck := probed
      omega
    idle := nofun
    broken := fun _ _ => by
      refine Or.inr (Or.inl ⟨.failedTask, ?_⟩)
      rw [put_pending, if_pos rfl]
      exact Nat.succ_pos _ }

theorem Exact.probe (exact : account.Exact maxSlots) (isAvailable : account.status = .available) :
    ((account.updated .broken).put .healthCheck).Exact maxSlots := by
  have zero := exact.idle isAvailable
  have known : account.registered = true := by
    cases known : account.registered with
    | true => rfl
    | false =>
        have isBroken := (exact.unknown known).1
        rw [isAvailable] at isBroken
        cases isBroken
  have noProbe : account.pending .healthCheck = 0 := by
    by_contra probed
    have isBroken := (exact.probed (Nat.pos_of_ne_zero probed)).2.1
    rw [isAvailable] at isBroken
    cases isBroken
  rw [updated_of_registered _ known]
  exact {
    unknown := fun unknown => unknown_elim known unknown
    capped := exact.capped
    balance := by
      rw [put_pending, if_neg (by decide)]
      exact exact.balance
    noCrash := by
      rw [put_pending, if_neg (by decide)]
      exact exact.noCrash
    probedOnce := by
      rw [put_pending, if_pos rfl]
      show account.pending .healthCheck + 1 ≤ 1
      omega
    probed := fun _ => ⟨known, rfl, zero⟩
    idle := nofun
    broken := fun _ _ => by
      refine Or.inr (Or.inl ⟨.healthCheck, ?_⟩)
      rw [put_pending, if_pos rfl]
      exact Nat.succ_pos _ }

/-- Recovering an agent that the health check found unreachable makes it
available again. -/
theorem Exact.recover_healthCheck (exact : account.Exact maxSlots)
    (waits : 0 < account.pending .healthCheck) :
    ((account.updated .available).take .healthCheck).Exact maxSlots := by
  obtain ⟨known, isBroken, zero⟩ := exact.probed waits
  have once := exact.probedOnce
  have released : account.updated .available = { account with status := .available } := by
    rw [updated_of_registered _ known]
    simp [AgentRegistry.statusAfter, AgentRegistry.slotsAfter, zero]
  rw [released]
  exact {
    unknown := fun unknown => unknown_elim known unknown
    capped := exact.capped
    balance := by
      rw [take_pending, if_neg (by decide)]
      exact exact.balance
    noCrash := by
      rw [take_pending, if_neg (by decide)]
      exact exact.noCrash
    probedOnce := by
      rw [take_pending, if_pos rfl]
      show account.pending .healthCheck - 1 ≤ 1
      omega
    probed := fun probed => by
      rw [take_pending, if_pos rfl] at probed
      have positive : 0 < account.pending .healthCheck - 1 := probed
      omega
    idle := fun _ => zero
    broken := by
      intro _ isBroken
      cases isBroken }

theorem Exact.loseContact (exact : account.Exact maxSlots) {kind : EntryKind}
    (waits : 0 < account.pending kind) : (account.updated .broken).Exact maxSlots := by
  have known := exact.registered_of_pending waits
  rw [updated_of_registered _ known]
  exact {
    unknown := fun unknown => unknown_elim known unknown
    capped := exact.capped
    balance := exact.balance
    noCrash := exact.noCrash
    probedOnce := exact.probedOnce
    probed := fun probed => ⟨known, rfl, (exact.probed probed).2.2⟩
    idle := nofun
    broken := fun _ _ => Or.inr (Or.inl ⟨kind, waits⟩) }

theorem Exact.giveUp (exact : account.Exact maxSlots) {kind : EntryKind}
    (waits : 0 < account.pending kind) : (account.abandon kind).Exact maxSlots where
  unknown := exact.unknown
  capped := exact.capped
  balance := by
    have balance := exact.balance
    rw [abandon_pending, abandon_givenUp]
    show account.slots = account.inFlight + _ + _
    cases kind with
    | failedTask =>
        simp only [if_true]
        omega
    | healthCheck => simpa using balance
    | worker => simpa using balance
  noCrash := by
    have noCrash := exact.noCrash
    rw [abandon_pending]
    split
    · rename_i same
      rw [← same]
      omega
    · exact noCrash
  probedOnce := by
    have once := exact.probedOnce
    rw [abandon_pending]
    split
    · rename_i same
      rw [← same]
      omega
    · exact once
  probed probed := by
    apply exact.probed
    rw [abandon_pending] at probed
    split at probed
    · rename_i same
      rw [same]
      omega
    · exact probed
  idle := exact.idle
  broken _ _ := by
    refine Or.inr (Or.inr ⟨kind, ?_⟩)
    rw [abandon_givenUp, if_pos rfl]
    exact Nat.succ_pos _

/-- **The account stays exact through every move** of a run without faults. -/
theorem Exact.move (exact : account.Exact maxSlots)
    (moved : account.Move maxSlots (fun _ => True) False next) : next.Exact maxSlots := by
  have balance := exact.balance
  cases moved with
  | idle => exact exact
  | register unknown => exact exact.register unknown
  | reserve known notBroken free => exact exact.reserve known notBroken free
  | finish held =>
      apply exact.release
      · omega
      · rw [updated_pending]
        omega
      · rw [updated_pending]
      · rw [updated_pending]
  | fail held => exact exact.fail held
  | probe isAvailable => exact exact.probe isAvailable
  | crash fault => exact fault.elim
  | recover waits allowed =>
      rename_i kind
      cases kind with
      | failedTask =>
          apply exact.release
          · omega
          · simp only [updated_inFlight, updated_pending, Function.update_self]
            omega
          · simp
          · simp
      | healthCheck => exact exact.recover_healthCheck waits
      | worker =>
          have none := exact.noCrash
          omega
  | loseContact waits => exact exact.loseContact waits
  | giveUp waits => exact exact.giveUp waits
  | skip waits unknown =>
      have known := exact.registered_of_pending waits
      exact unknown_elim known unknown
  | drop waits fault => exact fault.elim

end Exactness

end SlotAccount

end QuAIA.Orchestrator
