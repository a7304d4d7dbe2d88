import Mathlib.Algebra.BigOperators.Group.List.Basic
import QuAIA.Library.ListReplace
import QuAIA.Library.Semaphore
import QuAIA.Library.StepSystem

/-!
Contract: requests that are made by a task each and gathered in their order.

Owns: the segments of the tasks, with or without a semaphore; that each request is made once;
that the tasks come to an end; and that what is gathered does not depend on the order in which
the answers come.

Does not own: the answers, which are any function of the requests, and may stand for failures.
-/

set_option autoImplicit false

namespace QuAIA.Library

universe u v

/-- Where a task is: created, waiting for a permit, waiting for its answer, or over. -/
inductive CallPhase (ρ : Type v) where
  | scheduled
  | waiting
  | running
  | ended (answer : ρ)

structure GatheredCall (κ : Type u) (ρ : Type v) where
  request : κ
  phase : CallPhase ρ

/-- A task has the index of its creation. The requests that were made are bookkeeping, which
no step reads. -/
structure Gathering (κ : Type u) (ρ : Type v) where
  semaphore : Option (Semaphore Nat)
  calls : List (GatheredCall κ ρ)
  submitted : List κ

inductive GatherEvent where
  | begun (index : Nat)
  | resumed (index : Nat)
  | answered (index : Nat)
deriving DecidableEq, Repr

namespace Gathering

variable {κ : Type u} {ρ : Type v}

def initial (limit : Option Nat) (requests : List κ) : Gathering κ ρ :=
  ⟨limit.map .new, requests.map fun request => ⟨request, .scheduled⟩, []⟩

/-- Without a semaphore nothing has to be acquired. -/
def acquire : Option (Semaphore Nat) → Option (Option (Semaphore Nat))
  | none => some none
  | some semaphore => semaphore.tryAcquire.map some

/-- The task makes its request. -/
def submit (gathering : Gathering κ ρ) (semaphore : Option (Semaphore Nat)) (index : Nat)
    (request : κ) : Gathering κ ρ where
  semaphore := semaphore
  calls := gathering.calls.set index ⟨request, .running⟩
  submitted := gathering.submitted ++ [request]

def suspend (gathering : Gathering κ ρ) (index : Nat) (request : κ) : Gathering κ ρ :=
  { gathering with
    semaphore := gathering.semaphore.map fun semaphore => semaphore.wait index
    calls := gathering.calls.set index ⟨request, .waiting⟩ }

def finish (gathering : Gathering κ ρ) (index : Nat) (request : κ) (answer : ρ) :
    Gathering κ ρ :=
  { gathering with
    semaphore := gathering.semaphore.map Semaphore.release
    calls := gathering.calls.set index ⟨request, .ended answer⟩ }

def step (respond : κ → ρ) (gathering : Gathering κ ρ) : GatherEvent → Option (Gathering κ ρ)
  | .begun index =>
      match gathering.calls[index]? with
      | some ⟨request, .scheduled⟩ =>
          match acquire gathering.semaphore with
          | some semaphore => some (gathering.submit semaphore index request)
          | none => some (gathering.suspend index request)
      | _ => none
  | .resumed index =>
      match gathering.calls[index]? with
      | some ⟨request, .waiting⟩ =>
          (gathering.semaphore.bind fun semaphore => semaphore.resume index).map fun semaphore =>
            gathering.submit (some semaphore) index request
      | _ => none
  | .answered index =>
      match gathering.calls[index]? with
      | some ⟨request, .running⟩ => some (gathering.finish index request (respond request))
      | _ => none

end Gathering

def CallPhase.answer? {ρ : Type v} : CallPhase ρ → Option ρ
  | .ended answer => some answer
  | _ => none

namespace Gathering

variable {κ : Type u} {ρ : Type v}

def finished (gathering : Gathering κ ρ) : Bool :=
  gathering.calls.all fun call => call.phase.answer?.isSome

/-- What is gathered when all tasks are over, in the order of the tasks. -/
def answers (gathering : Gathering κ ρ) : List ρ :=
  gathering.calls.filterMap fun call => call.phase.answer?

end Gathering

/-! ## The account -/

section Account

variable {κ : Type u} {ρ : Type v}

/-- The request was made. -/
def CallPhase.isStarted : CallPhase ρ → Bool
  | .scheduled => false
  | .waiting => false
  | .running => true
  | .ended _ => true

def CallPhase.isRunning : CallPhase ρ → Bool
  | .running => true
  | _ => false

/-- The number of steps that a task has before it. -/
def CallPhase.remaining : CallPhase ρ → Nat
  | .scheduled => 3
  | .waiting => 2
  | .running => 1
  | .ended _ => 0

namespace Gathering

def running (gathering : Gathering κ ρ) : Nat :=
  gathering.calls.countP fun call => call.phase.isRunning

def remaining (gathering : Gathering κ ρ) : Nat :=
  (gathering.calls.map fun call => call.phase.remaining).sum

/-- The requests of the tasks that have made theirs. -/
def started (gathering : Gathering κ ρ) : List κ :=
  (gathering.calls.filter fun call => call.phase.isStarted).map GatheredCall.request

def Waits (gathering : Gathering κ ρ) (index : Nat) : Prop :=
  ∃ request, gathering.calls[index]? = some ⟨request, .waiting⟩

/-- The waiting tasks are those of the semaphore, and without one nobody waits. -/
def Guarded (limit : Option Nat) (gathering : Gathering κ ρ) : Prop :=
  match limit, gathering.semaphore with
  | some limit, some semaphore =>
      semaphore.Guards limit gathering.running gathering.Waits
  | none, none => ∀ index, ¬gathering.Waits index
  | _, _ => False

/-- The tasks keep their requests, have the answers to them, and have made them once. -/
structure Sound (respond : κ → ρ) (requests : List κ) (gathering : Gathering κ ρ) : Prop where
  requests : gathering.calls.map GatheredCall.request = requests
  answers : ∀ call ∈ gathering.calls, ∀ answer, call.phase = .ended answer →
    answer = respond call.request
  submitted : gathering.submitted.Perm gathering.started

/-! ## Steps -/

variable {respond : κ → ρ} {limit : Option Nat} {requests : List κ}
  {gathering next : Gathering κ ρ} {index : Nat} {request : κ} {old new : CallPhase ρ}

/-- The steps, each with what it found. -/
inductive Stepped (respond : κ → ρ) (gathering : Gathering κ ρ) :
    GatherEvent → Gathering κ ρ → Prop
  | submitted {index : Nat} {request : κ} {semaphore : Option (Semaphore Nat)}
      (found : gathering.calls[index]? = some ⟨request, .scheduled⟩)
      (acquired : acquire gathering.semaphore = some semaphore) :
      Stepped respond gathering (.begun index) (gathering.submit semaphore index request)
  | suspended {index : Nat} {request : κ}
      (found : gathering.calls[index]? = some ⟨request, .scheduled⟩)
      (failed : acquire gathering.semaphore = none) :
      Stepped respond gathering (.begun index) (gathering.suspend index request)
  | resumed {index : Nat} {request : κ} {semaphore left : Semaphore Nat}
      (found : gathering.calls[index]? = some ⟨request, .waiting⟩)
      (guard : gathering.semaphore = some semaphore)
      (acquired : semaphore.resume index = some left) :
      Stepped respond gathering (.resumed index) (gathering.submit (some left) index request)
  | finished {index : Nat} {request : κ}
      (found : gathering.calls[index]? = some ⟨request, .running⟩) :
      Stepped respond gathering (.answered index)
        (gathering.finish index request (respond request))

theorem stepped_of_step {event : GatherEvent}
    (isStep : step respond gathering event = some next) :
    Stepped respond gathering event next := by
  cases event with
  | begun index =>
      simp only [step] at isStep
      split at isStep
      · rename_i request found
        split at isStep
        · rename_i semaphore acquired
          cases isStep
          exact .submitted found acquired
        · rename_i failed
          cases isStep
          exact .suspended found failed
      · cases isStep
  | resumed index =>
      simp only [step] at isStep
      split at isStep
      · rename_i request found
        obtain ⟨left, bound, rfl⟩ := Option.map_eq_some_iff.mp isStep
        obtain ⟨semaphore, guard, acquired⟩ := Option.bind_eq_some_iff.mp bound
        exact .resumed found guard acquired
      · cases isStep
  | answered index =>
      simp only [step] at isStep
      split at isStep
      · rename_i request found
        cases isStep
        exact .finished found
      · cases isStep

/-- How a task moves on. -/
inductive Moves (answer : ρ) : CallPhase ρ → CallPhase ρ → Prop
  | begins : Moves answer .scheduled .running
  | waits : Moves answer .scheduled .waiting
  | resumes : Moves answer .waiting .running
  | ends : Moves answer .running (.ended answer)

/-- What every step does: one task moves on, and it makes its request when it starts. -/
theorem moved_of_stepped {event : GatherEvent} (stepped : Stepped respond gathering event next) :
    ∃ index request old new, gathering.calls[index]? = some ⟨request, old⟩ ∧
      Moves (respond request) old new ∧ next.calls = gathering.calls.set index ⟨request, new⟩ ∧
      next.submitted = gathering.submitted ++
        if new.isStarted && !old.isStarted then [request] else [] := by
  cases stepped with
  | submitted found _ => exact ⟨_, _, _, _, found, .begins, rfl, rfl⟩
  | suspended found _ => exact ⟨_, _, _, _, found, .waits, rfl, (List.append_nil _).symm⟩
  | resumed found _ _ => exact ⟨_, _, _, _, found, .resumes, rfl, rfl⟩
  | finished found => exact ⟨_, _, _, _, found, .ends, rfl, (List.append_nil _).symm⟩

/-- Every step brings the end nearer. -/
theorem remaining_of_stepped {event : GatherEvent}
    (stepped : Stepped respond gathering event next) : next.remaining < gathering.remaining := by
  obtain ⟨index, request, old, new, found, moves, moved, -⟩ := moved_of_stepped stepped
  obtain ⟨before, after, split, updated⟩ := exists_split_of_getElem? found ⟨request, new⟩
  have less : new.remaining < old.remaining := by
    cases moves <;> simp [CallPhase.remaining]
  unfold remaining
  rw [moved, updated, split]
  simp only [List.map_append, List.map_cons, List.sum_append, List.sum_cons]
  omega

/-- A task enters the started ones when it makes its request. -/
theorem started_of_moved (found : gathering.calls[index]? = some ⟨request, old⟩)
    (moves : Moves (respond request) old new)
    (moved : next.calls = gathering.calls.set index ⟨request, new⟩) :
    next.started.Perm (gathering.started ++
      if new.isStarted && !old.isStarted then [request] else []) := by
  obtain ⟨before, after, split, updated⟩ := exists_split_of_getElem? found ⟨request, new⟩
  unfold started
  rw [moved, updated, split, List.filter_append, List.filter_append, List.map_append,
    List.map_append, List.append_assoc]
  refine List.Perm.append_left _ ?_
  cases moves with
  | begins => exact (List.perm_append_singleton _ _).symm
  | resumes => exact (List.perm_append_singleton _ _).symm
  | waits => exact List.Perm.of_eq (List.append_nil _).symm
  | ends => exact List.Perm.of_eq (List.append_nil _).symm

theorem sound_step {event : GatherEvent} (sound : gathering.Sound respond requests)
    (stepped : Stepped respond gathering event next) : next.Sound respond requests := by
  obtain ⟨index, request, old, new, found, moves, moved, made⟩ := moved_of_stepped stepped
  refine ⟨?_, ?_, ?_⟩
  · obtain ⟨before, after, split, updated⟩ := exists_split_of_getElem? found ⟨request, new⟩
    rw [moved, updated, ← sound.requests, split]
    simp
  · rw [moved]
    refine forall_mem_set sound.answers fun answer isEnded => ?_
    cases moves with
    | ends => exact (CallPhase.ended.inj isEnded).symm
    | _ => cases isEnded
  · rw [made]
    exact (sound.submitted.append_right _).trans (started_of_moved found moves moved).symm

/-! ## The semaphore -/

theorem waits_of_set (found : gathering.calls[index]? = some ⟨request, old⟩)
    (moved : next.calls = gathering.calls.set index ⟨request, new⟩) (other : Nat) :
    next.Waits other ↔
      (other = index ∧ new = .waiting) ∨ (other ≠ index ∧ gathering.Waits other) := by
  obtain ⟨inside, -⟩ := List.getElem?_eq_some_iff.mp found
  unfold Waits
  rw [moved]
  by_cases same : other = index
  · subst same
    simp [List.getElem?_set_self inside]
  · rw [List.getElem?_set_ne (Ne.symm same)]
    simp [same]

theorem waits_iff_of_found (found : gathering.calls[index]? = some ⟨request, old⟩) :
    gathering.Waits index ↔ old = .waiting := by
  simp [Waits, found]

theorem running_of_set (found : gathering.calls[index]? = some ⟨request, old⟩)
    (moved : next.calls = gathering.calls.set index ⟨request, new⟩) :
    next.running + old.isRunning.toNat = gathering.running + new.isRunning.toNat := by
  rw [running, moved]
  exact countP_set_of_getElem? found ⟨request, new⟩ fun call => call.phase.isRunning

/-- Nothing changes for the waiting tasks when one that does not wait moves on. -/
theorem waits_unchanged (found : gathering.calls[index]? = some ⟨request, old⟩)
    (moved : next.calls = gathering.calls.set index ⟨request, new⟩)
    (before : old ≠ .waiting) (after : new ≠ .waiting) (other : Nat) :
    next.Waits other ↔ gathering.Waits other := by
  rw [waits_of_set found moved]
  by_cases same : other = index
  · subst same
    simp [after, waits_iff_of_found found, before]
  · simp [same]

theorem guarded_cases (guarded : gathering.Guarded limit) :
    (limit = none ∧ gathering.semaphore = none ∧ ∀ index, ¬gathering.Waits index) ∨
      ∃ count semaphore, limit = some count ∧ gathering.semaphore = some semaphore ∧
        semaphore.Guards count gathering.running gathering.Waits := by
  unfold Guarded at guarded
  split at guarded
  · rename_i count semaphore isSome
    exact .inr ⟨count, semaphore, rfl, isSome, guarded⟩
  · rename_i isNone
    exact .inl ⟨rfl, isNone, guarded⟩
  · exact guarded.elim

theorem guarded_of_guards {count : Nat} {semaphore : Semaphore Nat}
    (isSome : gathering.semaphore = some semaphore)
    (guards : semaphore.Guards count gathering.running gathering.Waits) :
    gathering.Guarded (some count) := by
  unfold Guarded
  rw [isSome]
  exact guards

theorem guarded_of_none (isNone : gathering.semaphore = none)
    (nobody : ∀ index, ¬gathering.Waits index) : gathering.Guarded none := by
  unfold Guarded
  rw [isNone]
  exact nobody

theorem guarded_submit (guarded : gathering.Guarded limit) {semaphore : Option (Semaphore Nat)}
    (found : gathering.calls[index]? = some ⟨request, .scheduled⟩)
    (acquired : acquire gathering.semaphore = some semaphore) :
    (gathering.submit semaphore index request).Guarded limit := by
  have moved : (gathering.submit semaphore index request).calls =
      gathering.calls.set index ⟨request, .running⟩ := rfl
  have waits := waits_unchanged found moved nofun nofun
  have runs : (gathering.submit semaphore index request).running = gathering.running + 1 :=
    (running_of_set found moved :)
  rcases guarded_cases guarded with ⟨rfl, isNone, nobody⟩ | ⟨count, held, rfl, isSome, guards⟩
  · rw [isNone] at acquired
    cases acquired
    exact guarded_of_none rfl fun other isWaiting => nobody other ((waits other).mp isWaiting)
  · rw [isSome] at acquired
    obtain ⟨left, acquires, rfl⟩ := Option.map_eq_some_iff.mp acquired
    refine guarded_of_guards rfl ?_
    rw [runs]
    exact (guards.acquired acquires).congr waits

/-- Who is suspended is a new waiter, and there is a semaphore. -/
theorem guarded_suspend (guarded : gathering.Guarded limit)
    (found : gathering.calls[index]? = some ⟨request, .scheduled⟩)
    (failed : acquire gathering.semaphore = none) :
    (gathering.suspend index request).Guarded limit := by
  have moved : (gathering.suspend index request).calls =
      gathering.calls.set index ⟨request, .waiting⟩ := rfl
  have waits := waits_of_set found moved
  have runs : (gathering.suspend index request).running = gathering.running :=
    (running_of_set found moved :)
  have newcomer : ¬gathering.Waits index := by
    rw [waits_iff_of_found found]
    nofun
  rcases guarded_cases guarded with ⟨rfl, isNone, nobody⟩ | ⟨count, held, rfl, isSome, guards⟩
  · rw [isNone] at failed
    cases failed
  · rw [isSome] at failed
    have sleeps := guards.waited (Option.map_eq_none_iff.mp failed) newcomer
    refine guarded_of_guards (by rw [suspend, isSome]; rfl) ?_
    rw [runs]
    refine sleeps.congr fun other => ?_
    rw [waits]
    by_cases same : other = index
    · simp [same]
    · simp [same]

theorem guarded_resume (guarded : gathering.Guarded limit) {semaphore left : Semaphore Nat}
    (found : gathering.calls[index]? = some ⟨request, .waiting⟩)
    (guard : gathering.semaphore = some semaphore)
    (acquired : semaphore.resume index = some left) :
    (gathering.submit (some left) index request).Guarded limit := by
  have moved : (gathering.submit (some left) index request).calls =
      gathering.calls.set index ⟨request, .running⟩ := rfl
  have waits := waits_of_set found moved
  have runs : (gathering.submit (some left) index request).running = gathering.running + 1 :=
    (running_of_set found moved :)
  rcases guarded_cases guarded with ⟨rfl, isNone, -⟩ | ⟨count, held, rfl, isSome, guards⟩
  · rw [isNone] at guard
    cases guard
  · obtain rfl : held = semaphore := Option.some.inj (isSome.symm.trans guard)
    refine guarded_of_guards rfl ?_
    rw [runs]
    refine (guards.resumed acquired).congr fun other => ?_
    rw [waits]
    simp [and_comm]

theorem guarded_finish (guarded : gathering.Guarded limit)
    (found : gathering.calls[index]? = some ⟨request, .running⟩) (answer : ρ) :
    (gathering.finish index request answer).Guarded limit := by
  have moved : (gathering.finish index request answer).calls =
      gathering.calls.set index ⟨request, .ended answer⟩ := rfl
  have waits := waits_unchanged found moved nofun nofun
  have runs : (gathering.finish index request answer).running + 1 = gathering.running :=
    (running_of_set found moved :)
  rcases guarded_cases guarded with ⟨rfl, isNone, nobody⟩ | ⟨count, held, rfl, isSome, guards⟩
  · refine guarded_of_none (by rw [finish, isNone]; rfl) fun other isWaiting => ?_
    exact nobody other ((waits other).mp isWaiting)
  · refine guarded_of_guards (by rw [finish, isSome]; rfl) ?_
    rw [← runs] at guards
    exact guards.released.congr waits

/-- The semaphore stands for the waiting tasks and the running ones after every step. -/
theorem guarded_step {event : GatherEvent} (guarded : gathering.Guarded limit)
    (stepped : Stepped respond gathering event next) : next.Guarded limit := by
  cases stepped with
  | submitted found acquired => exact guarded_submit guarded found acquired
  | suspended found failed => exact guarded_suspend guarded found failed
  | resumed found guard acquired => exact guarded_resume guarded found guard acquired
  | finished found => exact guarded_finish guarded found _

/-! ## Runs -/

theorem sound_initial (respond : κ → ρ) (limit : Option Nat) (requests : List κ) :
    (initial limit requests).Sound respond requests where
  requests := by simp [initial, Function.comp_def]
  answers call member answer isEnded := by
    obtain ⟨request, -, rfl⟩ := List.mem_map.mp member
    cases isEnded
  submitted := by simp [initial, started, CallPhase.isStarted]

theorem guarded_initial (limit : Option Nat) (requests : List κ) :
    (initial limit requests : Gathering κ ρ).Guarded limit := by
  have nobody : ∀ index, ¬(initial limit requests : Gathering κ ρ).Waits index := by
    rintro index ⟨request, found⟩
    rw [initial, List.getElem?_map] at found
    obtain ⟨other, -, same⟩ := Option.map_eq_some_iff.mp found
    cases same
  cases limit with
  | none => exact guarded_of_none rfl nobody
  | some count =>
      refine guarded_of_guards rfl ?_
      have idle : (initial (some count) requests : Gathering κ ρ).running = 0 := by
        simp [initial, running, CallPhase.isRunning, Function.comp_def]
      rw [idle]
      exact (Semaphore.guards_new count).congr fun index => iff_false_intro (nobody index)

theorem remaining_initial (limit : Option Nat) (requests : List κ) :
    (initial limit requests : Gathering κ ρ).remaining = 3 * requests.length := by
  simp [initial, remaining, CallPhase.remaining, Function.comp_def, Nat.mul_comm]

theorem remaining_of_finished (finished : gathering.finished = true) :
    gathering.remaining = 0 := by
  refine List.sum_eq_zero fun count member => ?_
  obtain ⟨⟨request, phase⟩, isCall, rfl⟩ := List.mem_map.mp member
  have answered := List.all_eq_true.mp finished _ isCall
  cases phase with
  | ended answer => rfl
  | _ => cases answered

/-- If a permit can be had, some task can move on as long as one is not over. -/
theorem exists_step (respond : κ → ρ) (guarded : gathering.Guarded limit)
    (positive : ∀ count ∈ limit, 0 < count) (unfinished : gathering.finished = false) :
    ∃ event next, step respond gathering event = some next := by
  by_contra! stuck
  have noneScheduled : ∀ (index : Nat) (request : κ),
      gathering.calls[index]? ≠ some (GatheredCall.mk request .scheduled) := by
    intro index request found
    cases acquired : acquire gathering.semaphore with
    | some semaphore =>
        exact stuck (.begun index) (gathering.submit semaphore index request)
          (by simp only [step, found, acquired])
    | none =>
        exact stuck (.begun index) (gathering.suspend index request)
          (by simp only [step, found, acquired])
  have noneRunning : ∀ (index : Nat) (request : κ),
      gathering.calls[index]? ≠ some (GatheredCall.mk request .running) := by
    intro index request found
    exact stuck (.answered index) (gathering.finish index request (respond request))
      (by simp only [step, found])
  have idle : gathering.running = 0 := by
    rw [running, List.countP_eq_zero]
    rintro ⟨request, phase⟩ member isRunning
    obtain ⟨index, found⟩ := List.getElem?_of_mem member
    cases phase with
    | running => exact noneRunning index request found
    | _ => cases isRunning
  have someoneWaits : ∃ index, gathering.Waits index := by
    rw [finished, List.all_eq_false] at unfinished
    obtain ⟨⟨request, phase⟩, member, unanswered⟩ := unfinished
    obtain ⟨index, found⟩ := List.getElem?_of_mem member
    cases phase with
    | scheduled => exact absurd found (noneScheduled index request)
    | waiting => exact ⟨index, request, found⟩
    | running => exact absurd found (noneRunning index request)
    | ended answer => exact absurd rfl unanswered
  obtain ⟨index, isWaiting⟩ := someoneWaits
  rcases guarded_cases guarded with ⟨-, -, nobody⟩ | ⟨count, semaphore, isLimit, isSome, guards⟩
  · exact nobody index isWaiting
  · -- The only tasks left wait, and none was woken: all permits are in use, by nobody.
    have asleep : ∀ other, gathering.Waits other → semaphore.resume other = none := by
      rintro other ⟨request, found⟩
      cases resumed : semaphore.resume other with
      | none => rfl
      | some left =>
          refine absurd ?_ (stuck (.resumed other) (gathering.submit (some left) other request))
          simp only [step, found, isSome, Option.bind_some, resumed, Option.map_some]
    have full := guards.running_of_waits isWaiting asleep
    have enough := positive count isLimit
    omega

/-- What is gathered are the answers to the requests, each of which was made once. -/
theorem Sound.of_finished (sound : gathering.Sound respond requests)
    (finished : gathering.finished = true) :
    gathering.answers = requests.map respond ∧ gathering.submitted.Perm requests := by
  have ended : ∀ call ∈ gathering.calls,
      call.phase.answer? = some (respond call.request) ∧ call.phase.isStarted = true := by
    rintro ⟨request, phase⟩ member
    have answered := List.all_eq_true.mp finished _ member
    cases phase with
    | ended answer =>
        have isAnswer : answer = respond request := sound.answers _ member answer rfl
        exact ⟨congrArg some isAnswer, rfl⟩
    | _ => cases answered
  constructor
  · rw [Gathering.answers, List.filterMap_congr fun call member => (ended call member).1,
      ← sound.requests, List.map_map]
    exact congrFun List.filterMap_eq_map' gathering.calls
  · have all : gathering.started = gathering.calls.map GatheredCall.request := by
      rw [started, List.filter_eq_self.mpr fun call member => (ended call member).2]
    rw [← sound.requests, ← all]
    exact sound.submitted

/-- No request was made twice. -/
theorem Sound.subperm (sound : gathering.Sound respond requests) :
    gathering.submitted.Subperm requests := by
  have sublist : gathering.started.Sublist (gathering.calls.map GatheredCall.request) :=
    List.filter_sublist.map GatheredCall.request
  exact sound.requests ▸ sound.submitted.subperm.trans sublist.subperm

end Gathering

end Account

end QuAIA.Library
