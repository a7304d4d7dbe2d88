import Mathlib.Data.List.Basic
import Mathlib.Data.List.Nodup

/-!
Contract: a counting semaphore whose waiters are served in the order of their arrival.

Owns: the semaphore state and its segments between suspensions; the conservation of
permits; the set of waiting tasks; that no permit is free while a waiter sleeps; and the
invariant of the tasks that use it.

A permit is handed to a waiter when it is woken, before it runs again. A newcomer takes a
permit at once only when nobody waits. A task waits at most once at a time, and no waiter
is cancelled.
-/

set_option autoImplicit false

namespace QuAIA.Library

universe u

/-- The free permits, and the waiting tasks in order, each with whether it was woken. -/
structure Semaphore (κ : Type u) where
  value : Nat
  waiters : List (κ × Bool)
deriving DecidableEq, Repr

namespace Semaphore

variable {κ : Type u}

def new (value : Nat) : Semaphore κ := ⟨value, []⟩

def locked (semaphore : Semaphore κ) : Bool :=
  decide (semaphore.value = 0) || !semaphore.waiters.isEmpty

/-- `acquire` when it does not suspend. -/
def tryAcquire (semaphore : Semaphore κ) : Option (Semaphore κ) :=
  if semaphore.locked then none else some { semaphore with value := semaphore.value - 1 }

/-- `acquire` up to its suspension. -/
def wait (semaphore : Semaphore κ) (task : κ) : Semaphore κ :=
  { semaphore with waiters := semaphore.waiters ++ [(task, false)] }

/-- Wake the first waiter that sleeps. -/
def wakeFirst : List (κ × Bool) → Option (List (κ × Bool))
  | [] => none
  | (task, false) :: rest => some ((task, true) :: rest)
  | (task, true) :: rest => (wakeFirst rest).map fun woken => (task, true) :: woken

/-- Wake waiters as long as there are permits. -/
def wakeWhile : Nat → List (κ × Bool) → Semaphore κ
  | 0, waiters => ⟨0, waiters⟩
  | value + 1, waiters =>
      match wakeFirst waiters with
      | none => ⟨value + 1, waiters⟩
      | some woken => wakeWhile value woken

/-- The new permit goes to the first sleeping waiter, if there is one. -/
def release (semaphore : Semaphore κ) : Semaphore κ :=
  match wakeFirst semaphore.waiters with
  | none => { semaphore with value := semaphore.value + 1 }
  | some woken => { semaphore with waiters := woken }

/-- `acquire` after its suspension: the woken task leaves, and passes free permits on. -/
def resume [DecidableEq κ] (semaphore : Semaphore κ) (task : κ) : Option (Semaphore κ) :=
  if (task, true) ∈ semaphore.waiters then
    some (wakeWhile semaphore.value (semaphore.waiters.erase (task, true)))
  else none

/-! ## Waking -/

/-- The permits that nobody uses: the free ones, and those of the woken waiters. -/
def permits (semaphore : Semaphore κ) : Nat :=
  semaphore.value + semaphore.waiters.countP Prod.snd

/-- The tasks that wait. -/
def waiting (semaphore : Semaphore κ) : List κ := semaphore.waiters.map Prod.fst

/-- If a permit is free while a waiter sleeps, a woken waiter will pass it on. -/
def Awake (semaphore : Semaphore κ) : Prop :=
  0 < semaphore.value → (∃ waiter ∈ semaphore.waiters, waiter.2 = false) →
    ∃ waiter ∈ semaphore.waiters, waiter.2 = true

theorem wakeFirst_eq_none {waiters : List (κ × Bool)} :
    wakeFirst waiters = none ↔ ∀ waiter ∈ waiters, waiter.2 = true := by
  induction waiters with
  | nil => simp [wakeFirst]
  | cons waiter rest inductionHypothesis =>
      obtain ⟨task, woken⟩ := waiter
      cases woken with
      | false => simp [wakeFirst]
      | true => simp [wakeFirst, inductionHypothesis]

/-- One waiter more is woken, and nobody arrives or leaves. -/
theorem wakeFirst_eq_some {waiters woken : List (κ × Bool)}
    (wakes : wakeFirst waiters = some woken) :
    woken.map Prod.fst = waiters.map Prod.fst ∧
      woken.countP Prod.snd = waiters.countP Prod.snd + 1 := by
  induction waiters generalizing woken with
  | nil => cases wakes
  | cons waiter rest inductionHypothesis =>
      obtain ⟨task, isWoken⟩ := waiter
      cases isWoken with
      | false =>
          cases wakes
          simp
      | true =>
          rw [wakeFirst, Option.map_eq_some_iff] at wakes
          obtain ⟨later, wakesLater, rfl⟩ := wakes
          obtain ⟨sameTasks, oneMore⟩ := inductionHypothesis wakesLater
          simp [sameTasks, oneMore]

theorem wakeWhile_waiting (value : Nat) (waiters : List (κ × Bool)) :
    (wakeWhile value waiters).waiting = waiters.map Prod.fst := by
  induction value generalizing waiters with
  | zero => rfl
  | succ value inductionHypothesis =>
      rw [wakeWhile]
      cases wakes : wakeFirst waiters with
      | none => rfl
      | some woken =>
          dsimp only
          rw [inductionHypothesis, (wakeFirst_eq_some wakes).1]

theorem wakeWhile_permits (value : Nat) (waiters : List (κ × Bool)) :
    (wakeWhile value waiters).permits = value + waiters.countP Prod.snd := by
  induction value generalizing waiters with
  | zero => rfl
  | succ value inductionHypothesis =>
      rw [wakeWhile]
      cases wakes : wakeFirst waiters with
      | none => rfl
      | some woken =>
          dsimp only
          rw [inductionHypothesis, (wakeFirst_eq_some wakes).2]
          omega

theorem wakeWhile_awake (value : Nat) (waiters : List (κ × Bool)) :
    (wakeWhile value waiters).Awake := by
  induction value generalizing waiters with
  | zero =>
      intro positive
      cases positive
  | succ value inductionHypothesis =>
      rw [wakeWhile]
      cases wakes : wakeFirst waiters with
      | none =>
          intro _ ⟨waiter, member, sleeps⟩
          exact ⟨waiter, member, wakeFirst_eq_none.mp wakes waiter member⟩
      | some woken => exact inductionHypothesis woken

/-! ## The segments -/

variable {semaphore next : Semaphore κ}

theorem unlocked_of_tryAcquire (acquired : semaphore.tryAcquire = some next) :
    semaphore.locked = false ∧ next = { semaphore with value := semaphore.value - 1 } := by
  unfold tryAcquire at acquired
  split at acquired
  · cases acquired
  · rename_i unlocked
    exact ⟨Bool.eq_false_iff.mpr unlocked, (Option.some.inj acquired).symm⟩

/-- Nobody waits for a permit that is taken at once. -/
theorem tryAcquire_spec (acquired : semaphore.tryAcquire = some next) :
    next.permits + 1 = semaphore.permits ∧ next.waiting = semaphore.waiting ∧ next.Awake := by
  obtain ⟨unlocked, rfl⟩ := unlocked_of_tryAcquire acquired
  simp only [locked, Bool.or_eq_false_iff, decide_eq_false_iff_not, Bool.not_eq_false',
    List.isEmpty_iff] at unlocked
  obtain ⟨positive, nobody⟩ := unlocked
  refine ⟨?_, rfl, ?_⟩
  · simp only [permits]
    omega
  · rintro - ⟨waiter, member, -⟩
    rw [nobody] at member
    cases member

/-- Who must wait finds no permit, or others waiting for it. -/
theorem wait_spec (failed : semaphore.tryAcquire = none) (awake : semaphore.Awake) (task : κ) :
    (semaphore.wait task).permits = semaphore.permits ∧
      (semaphore.wait task).waiting = semaphore.waiting ++ [task] ∧
      (semaphore.wait task).Awake := by
  refine ⟨by simp [wait, permits], by simp [wait, waiting], ?_⟩
  intro positive _
  have isLocked : semaphore.locked = true := by
    unfold tryAcquire at failed
    split at failed
    · assumption
    · cases failed
  have waited : semaphore.waiters ≠ [] := by
    intro nobody
    simp only [locked, nobody, List.isEmpty_nil, Bool.not_true, Bool.or_false,
      decide_eq_true_eq] at isLocked
    exact absurd isLocked (Nat.ne_of_gt positive)
  obtain ⟨first, isFirst⟩ := List.exists_mem_of_ne_nil semaphore.waiters waited
  have woken : ∃ waiter ∈ semaphore.waiters, waiter.2 = true := by
    cases isWoken : first.2 with
    | true => exact ⟨first, isFirst, isWoken⟩
    | false => exact awake positive ⟨first, isFirst, isWoken⟩
  obtain ⟨waiter, member, isWoken⟩ := woken
  exact ⟨waiter, List.mem_append_left _ member, isWoken⟩

theorem release_spec (semaphore : Semaphore κ) :
    semaphore.release.permits = semaphore.permits + 1 ∧
      semaphore.release.waiting = semaphore.waiting ∧ semaphore.release.Awake := by
  unfold release
  cases wakes : wakeFirst semaphore.waiters with
  | none =>
      refine ⟨by simp only [permits]; omega, rfl, ?_⟩
      intro _ ⟨waiter, member, sleeps⟩
      exact ⟨waiter, member, wakeFirst_eq_none.mp wakes waiter member⟩
  | some woken =>
      obtain ⟨sameTasks, oneMore⟩ := wakeFirst_eq_some wakes
      refine ⟨by simp only [permits, oneMore]; omega, sameTasks, ?_⟩
      intro _ _
      have someone : 0 < woken.countP Prod.snd := by omega
      obtain ⟨waiter, member, isWoken⟩ := List.countP_pos_iff.mp someone
      exact ⟨waiter, member, isWoken⟩

/-! ## The tasks of a semaphore -/

/-- Some tasks hold a permit, and those that wait are the waiters. -/
structure Guards (limit : Nat) (semaphore : Semaphore κ) (running : Nat) (waits : κ → Prop) :
    Prop where
  permits : semaphore.permits + running = limit
  distinct : semaphore.waiting.Nodup
  waiting : ∀ task, task ∈ semaphore.waiting ↔ waits task
  awake : semaphore.Awake

section Tasks

variable {limit running : Nat} {waits later : κ → Prop} {task : κ}

theorem guards_new (limit : Nat) : (new limit : Semaphore κ).Guards limit 0 fun _ => False where
  permits := rfl
  distinct := List.nodup_nil
  waiting task := by simp [new, Semaphore.waiting]
  awake := by
    rintro - ⟨waiter, member, -⟩
    cases member

theorem Guards.congr (guards : semaphore.Guards limit running waits)
    (same : ∀ task, later task ↔ waits task) : semaphore.Guards limit running later :=
  ⟨guards.permits, guards.distinct, fun task => (guards.waiting task).trans (same task).symm,
    guards.awake⟩

theorem Guards.acquired (guards : semaphore.Guards limit running waits)
    (acquired : semaphore.tryAcquire = some next) : next.Guards limit (running + 1) waits := by
  obtain ⟨permits, waiting, awake⟩ := tryAcquire_spec acquired
  have before := guards.permits
  exact ⟨by omega, waiting ▸ guards.distinct, fun task => waiting ▸ guards.waiting task, awake⟩

theorem Guards.waited (guards : semaphore.Guards limit running waits)
    (failed : semaphore.tryAcquire = none) (newcomer : ¬waits task) :
    (semaphore.wait task).Guards limit running fun other => waits other ∨ other = task := by
  obtain ⟨permits, waiting, awake⟩ := wait_spec failed guards.awake task
  refine ⟨permits ▸ guards.permits, ?_, fun other => ?_, awake⟩
  · rw [waiting, ← List.concat_eq_append]
    exact guards.distinct.concat fun member => newcomer ((guards.waiting task).mp member)
  · rw [waiting, List.mem_append, List.mem_singleton, guards.waiting]

theorem Guards.released (guards : semaphore.Guards limit (running + 1) waits) :
    semaphore.release.Guards limit running waits := by
  obtain ⟨permits, waiting, awake⟩ := semaphore.release_spec
  have before := guards.permits
  exact ⟨by omega, waiting ▸ guards.distinct, fun task => waiting ▸ guards.waiting task, awake⟩

end Tasks

/-! ## Resumption -/

variable [DecidableEq κ]

theorem resume_spec {task : κ} (resumed : semaphore.resume task = some next) :
    next.permits + 1 = semaphore.permits ∧ next.Awake := by
  unfold resume at resumed
  split at resumed
  · rename_i isWoken
    obtain rfl := Option.some.inj resumed
    have erased : semaphore.waiters.countP Prod.snd =
        (semaphore.waiters.erase (task, true)).countP Prod.snd + 1 :=
      List.Perm.countP_eq Prod.snd (List.perm_cons_erase isWoken) |>.trans (by simp)
    rw [wakeWhile_permits, permits, erased]
    exact ⟨by omega, wakeWhile_awake _ _⟩
  · cases resumed

/-- The task that resumes, and no other, has left. -/
theorem resume_waiting {task : κ} (distinct : semaphore.waiting.Nodup)
    (resumed : semaphore.resume task = some next) :
    next.waiting.Nodup ∧
      ∀ other, other ∈ next.waiting ↔ other ∈ semaphore.waiting ∧ other ≠ task := by
  unfold resume at resumed
  split at resumed
  · rename_i isWoken
    obtain rfl := Option.some.inj resumed
    have entries : semaphore.waiters.Nodup := List.Nodup.of_map Prod.fst distinct
    rw [wakeWhile_waiting]
    refine ⟨distinct.sublist (List.erase_sublist.map Prod.fst), fun other => ?_⟩
    simp only [waiting, List.mem_map, List.Nodup.mem_erase_iff entries]
    constructor
    · rintro ⟨waiter, ⟨differs, member⟩, rfl⟩
      refine ⟨⟨waiter, member, rfl⟩, fun same => differs ?_⟩
      exact List.inj_on_of_nodup_map distinct member isWoken same
    · rintro ⟨⟨waiter, member, rfl⟩, differs⟩
      exact ⟨waiter, ⟨fun same => differs (congrArg Prod.fst same), member⟩, rfl⟩
  · cases resumed

theorem resume_eq_none {task : κ} :
    semaphore.resume task = none ↔ (task, true) ∉ semaphore.waiters := by
  unfold resume
  split <;> simp_all

section Tasks

variable {limit running : Nat} {waits : κ → Prop} {task : κ}

theorem Guards.resumed (guards : semaphore.Guards limit running waits)
    (resumed : semaphore.resume task = some next) :
    next.Guards limit (running + 1) fun other => waits other ∧ other ≠ task := by
  obtain ⟨permits, awake⟩ := resume_spec resumed
  obtain ⟨distinct, waiting⟩ := resume_waiting guards.distinct resumed
  have before := guards.permits
  refine ⟨by omega, distinct, fun other => ?_, awake⟩
  rw [waiting, guards.waiting]

/-- A task waits, when no woken task is left to run, only for the tasks that hold a permit. -/
theorem Guards.running_of_waits (guards : semaphore.Guards limit running waits)
    (isWaiting : waits task) (asleep : ∀ other, waits other → semaphore.resume other = none) :
    running = limit := by
  have noneWoken : ∀ waiter ∈ semaphore.waiters, waiter.2 = false := by
    rintro ⟨other, woken⟩ isWaiter
    cases woken with
    | false => rfl
    | true =>
        have otherWaits := (guards.waiting other).mp (List.mem_map_of_mem isWaiter)
        exact absurd isWaiter (resume_eq_none.mp (asleep other otherWaits))
  have noneGranted : semaphore.waiters.countP Prod.snd = 0 := by
    rw [List.countP_eq_zero]
    intro waiter isWaiter
    rw [noneWoken waiter isWaiter]
    exact Bool.false_ne_true
  obtain ⟨waiter, isWaiter, -⟩ := List.mem_map.mp ((guards.waiting task).mpr isWaiting)
  have noneFree : semaphore.value = 0 := by
    apply Nat.eq_zero_of_not_pos
    intro positive
    obtain ⟨other, isOther, isWoken⟩ :=
      guards.awake positive ⟨waiter, isWaiter, noneWoken waiter isWaiter⟩
    rw [noneWoken other isOther] at isWoken
    cases isWoken
  have permits := guards.permits
  rw [Semaphore.permits, noneFree, noneGranted] at permits
  omega

end Tasks

end Semaphore

end QuAIA.Library
