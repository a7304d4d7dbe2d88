import QuAIA.Orchestrator.StreamingHub

/-!
Contract: the global side of the hub (`StreamingHub`), whose publications put one
dictionary into the buffers of all subscribers.

Owns: subscriptions, publications and gets over any number of subscribers; the hub that
gives every subscriber a copy of its own; and that no subscriber can tell the two apart.

Does not own: the channels of single agents. Publishing does not suspend, since no lock is
held where a coroutine waits, so a publication is one step.
-/

set_option autoImplicit false

namespace QuAIA.Orchestrator

open QuAIA.Common
open QuAIA.Library
open QuAIA.Library.StepSystem

/-! ## The code -/

inductive HubCall where
  | subscribe
  | unsubscribe (subscription : Nat)
  | publish (event : HubEvent)
  | get (subscription : Nat)

/-- Take from what the first entry of a subscription has. -/
def takeFrom {α β : Type} (take : α → Option (β × α)) (subscription : Nat) :
    List (Nat × α) → Option (β × List (Nat × α))
  | [] => none
  | (other, owned) :: rest =>
      if other = subscription then
        (take owned).map fun taken => (taken.1, (other, taken.2) :: rest)
      else
        (takeFrom take subscription rest).map fun taken =>
          (taken.1, (other, owned) :: taken.2)

/-- The contents that one subscriber has obtained, in order. -/
def obtainedBy (obtained : List (Nat × Payload)) (subscription : Nat) : List Payload :=
  obtained.filterMap fun (owner, payload) => if owner = subscription then some payload else none

theorem one_le_queueMaxsize : 1 ≤ queueMaxsize := by decide

/-- The global side of `StreamingHub`. A subscriber is known by the number of its
subscription; `obtained` is what the gets have returned, read at that moment. -/
structure GlobalHub where
  heap : EventHeap
  globalSubs : List (Nat × Subscriber)
  seq : Nat
  subscriptions : Nat
  obtained : List (Nat × Payload)

namespace GlobalHub

def create : GlobalHub := ⟨[], [], 0, 0, []⟩

/-- The loop of `publish_global`. -/
def putAll (object seq : Nat) :
    EventHeap → List (Nat × Subscriber) → EventHeap × List (Nat × Subscriber)
  | heap, [] => (heap, [])
  | heap, (subscription, subscriber) :: rest =>
      let put := subscriber.put heap object seq
      let others := putAll object seq put.1 rest
      (others.1, (subscription, put.2) :: others.2)

/-- `publish_global` with a new dictionary. -/
def publishGlobal (hub : GlobalHub) (event : HubEvent) : GlobalHub :=
  let put := putAll hub.heap.length hub.seq (hub.heap ++ [.published event]) hub.globalSubs
  { hub with heap := put.1, globalSubs := put.2, seq := hub.seq + 1 }

/-- A waiting `get` is no step, nor is one of a subscriber that has left. -/
def step (hub : GlobalHub) : HubCall → Option GlobalHub
  | .subscribe =>
      some { hub with
        globalSubs :=
          hub.globalSubs ++ [(hub.subscriptions, .create queueMaxsize one_le_queueMaxsize)]
        subscriptions := hub.subscriptions + 1 }
  | .unsubscribe subscription =>
      some { hub with globalSubs := hub.globalSubs.eraseP fun sub => sub.1 = subscription }
  | .publish event => some (hub.publishGlobal event)
  | .get subscription =>
      (takeFrom (Subscriber.get hub.heap) subscription hub.globalSubs).map fun taken =>
        { hub with
          globalSubs := taken.2
          obtained := hub.obtained ++
            (hub.heap[taken.1]?.map fun payload => (subscription, payload)).toList }

end GlobalHub

/-! ## Private copies -/

/-- The dictionaries that only one subscriber has, and its buffer. -/
abbrev OwnedBuffer := EventHeap × Subscriber

namespace OwnedBuffer

/-- The put of a copy. -/
def put (owned : OwnedBuffer) (event : HubEvent) (seq : Nat) : OwnedBuffer :=
  owned.2.put (owned.1 ++ [.published event]) owned.1.length seq

def get (owned : OwnedBuffer) : Option (Option Payload × OwnedBuffer) :=
  (owned.2.get owned.1).map fun taken => (owned.1[taken.1]?, owned.1, taken.2)

end OwnedBuffer

/-- The hub that would give every subscriber a dictionary of its own. -/
structure PrivateHub where
  globalSubs : List (Nat × OwnedBuffer)
  seq : Nat
  subscriptions : Nat
  obtained : List (Nat × Payload)

namespace PrivateHub

def create : PrivateHub := ⟨[], 0, 0, []⟩

def step (hub : PrivateHub) : HubCall → Option PrivateHub
  | .subscribe =>
      some { hub with
        globalSubs :=
          hub.globalSubs ++ [(hub.subscriptions, [], .create queueMaxsize one_le_queueMaxsize)]
        subscriptions := hub.subscriptions + 1 }
  | .unsubscribe subscription =>
      some { hub with globalSubs := hub.globalSubs.eraseP fun sub => sub.1 = subscription }
  | .publish event =>
      some { hub with
        globalSubs := hub.globalSubs.map fun sub => (sub.1, sub.2.put event hub.seq)
        seq := hub.seq + 1 }
  | .get subscription =>
      (takeFrom OwnedBuffer.get subscription hub.globalSubs).map fun taken =>
        { hub with
          globalSubs := taken.2
          obtained := hub.obtained ++
            (taken.1.map fun payload => (subscription, payload)).toList }

end PrivateHub

/-! ## Contents

Both hubs amount to one hub of lists of contents. -/

/-- What a subscriber's buffer holds. -/
structure HeldEvents where
  maxsize : Nat
  contents : List Payload

/-- The content is an activity of the task of the event. -/
def coalescesWith (event : HubEvent) (payload : Payload) : Bool :=
  event.activityTask.isSome && decide (payload.activityTask = event.activityTask)

/-- A content after an activity of its task. -/
def refresh (event : HubEvent) (payload : Payload) : Payload :=
  if coalescesWith event payload then .published event else payload

namespace HeldEvents

def put (held : HeldEvents) (event : HubEvent) (seq : Nat) : HeldEvents :=
  { held with
    contents :=
      if held.contents.any (coalescesWith event) then held.contents.map (refresh event)
      else if held.maxsize ≤ held.contents.length then
        held.contents.tail ++ [.gap ⟨"queue_overflow", seq, seq⟩]
      else held.contents ++ [.published event] }

def get (held : HeldEvents) : Option (Option Payload × HeldEvents) :=
  match held.contents with
  | [] => none
  | payload :: contents => some (some payload, { held with contents := contents })

end HeldEvents

structure ContentHub where
  globalSubs : List (Nat × HeldEvents)
  seq : Nat
  subscriptions : Nat
  obtained : List (Nat × Payload)

def ContentHub.step (hub : ContentHub) : HubCall → Option ContentHub
  | .subscribe =>
      some { hub with
        globalSubs := hub.globalSubs ++ [(hub.subscriptions, ⟨queueMaxsize, []⟩)]
        subscriptions := hub.subscriptions + 1 }
  | .unsubscribe subscription =>
      some { hub with globalSubs := hub.globalSubs.eraseP fun sub => sub.1 = subscription }
  | .publish event =>
      some { hub with
        globalSubs := hub.globalSubs.map fun sub => (sub.1, sub.2.put event hub.seq)
        seq := hub.seq + 1 }
  | .get subscription =>
      (takeFrom HeldEvents.get subscription hub.globalSubs).map fun taken =>
        { hub with
          globalSubs := taken.2
          obtained := hub.obtained ++
            (taken.1.map fun payload => (subscription, payload)).toList }

/-- Taking from an entry agrees with taking from its abstraction. -/
theorem map_takeFrom {α β γ δ : Type} {take : α → Option (β × α)} {takeHeld : γ → Option (δ × γ)}
    {abstraction : α → γ} {observe : β → δ} {entries : List (Nat × α)} (subscription : Nat)
    (agrees : ∀ entry ∈ entries, (take entry.2).map (Prod.map observe abstraction) =
      takeHeld (abstraction entry.2)) :
    (takeFrom take subscription entries).map
        (Prod.map observe (List.map (Prod.map id abstraction))) =
      takeFrom takeHeld subscription (entries.map (Prod.map id abstraction)) := by
  induction entries with
  | nil => rfl
  | cons entry rest inductionHypothesis =>
      obtain ⟨other, owned⟩ := entry
      have here := agrees (other, owned) List.mem_cons_self
      have later := inductionHypothesis
        fun entry member => agrees entry (List.mem_cons_of_mem _ member)
      by_cases own : other = subscription
      · simp only [takeFrom, List.map_cons, Prod.map_apply, id_eq, if_pos own, ← here,
          Option.map_map]
        rfl
      · simp only [takeFrom, List.map_cons, Prod.map_apply, id_eq, if_neg own, ← later,
          Option.map_map]
        rfl

theorem forall_subscribed {α : Type} {property : α → Prop} {entries : List (Nat × α)}
    (holds : ∀ entry ∈ entries, property entry.2) {owned : α} (fresh : property owned)
    (subscription : Nat) : ∀ entry ∈ entries ++ [(subscription, owned)], property entry.2 := by
  intro entry member
  rcases List.mem_append.mp member with earlier | added
  · exact holds entry earlier
  · rw [List.mem_singleton.mp added]
    exact fresh

/-- What every take keeps of what a subscription has, holds of all entries after it. -/
theorem forall_takeFrom {α β : Type} {take : α → Option (β × α)} {property : α → Prop}
    (kept : ∀ owned taken, property owned → take owned = some taken → property taken.2)
    {entries : List (Nat × α)} {subscription : Nat} {taken : β × List (Nat × α)}
    (holds : ∀ entry ∈ entries, property entry.2)
    (takes : takeFrom take subscription entries = some taken) :
    ∀ entry ∈ taken.2, property entry.2 := by
  induction entries generalizing taken with
  | nil => cases takes
  | cons entry rest inductionHypothesis =>
      obtain ⟨other, owned⟩ := entry
      have here := holds (other, owned) List.mem_cons_self
      have later : ∀ entry ∈ rest, property entry.2 :=
        fun entry member => holds entry (List.mem_cons_of_mem _ member)
      rw [takeFrom] at takes
      split at takes
      · obtain ⟨result, isTaken, rfl⟩ := Option.map_eq_some_iff.mp takes
        intro entry member
        rcases List.mem_cons.mp member with rfl | inRest
        · exact kept owned result here isTaken
        · exact later entry inRest
      · obtain ⟨result, isTaken, rfl⟩ := Option.map_eq_some_iff.mp takes
        intro entry member
        rcases List.mem_cons.mp member with rfl | inRest
        · exact here
        · exact inductionHypothesis later isTaken entry inRest

/-! ### The effect of a put on contents -/

section Contents

variable {heap after : EventHeap} {subscriber : Subscriber} {event : HubEvent}

theorem refresh_of_coalesces {payload : Payload} (same : coalescesWith event payload = true) :
    refresh event payload = .published event := if_pos same

theorem refresh_of_not_coalesces {payload : Payload}
    (other : coalescesWith event payload = false) : refresh event payload = payload :=
  if_neg (by rw [other]; exact Bool.false_ne_true)

theorem coalescesWith_self (isActivity : event.activityTask.isSome = true) :
    coalescesWith event (.published event) = true := by
  simp [coalescesWith, Payload.activityTask, isActivity]

theorem coalescesWith_refresh (event : HubEvent) (payload : Payload) :
    coalescesWith event (refresh event payload) = coalescesWith event payload := by
  cases same : coalescesWith event payload with
  | true =>
      rw [refresh_of_coalesces same]
      exact coalescesWith_self (Bool.and_eq_true_iff.mp same).1
  | false => rw [refresh_of_not_coalesces same, same]

theorem refresh_refresh (event : HubEvent) (payload : Payload) :
    refresh event (refresh event payload) = refresh event payload := by
  cases same : coalescesWith event payload with
  | true =>
      rw [refresh_of_coalesces same]
      unfold refresh
      split <;> rfl
  | false => exact refresh_of_not_coalesces (by rw [coalescesWith_refresh, same])

theorem map_refresh_of_none {contents : List Payload}
    (noneSame : contents.any (coalescesWith event) = false) :
    contents.map (refresh event) = contents := by
  rw [List.any_eq_false] at noneSame
  have same : ∀ payload ∈ contents, refresh event payload = payload := by
    intro payload member
    exact refresh_of_not_coalesces (Bool.eq_false_iff.mpr (noneSame payload member))
  exact (List.map_congr_left same).trans (List.map_id' contents)

/-- A put depends on the contents up to those that it overwrites. -/
theorem HeldEvents.put_refresh (held : HeldEvents) (event : HubEvent) (seq : Nat) :
    ({ held with contents := held.contents.map (refresh event) } : HeldEvents).put event seq =
      held.put event seq := by
  have any : (held.contents.map (refresh event)).any (coalescesWith event) =
      held.contents.any (coalescesWith event) := by
    rw [List.any_map]
    congr 1
    funext payload
    exact coalescesWith_refresh event payload
  unfold HeldEvents.put
  simp only [any]
  cases same : held.contents.any (coalescesWith event) with
  | true =>
      simp only [if_true, List.map_map]
      congr 1
      apply List.map_congr_left
      intro payload _
      exact refresh_refresh event payload
  | false =>
      rw [map_refresh_of_none same]
      rfl

/-- After a put no content is left to overwrite. -/
theorem HeldEvents.map_refresh_put (held : HeldEvents) (event : HubEvent) (seq : Nat) :
    (held.put event seq).contents.map (refresh event) = (held.put event seq).contents := by
  unfold HeldEvents.put
  dsimp only
  cases same : held.contents.any (coalescesWith event) with
  | true =>
      simp only [if_true, List.map_map]
      apply List.map_congr_left
      intro payload _
      exact refresh_refresh event payload
  | false =>
      have kept := map_refresh_of_none same
      have gapKept (gap : GapEvent) : refresh event (.gap gap) = .gap gap := by
        apply refresh_of_not_coalesces
        cases isActivity : event.activityTask with
        | none => simp [coalescesWith, isActivity]
        | some taskId => simp [coalescesWith, isActivity, Payload.activityTask]
      have eventKept : refresh event (.published event) = .published event := by
        unfold refresh
        split <;> rfl
      simp only [Bool.false_eq_true, if_false]
      split
      · rw [List.map_append, List.map_tail, kept, List.map_singleton, gapKept]
      · rw [List.map_append, kept, List.map_singleton, eventKept]

/-- What the buffer of a subscriber holds. -/
def Subscriber.held (heap : EventHeap) (subscriber : Subscriber) : HeldEvents :=
  ⟨subscriber.maxsize, subscriber.items.filterMap fun item => heap[item]?⟩

theorem length_held (consistent : subscriber.Consistent heap) :
    (subscriber.held heap).contents.length = subscriber.items.length := by
  rw [Subscriber.held, List.filterMap_length_eq_length]
  intro item member
  rw [List.getElem?_eq_getElem (consistent.allocated item member)]
  rfl

theorem held_grow (consistent : subscriber.Consistent heap) (more : EventHeap) :
    subscriber.held (heap ++ more) = subscriber.held heap := by
  unfold Subscriber.held
  congr 1
  apply List.filterMap_congr
  intro item member
  exact List.getElem?_append_left (consistent.allocated item member)

/-- A get returns the first content. -/
theorem held_get (consistent : subscriber.Consistent heap) :
    (subscriber.get heap).map (Prod.map (fun item => heap[item]?) (Subscriber.held heap)) =
      (subscriber.held heap).get := by
  cases split : subscriber.items with
  | nil => simp [Subscriber.get, HeldEvents.get, Subscriber.held, split]
  | cons item rest =>
      have read := List.getElem?_eq_getElem (consistent.allocated item (by simp [split]))
      simp [Subscriber.get, HeldEvents.get, Subscriber.held, split, read,
        Subscriber.discardFromIndex_items, Subscriber.discardFromIndex_maxsize]

theorem consistent_get (subscriber : Subscriber) (taken : Nat × Subscriber)
    (consistent : subscriber.Consistent heap) (takes : subscriber.get heap = some taken) :
    taken.2.Consistent heap := by
  cases split : subscriber.items with
  | nil => simp [Subscriber.get, split] at takes
  | cons item rest =>
      simp only [Subscriber.get, split, Option.some.injEq] at takes
      rw [← takes]
      exact consistent.pop split

theorem consistent_create (heap : EventHeap) (maxsize : Nat) (positive : 1 ≤ maxsize) :
    (Subscriber.create maxsize positive).Consistent heap :=
  ⟨nofun, Indexes.empty _⟩

/-- The dictionary is an activity that the event would overwrite, exactly if its content
is. -/
theorem coalescesWith_iff {item : Nat} {payload : Payload} (read : heap[item]? = some payload) :
    coalescesWith event payload = true ↔
      ∃ taskId, event.activityTask = some taskId ∧ activityTaskOf heap item = some taskId := by
  have task : activityTaskOf heap item = payload.activityTask := by
    rw [activityTaskOf, read, Option.bind_some]
  rw [task, coalescesWith, Bool.and_eq_true, decide_eq_true_iff, Option.isSome_iff_exists]
  constructor
  · rintro ⟨⟨taskId, isTask⟩, same⟩
    exact ⟨taskId, isTask, same.trans isTask⟩
  · rintro ⟨taskId, isTask, same⟩
    exact ⟨⟨taskId, isTask⟩, same.trans isTask.symm⟩

section Put

variable {object : Nat} (consistent : subscriber.Consistent heap)
  (holds : heap[object]? = some (.published event))

include holds in
theorem activityTaskOf_object : activityTaskOf heap object = event.activityTask := by
  rw [activityTaskOf, holds]
  rfl

include consistent holds in
theorem held_of_slot {existing : Nat}
    (found : subscriber.slotFor heap object = some existing) (seq : Nat) :
    subscriber.held (heap.set existing (.published event)) =
      (subscriber.held heap).put event seq := by
  obtain ⟨taskId, isTask, member, sameTask⟩ := consistent.slotted found
  rw [activityTaskOf_object holds] at isTask
  have allocated := consistent.allocated existing member
  have read := List.getElem?_eq_getElem allocated
  have same : coalescesWith event heap[existing] = true :=
    (coalescesWith_iff read).mpr ⟨taskId, isTask, sameTask⟩
  have any : (subscriber.held heap).contents.any (coalescesWith event) = true := by
    rw [List.any_eq_true]
    exact ⟨heap[existing], List.mem_filterMap.mpr ⟨existing, member, read⟩, same⟩
  rw [HeldEvents.put, if_pos any]
  unfold Subscriber.held
  rw [List.map_filterMap]
  congr 1
  apply List.filterMap_congr
  intro item inside
  by_cases isExisting : item = existing
  · subst isExisting
    rw [List.getElem?_set_self allocated, read, Option.map_some, refresh_of_coalesces same]
  · have itemAllocated := consistent.allocated item inside
    have itemRead := List.getElem?_eq_getElem itemAllocated
    have other : coalescesWith event heap[item] = false := by
      rw [Bool.eq_false_iff]
      intro coalesces
      obtain ⟨otherTask, isOther, itemTask⟩ := (coalescesWith_iff itemRead).mp coalesces
      rw [isTask, Option.some.injEq] at isOther
      rw [← isOther] at itemTask
      exact isExisting (consistent.indexes.unique inside itemTask member sameTask)
    rw [List.getElem?_set_ne (Ne.symm isExisting), itemRead, Option.map_some,
      refresh_of_not_coalesces other]

include consistent holds in
/-- Without a slot no content is overwritten. -/
theorem any_coalesces_of_missing (missing : subscriber.slotFor heap object = none) :
    (subscriber.held heap).contents.any (coalescesWith event) = false := by
  rw [List.any_eq_false]
  intro payload member coalesces
  obtain ⟨item, inside, read⟩ := List.mem_filterMap.mp member
  obtain ⟨taskId, isTask, sameTask⟩ := (coalescesWith_iff read).mp coalesces
  have indexed := consistent.indexes.get?_of_mem inside sameTask
  rw [Subscriber.slotFor, activityTaskOf_object holds, isTask, Option.bind_some,
    indexed] at missing
  cases missing

include consistent holds in
/-- What a put does to the contents of a buffer. -/
theorem held_put (seq : Nat) :
    (subscriber.put heap object seq).2.held (subscriber.put heap object seq).1 =
      (subscriber.held heap).put event seq := by
  cases found : subscriber.slotFor heap object with
  | some existing =>
      rw [Subscriber.put_of_slot seq found holds]
      exact held_of_slot consistent holds found seq
  | none =>
      have noneSame := any_coalesces_of_missing consistent holds found
      have length := length_held consistent
      cases full : subscriber.full with
      | false =>
          have room : ¬ (subscriber.held heap).maxsize ≤
              (subscriber.held heap).contents.length := by
            rw [length]
            exact of_decide_eq_false full
          rw [Subscriber.put_of_room seq found full, HeldEvents.put, noneSame]
          simp only [Bool.false_eq_true, if_false]
          rw [if_neg room]
          simp [Subscriber.held, List.filterMap_append, holds]
      | true =>
          have long : (subscriber.held heap).maxsize ≤
              (subscriber.held heap).contents.length := by
            rw [length]
            exact of_decide_eq_true full
          obtain ⟨dropped, rest, split⟩ := Subscriber.exists_of_full full
          have allocated := consistent.allocated
          rw [split] at allocated
          have read := List.getElem?_eq_getElem (allocated dropped List.mem_cons_self)
          have kept : (rest.filterMap fun item =>
              (heap ++ [Payload.gap ⟨"queue_overflow", seq, seq⟩])[item]?) =
              rest.filterMap fun item => heap[item]? := by
            apply List.filterMap_congr
            intro item member
            rw [List.getElem?_append_left (allocated item (List.mem_cons_of_mem _ member))]
          rw [Subscriber.put_of_overflow seq found full split, HeldEvents.put, noneSame]
          simp only [Bool.false_eq_true, if_false]
          rw [if_pos long]
          simp only [Subscriber.held, Subscriber.discardFromIndex_maxsize, split,
            List.filterMap_append, kept, List.filterMap_cons, read, List.tail_cons,
            List.getElem?_concat_length, List.filterMap_nil]

end Put

/-! ### A publication

While the loop runs, a subscriber whose put is still to come can already see the event: a
dictionary that it shares with an earlier one was overwritten. -/

/-- Nothing but activities of the event's task is overwritten, and with the event. -/
structure Overwrites (event : HubEvent) (heap after : EventHeap) : Prop where
  grown : heap.length ≤ after.length
  kept : ∀ item < heap.length, after[item]? = heap[item]? ∨
    after[item]? = some (.published event) ∧
      ∃ taskId, event.activityTask = some taskId ∧ activityTaskOf heap item = some taskId

namespace Overwrites

theorem task (overwrites : Overwrites event heap after) {item : Nat}
    (allocated : item < heap.length) : activityTaskOf after item = activityTaskOf heap item := by
  rcases overwrites.kept item allocated with same | ⟨written, taskId, isTask, wasTask⟩
  · rw [activityTaskOf, same, activityTaskOf]
  · rw [activityTaskOf, written, wasTask]
    exact isTask

theorem refl (event : HubEvent) (heap : EventHeap) : Overwrites event heap heap :=
  ⟨Nat.le_refl _, fun _ _ => Or.inl rfl⟩

theorem trans {final : EventHeap} (first : Overwrites event heap after)
    (second : Overwrites event after final) : Overwrites event heap final := by
  refine ⟨Nat.le_trans first.grown second.grown, ?_⟩
  intro item allocated
  rcases second.kept item (Nat.lt_of_lt_of_le allocated first.grown) with same | written
  · rw [same]
    exact first.kept item allocated
  · rw [first.task allocated] at written
    exact Or.inr written

theorem consistent (overwrites : Overwrites event heap after)
    (consistent : subscriber.Consistent heap) : subscriber.Consistent after := by
  constructor
  · intro item member
    exact Nat.lt_of_lt_of_le (consistent.allocated item member) overwrites.grown
  · apply consistent.indexes.congr
    intro item member
    exact overwrites.task (consistent.allocated item member)

/-- The object of the publication keeps its content. -/
theorem holds (overwrites : Overwrites event heap after) {object : Nat}
    (holds : heap[object]? = some (.published event)) :
    after[object]? = some (.published event) := by
  rcases overwrites.kept object (List.getElem?_eq_some_iff.mp holds).1 with same | written
  · rw [same, holds]
  · exact written.1

/-- A content is the same up to overwriting. -/
theorem map_refresh (overwrites : Overwrites event heap after) {item : Nat}
    (allocated : item < heap.length) :
    after[item]?.map (refresh event) = heap[item]?.map (refresh event) := by
  rcases overwrites.kept item allocated with same | ⟨written, owned⟩
  · rw [same]
  · have read := List.getElem?_eq_getElem allocated
    have same : coalescesWith event heap[item] = true := (coalescesWith_iff read).mpr owned
    obtain ⟨taskId, isTask, -⟩ := owned
    have isActivity : event.activityTask.isSome = true := by
      rw [isTask]
      rfl
    rw [written, read, Option.map_some, Option.map_some, refresh_of_coalesces same,
      refresh_of_coalesces (coalescesWith_self isActivity)]

/-- The put of a subscriber whose dictionaries were overwritten already. -/
theorem held_put (overwrites : Overwrites event heap after)
    (consistent : subscriber.Consistent heap) (seq : Nat) :
    (subscriber.held after).put event seq = (subscriber.held heap).put event seq := by
  have same : (subscriber.held after).contents.map (refresh event) =
      (subscriber.held heap).contents.map (refresh event) := by
    simp only [Subscriber.held, List.map_filterMap]
    apply List.filterMap_congr
    intro item member
    exact overwrites.map_refresh (consistent.allocated item member)
  rw [← HeldEvents.put_refresh (subscriber.held after), same]
  exact HeldEvents.put_refresh (subscriber.held heap) event seq

/-- A subscriber that has nothing left to overwrite keeps its contents. -/
theorem held_eq (overwrites : Overwrites event heap after)
    (consistent : subscriber.Consistent heap)
    (settled : (subscriber.held heap).contents.map (refresh event) =
      (subscriber.held heap).contents) :
    subscriber.held after = subscriber.held heap := by
  unfold Subscriber.held
  congr 1
  apply List.filterMap_congr
  intro item member
  have allocated := consistent.allocated item member
  have read := List.getElem?_eq_getElem allocated
  rcases overwrites.kept item allocated with same | ⟨written, owned⟩
  · exact same
  · have coalesces := (coalescesWith_iff read).mpr owned
    have inside : heap[item] ∈ (subscriber.held heap).contents :=
      List.mem_filterMap.mpr ⟨item, member, read⟩
    have isSettled : refresh event heap[item] = heap[item] :=
      List.map_inj_left.mp (settled.trans (List.map_id' _).symm) _ inside
    rw [refresh_of_coalesces coalesces] at isSettled
    rw [written, read, isSettled]

end Overwrites

theorem overwrites_put {object : Nat} (consistent : subscriber.Consistent heap)
    (holds : heap[object]? = some (.published event)) (seq : Nat) :
    Overwrites event heap (subscriber.put heap object seq).1 := by
  cases found : subscriber.slotFor heap object with
  | some existing =>
      obtain ⟨taskId, isTask, member, sameTask⟩ := consistent.slotted found
      rw [activityTaskOf_object holds] at isTask
      rw [Subscriber.put_of_slot seq found holds]
      refine ⟨by simp, ?_⟩
      intro item allocated
      by_cases same : item = existing
      · subst same
        exact Or.inr ⟨List.getElem?_set_self allocated, taskId, isTask, sameTask⟩
      · exact Or.inl (List.getElem?_set_ne (Ne.symm same))
  | none =>
      cases full : subscriber.full with
      | false =>
          rw [Subscriber.put_of_room seq found full]
          exact .refl event heap
      | true =>
          obtain ⟨dropped, rest, split⟩ := Subscriber.exists_of_full full
          rw [Subscriber.put_of_overflow seq found full split]
          refine ⟨by simp, ?_⟩
          intro item allocated
          exact Or.inl (List.getElem?_append_left allocated)

/-- The contents of all buffers, each under its subscription. -/
def heldBy (heap : EventHeap) (subs : List (Nat × Subscriber)) : List (Nat × HeldEvents) :=
  subs.map (Prod.map id (Subscriber.held heap))

/-- **Publication.** Every subscriber's buffer changes as if the event were its own. -/
theorem heldBy_putAll {object : Nat} {subs : List (Nat × Subscriber)} (seq : Nat)
    (consistent : ∀ sub ∈ subs, sub.2.Consistent heap)
    (holds : heap[object]? = some (.published event))
    (absent : ∀ sub ∈ subs, object ∉ sub.2.items) :
    Overwrites event heap (GlobalHub.putAll object seq heap subs).1 ∧
      (∀ sub ∈ (GlobalHub.putAll object seq heap subs).2,
        sub.2.Consistent (GlobalHub.putAll object seq heap subs).1) ∧
      heldBy (GlobalHub.putAll object seq heap subs).1
          (GlobalHub.putAll object seq heap subs).2 =
        (heldBy heap subs).map fun sub => (sub.1, sub.2.put event seq) := by
  induction subs generalizing heap with
  | nil => exact ⟨.refl event heap, nofun, rfl⟩
  | cons sub rest inductionHypothesis =>
      obtain ⟨subscription, subscriber⟩ := sub
      have own : subscriber.Consistent heap := consistent _ List.mem_cons_self
      have others : ∀ other ∈ rest, other.2.Consistent heap :=
        fun other member => consistent other (List.mem_cons_of_mem _ member)
      have first := overwrites_put own holds seq
      have put := own.putObject seq holds (absent _ List.mem_cons_self)
      have held := held_put own holds seq
      obtain ⟨later, restConsistent, restHeld⟩ := inductionHypothesis
        (fun other member => first.consistent (others other member)) (first.holds holds)
        (fun other member => absent other (List.mem_cons_of_mem _ member))
      refine ⟨first.trans later, ?_, ?_⟩
      · intro other member
        rcases List.mem_cons.mp member with rfl | inRest
        · exact later.consistent put
        · exact restConsistent other inRest
      · have settled : ((subscriber.put heap object seq).2.held
            (subscriber.put heap object seq).1).contents.map (refresh event) =
            ((subscriber.put heap object seq).2.held
              (subscriber.put heap object seq).1).contents := by
          rw [held]
          exact HeldEvents.map_refresh_put _ event seq
        have ownHeld := (later.held_eq put settled).trans held
        have restSame : (heldBy (subscriber.put heap object seq).1 rest).map
            (fun sub => (sub.1, sub.2.put event seq)) =
            (heldBy heap rest).map fun sub => (sub.1, sub.2.put event seq) := by
          simp only [heldBy, List.map_map]
          apply List.map_congr_left
          intro other member
          exact congrArg (Prod.mk other.1) (first.held_put (others other member) seq)
        rw [restSame] at restHeld
        simp only [heldBy, GlobalHub.putAll, List.map_cons, Prod.map_apply, id_eq] at restHeld ⊢
        rw [restHeld, ownHeld]

end Contents

/-! ## Simulations -/

namespace GlobalHub

def Consistent (hub : GlobalHub) : Prop := ∀ sub ∈ hub.globalSubs, sub.2.Consistent hub.heap

def contents (hub : GlobalHub) : ContentHub :=
  ⟨heldBy hub.heap hub.globalSubs, hub.seq, hub.subscriptions, hub.obtained⟩

theorem Consistent.publish {hub : GlobalHub} (consistent : hub.Consistent) (event : HubEvent) :
    (hub.publishGlobal event).Consistent ∧
      (hub.publishGlobal event).contents =
        { hub.contents with
          globalSubs := hub.contents.globalSubs.map fun sub => (sub.1, sub.2.put event hub.seq)
          seq := hub.seq + 1 } := by
  have grown : ∀ sub ∈ hub.globalSubs, sub.2.Consistent (hub.heap ++ [.published event]) :=
    fun sub member => (consistent sub member).grow _
  have sameHeld : heldBy (hub.heap ++ [.published event]) hub.globalSubs =
      heldBy hub.heap hub.globalSubs := by
    apply List.map_congr_left
    intro sub member
    exact congrArg (Prod.mk sub.1) (held_grow (consistent sub member) _)
  obtain ⟨-, kept, held⟩ := heldBy_putAll hub.seq grown List.getElem?_concat_length
    fun sub member => (consistent sub member).absent
  refine ⟨kept, ?_⟩
  rw [sameHeld] at held
  unfold contents
  rw [← held]
  rfl

theorem Consistent.step (hub : GlobalHub) (call : HubCall) (next : GlobalHub)
    (consistent : hub.Consistent) (stepped : hub.step call = some next) : next.Consistent := by
  cases call with
  | subscribe =>
      obtain rfl := Option.some.inj stepped
      exact forall_subscribed consistent (consistent_create _ _ _) hub.subscriptions
  | unsubscribe subscription =>
      obtain rfl := Option.some.inj stepped
      intro sub member
      exact consistent sub (List.mem_of_mem_eraseP member)
  | publish event =>
      obtain rfl := Option.some.inj stepped
      exact (consistent.publish event).1
  | get subscription =>
      obtain ⟨taken, takes, rfl⟩ := Option.map_eq_some_iff.mp stepped
      exact forall_takeFrom consistent_get consistent takes

/-- **Step simulation.** The contents of the shared dictionaries change as those of the
content hub. -/
theorem contents_step (hub : GlobalHub) (call : HubCall) (consistent : hub.Consistent) :
    (hub.step call).map contents = hub.contents.step call := by
  cases call with
  | subscribe =>
      simp only [step, ContentHub.step, contents, heldBy, Option.map_some, List.map_append]
      rfl
  | unsubscribe subscription =>
      simp only [step, ContentHub.step, contents, heldBy, Option.map_some, List.eraseP_map]
      rfl
  | publish event =>
      exact congrArg some (consistent.publish event).2
  | get subscription =>
      have agrees := map_takeFrom subscription
        fun sub member => held_get (consistent sub member)
      simp only [step, ContentHub.step, contents, heldBy, ← agrees, Option.map_map]
      rfl

end GlobalHub

namespace OwnedBuffer

def Consistent (owned : OwnedBuffer) : Prop := owned.2.Consistent owned.1

/-- What a buffer with its own dictionaries holds. -/
def held (owned : OwnedBuffer) : HeldEvents := owned.2.held owned.1

/-- The put of a copy is the put of its content. -/
theorem held_put {owned : OwnedBuffer} (consistent : owned.Consistent) (event : HubEvent)
    (seq : Nat) : (owned.put event seq).held = owned.held.put event seq := by
  have grown := Subscriber.Consistent.grow consistent [.published event]
  have put := QuAIA.Orchestrator.held_put grown List.getElem?_concat_length seq
  rw [held_grow consistent] at put
  exact put

theorem held_get {owned : OwnedBuffer} (consistent : owned.Consistent) :
    owned.get.map (Prod.map id held) = owned.held.get := by
  have get := QuAIA.Orchestrator.held_get consistent
  unfold OwnedBuffer.get held
  rw [← get, Option.map_map]
  rfl

theorem consistent_get (owned : OwnedBuffer) (taken : Option Payload × OwnedBuffer)
    (consistent : owned.Consistent) (takes : owned.get = some taken) : taken.2.Consistent := by
  obtain ⟨first, gets, rfl⟩ := Option.map_eq_some_iff.mp takes
  exact QuAIA.Orchestrator.consistent_get owned.2 first consistent gets

end OwnedBuffer

namespace PrivateHub

def Consistent (hub : PrivateHub) : Prop := ∀ sub ∈ hub.globalSubs, sub.2.Consistent

def contents (hub : PrivateHub) : ContentHub :=
  ⟨hub.globalSubs.map (Prod.map id OwnedBuffer.held), hub.seq, hub.subscriptions, hub.obtained⟩

theorem Consistent.step (hub : PrivateHub) (call : HubCall) (next : PrivateHub)
    (consistent : hub.Consistent) (stepped : hub.step call = some next) : next.Consistent := by
  cases call with
  | subscribe =>
      obtain rfl := Option.some.inj stepped
      have fresh : OwnedBuffer.Consistent ([], .create queueMaxsize one_le_queueMaxsize) :=
        consistent_create _ _ _
      exact forall_subscribed consistent fresh hub.subscriptions
  | unsubscribe subscription =>
      obtain rfl := Option.some.inj stepped
      intro sub member
      exact consistent sub (List.mem_of_mem_eraseP member)
  | publish event =>
      obtain rfl := Option.some.inj stepped
      intro sub member
      obtain ⟨earlier, inside, rfl⟩ := List.mem_map.mp member
      exact Subscriber.Consistent.put (consistent earlier inside) hub.seq
  | get subscription =>
      obtain ⟨taken, takes, rfl⟩ := Option.map_eq_some_iff.mp stepped
      exact forall_takeFrom OwnedBuffer.consistent_get consistent takes

theorem contents_step (hub : PrivateHub) (call : HubCall) (consistent : hub.Consistent) :
    (hub.step call).map contents = hub.contents.step call := by
  cases call with
  | subscribe =>
      simp only [step, ContentHub.step, contents, Option.map_some, List.map_append]
      rfl
  | unsubscribe subscription =>
      simp only [step, ContentHub.step, contents, Option.map_some, List.eraseP_map]
      rfl
  | publish event =>
      have sameHeld : (hub.globalSubs.map fun sub => (sub.1, sub.2.put event hub.seq)).map
          (Prod.map id OwnedBuffer.held) =
          (hub.globalSubs.map (Prod.map id OwnedBuffer.held)).map
            fun sub => (sub.1, sub.2.put event hub.seq) := by
        rw [List.map_map, List.map_map]
        apply List.map_congr_left
        intro sub member
        exact congrArg (Prod.mk sub.1)
          (OwnedBuffer.held_put (consistent sub member) event hub.seq)
      simp only [step, ContentHub.step, contents, Option.map_some, sameHeld]
  | get subscription =>
      have agrees := map_takeFrom subscription
        fun sub member => OwnedBuffer.held_get (consistent sub member)
      simp only [step, ContentHub.step, contents, ← agrees, Option.map_map]
      rfl

end PrivateHub

/-- **Sharing is unobservable.** Over every sequence of publications, gets, subscriptions and
unsubscriptions, each subscriber obtains the same contents from shared dictionaries as from
copies of its own. -/
theorem sharing_unobservable (calls : List HubCall) (subscription : Nat) :
    (run GlobalHub.step .create calls).map (fun hub => obtainedBy hub.obtained subscription) =
      (run PrivateHub.step .create calls).map
        fun hub => obtainedBy hub.obtained subscription := by
  have sharedStart : GlobalHub.create.Consistent := nofun
  have privateStart : PrivateHub.create.Consistent := nofun
  have shared : (run GlobalHub.step .create calls).map GlobalHub.contents =
      run ContentHub.step ⟨[], 0, 0, []⟩ calls :=
    map_run GlobalHub.Consistent.step GlobalHub.contents_step sharedStart
  have copied : (run PrivateHub.step .create calls).map PrivateHub.contents =
      run ContentHub.step ⟨[], 0, 0, []⟩ calls :=
    map_run PrivateHub.Consistent.step PrivateHub.contents_step privateStart
  have same := congrArg
    (Option.map fun hub : ContentHub => obtainedBy hub.obtained subscription)
    (shared.trans copied.symm)
  rw [Option.map_map, Option.map_map] at same
  exact same

end QuAIA.Orchestrator
