import QuAIA.Common.Streaming
import QuAIA.Library.CoalescingBuffer
import QuAIA.Library.RefIndex
import QuAIA.Library.StepSystem

/-!
Contract: the bounded buffer of one dashboard subscriber (`_Subscriber`).

Owns: the deque and its activity index, coalescing in place, overflow, and the account
of every event that was put into the buffer.

Does not own: the hub's subscriber lists. Event dictionaries are objects of a heap, so
that the mutation of a buffered one is a write to it.
-/

set_option autoImplicit false

namespace QuAIA.Orchestrator

open QuAIA.Common
open QuAIA.Library
open QuAIA.Library.StepSystem
open QuAIA.Library.CoalescingBuffer (Entry Buffer)

/-! ## The code -/

/-- The event dictionaries, in the order of their creation. -/
abbrev EventHeap := List Payload

/-- `_Subscriber`: the deque holds references to dictionaries. -/
structure Subscriber where
  maxsize : Nat
  positive : 1 ≤ maxsize
  items : List Nat
  activityIndex : Dict String Nat

def Subscriber.create (maxsize : Nat) (positive : 1 ≤ maxsize) : Subscriber :=
  ⟨maxsize, positive, [], .empty⟩

/-- `_QUEUE_MAXSIZE`. -/
def queueMaxsize : Nat := 256

/-- The task of a dictionary that holds an activity. -/
def activityTaskOf (heap : EventHeap) (item : Nat) : Option String :=
  heap[item]?.bind Payload.activityTask

namespace Subscriber

/-- `_discard_from_index`. -/
def discardFromIndex (heap : EventHeap) (subscriber : Subscriber) (item : Nat) : Subscriber :=
  match activityTaskOf heap item with
  | some taskId =>
      if subscriber.activityIndex.get? taskId = some item then
        { subscriber with activityIndex := subscriber.activityIndex.pop taskId }
      else subscriber
  | none => subscriber

def full (subscriber : Subscriber) : Bool :=
  decide (subscriber.maxsize ≤ subscriber.items.length)

/-- `_append`: the gap is a new dictionary. -/
def append (heap : EventHeap) (subscriber : Subscriber) (event seq : Nat) :
    EventHeap × Subscriber :=
  if subscriber.full then
    match subscriber.items with
    -- A full buffer has an item.
    | [] => (heap, subscriber)
    | dropped :: rest =>
        let popped := discardFromIndex heap { subscriber with items := rest } dropped
        (heap ++ [.gap ⟨"queue_overflow", seq, seq⟩],
          { popped with items := popped.items ++ [heap.length] })
  else
    (heap,
      { subscriber with
        items := subscriber.items ++ [event]
        activityIndex :=
          match activityTaskOf heap event with
          | some taskId => subscriber.activityIndex.set taskId event
          | none => subscriber.activityIndex })

/-- The buffered dictionary that an activity goes into. -/
def slotFor (heap : EventHeap) (subscriber : Subscriber) (event : Nat) : Option Nat :=
  (activityTaskOf heap event).bind subscriber.activityIndex.get?

/-- `_put_locked`: coalescing overwrites the buffered dictionary. -/
def put (heap : EventHeap) (subscriber : Subscriber) (event seq : Nat) :
    EventHeap × Subscriber :=
  match slotFor heap subscriber event with
  | some existing =>
      match heap[event]? with
      | some payload => (heap.set existing payload, subscriber)
      | none => (heap, subscriber)
  | none => append heap subscriber event seq

/-- `get`; `none` where it waits. -/
def get (heap : EventHeap) (subscriber : Subscriber) : Option (Nat × Subscriber) :=
  match subscriber.items with
  | [] => none
  | item :: rest => some (item, discardFromIndex heap { subscriber with items := rest } item)

/-! ## The representation -/

/-- The index maps exactly the tasks of buffered activities to their dictionaries. -/
structure Consistent (heap : EventHeap) (subscriber : Subscriber) : Prop where
  allocated : ∀ item ∈ subscriber.items, item < heap.length
  indexes : Indexes (activityTaskOf heap) subscriber.items subscriber.activityIndex

variable {heap : EventHeap} {subscriber : Subscriber}

theorem activityTaskOf_append {item : Nat} (allocated : item < heap.length)
    (more : EventHeap) : activityTaskOf (heap ++ more) item = activityTaskOf heap item := by
  rw [activityTaskOf, activityTaskOf, List.getElem?_append_left allocated]

@[simp] theorem activityTaskOf_new (event : HubEvent) :
    activityTaskOf (heap ++ [.published event]) heap.length = event.activityTask := by
  rw [activityTaskOf, List.getElem?_concat_length]
  rfl

theorem activityTaskOf_set_ne {item other : Nat} (different : other ≠ item)
    (payload : Payload) :
    activityTaskOf (heap.set item payload) other = activityTaskOf heap other := by
  rw [activityTaskOf, activityTaskOf, List.getElem?_set_ne (Ne.symm different)]

theorem activityTaskOf_set_self {item : Nat} (allocated : item < heap.length)
    (payload : Payload) :
    activityTaskOf (heap.set item payload) item = payload.activityTask := by
  rw [activityTaskOf, List.getElem?_set_self allocated]
  rfl

theorem discardFromIndex_items (item : Nat) :
    (discardFromIndex heap subscriber item).items = subscriber.items := by
  unfold discardFromIndex
  split
  · split <;> rfl
  · rfl

theorem discardFromIndex_maxsize (item : Nat) :
    (discardFromIndex heap subscriber item).maxsize = subscriber.maxsize := by
  unfold discardFromIndex
  split
  · split <;> rfl
  · rfl

/-- In a consistent subscriber the item is the one that the index has. -/
theorem Consistent.discarded {item : Nat} {rest : List Nat}
    (consistent : subscriber.Consistent heap) (split : subscriber.items = item :: rest) :
    (discardFromIndex heap { subscriber with items := rest } item).activityIndex =
      unregister subscriber.activityIndex (activityTaskOf heap item) := by
  unfold discardFromIndex
  cases task : activityTaskOf heap item with
  | none => rfl
  | some taskId =>
      have member : item ∈ subscriber.items := by simp [split]
      simp [consistent.indexes.get?_of_mem member task, unregister]

/-- Taking the first item out of the deque and out of the index. -/
theorem Consistent.pop {item : Nat} {rest : List Nat}
    (consistent : subscriber.Consistent heap) (split : subscriber.items = item :: rest) :
    (discardFromIndex heap { subscriber with items := rest } item).Consistent heap := by
  constructor
  · intro other member
    rw [discardFromIndex_items] at member
    exact consistent.allocated other (by rw [split]; exact List.mem_cons_of_mem _ member)
  · rw [discardFromIndex_items, consistent.discarded split]
    have indexes := consistent.indexes
    rw [split] at indexes
    exact indexes.pop

/-- A consistent subscriber stays so while the heap grows. -/
theorem Consistent.grow (consistent : subscriber.Consistent heap) (more : EventHeap) :
    subscriber.Consistent (heap ++ more) := by
  constructor
  · intro item member
    have allocated := consistent.allocated item member
    rw [List.length_append]
    omega
  · apply consistent.indexes.congr
    intro item member
    exact activityTaskOf_append (consistent.allocated item member) more

theorem Consistent.push {item : Nat} (consistent : subscriber.Consistent heap)
    (allocated : item < heap.length) (absent : item ∉ subscriber.items)
    (free : ∀ taskId, activityTaskOf heap item = some taskId →
      subscriber.activityIndex.get? taskId = none) :
    Consistent heap
      { subscriber with
        items := subscriber.items ++ [item]
        activityIndex :=
          register subscriber.activityIndex item (activityTaskOf heap item) } := by
  constructor
  · intro other member
    rcases List.mem_append.mp member with inside | added
    · exact consistent.allocated other inside
    · exact List.mem_singleton.mp added ▸ allocated
  · exact consistent.indexes.push absent free

/-! ### The cases of a put -/

theorem put_of_slot {object existing : Nat} {payload : Payload} (seq : Nat)
    (slot : slotFor heap subscriber object = some existing)
    (holds : heap[object]? = some payload) :
    put heap subscriber object seq = (heap.set existing payload, subscriber) := by
  simp [put, slot, holds]

theorem put_of_room {object : Nat} (seq : Nat) (missing : slotFor heap subscriber object = none)
    (room : subscriber.full = false) :
    put heap subscriber object seq =
      (heap,
        { subscriber with
          items := subscriber.items ++ [object]
          activityIndex :=
            register subscriber.activityIndex object (activityTaskOf heap object) }) := by
  rw [put, missing]
  simp only [append, room, Bool.false_eq_true, if_false]
  cases activityTaskOf heap object <;> rfl

theorem put_of_overflow {object dropped : Nat} {rest : List Nat} (seq : Nat)
    (missing : slotFor heap subscriber object = none) (full : subscriber.full = true)
    (split : subscriber.items = dropped :: rest) :
    put heap subscriber object seq =
      (heap ++ [.gap ⟨"queue_overflow", seq, seq⟩],
        { discardFromIndex heap { subscriber with items := rest } dropped with
          items := rest ++ [heap.length] }) := by
  rw [put, missing]
  simp only [append, full, if_true, split, discardFromIndex_items]

theorem exists_of_full (full : subscriber.full = true) :
    ∃ dropped rest, subscriber.items = dropped :: rest := by
  have long : subscriber.maxsize ≤ subscriber.items.length := of_decide_eq_true full
  have positive := subscriber.positive
  cases items : subscriber.items with
  | nil =>
      rw [items, List.length_nil] at long
      omega
  | cons dropped rest => exact ⟨dropped, rest, rfl⟩

/-- A slot is the buffered dictionary of the task's activity. -/
theorem Consistent.slotted {object existing : Nat} (consistent : subscriber.Consistent heap)
    (slot : slotFor heap subscriber object = some existing) :
    ∃ taskId, activityTaskOf heap object = some taskId ∧ existing ∈ subscriber.items ∧
      activityTaskOf heap existing = some taskId := by
  rw [Subscriber.slotFor, Option.bind_eq_some_iff] at slot
  obtain ⟨taskId, isTask, indexed⟩ := slot
  exact ⟨taskId, isTask, (consistent.indexes.indexed taskId existing).mp indexed⟩

/-- A buffered dictionary is overwritten with an activity of its task. -/
theorem Consistent.overwrite {existing : Nat} {payload : Payload}
    (consistent : subscriber.Consistent heap)
    (sameTask : existing < heap.length → payload.activityTask = activityTaskOf heap existing) :
    subscriber.Consistent (heap.set existing payload) := by
  constructor
  · simpa using consistent.allocated
  · apply consistent.indexes.congr
    intro item member
    by_cases same : item = existing
    · subst same
      have allocated := consistent.allocated item member
      rw [activityTaskOf_set_self allocated, sameTask allocated]
    · rw [activityTaskOf_set_ne same]

/-- The put of a dictionary that is not in the deque. -/
theorem Consistent.putObject {object : Nat} {payload : Payload}
    (consistent : subscriber.Consistent heap) (seq : Nat)
    (holds : heap[object]? = some payload) (absent : object ∉ subscriber.items) :
    (put heap subscriber object seq).2.Consistent (put heap subscriber object seq).1 := by
  have allocated : object < heap.length := (List.getElem?_eq_some_iff.mp holds).1
  have task : activityTaskOf heap object = payload.activityTask := by
    rw [activityTaskOf, holds, Option.bind_some]
  cases found : Subscriber.slotFor heap subscriber object with
  | some existing =>
      obtain ⟨taskId, isTask, -, sameTask⟩ := consistent.slotted found
      rw [put_of_slot seq found holds]
      apply consistent.overwrite
      intro _
      rw [sameTask, ← isTask, task]
  | none =>
      cases full : subscriber.full with
      | false =>
          rw [put_of_room seq found full]
          apply consistent.push allocated absent
          intro taskId isTask
          rw [Subscriber.slotFor, isTask] at found
          exact found
      | true =>
          obtain ⟨dropped, rest, split⟩ := exists_of_full full
          rw [put_of_overflow seq found full split]
          have popped := consistent.pop split
          have restItems : (discardFromIndex heap { subscriber with items := rest }
              dropped).items = rest := discardFromIndex_items dropped
          have regrown := popped.grow [.gap ⟨"queue_overflow", seq, seq⟩]
          have gapTask : activityTaskOf (heap ++ [.gap ⟨"queue_overflow", seq, seq⟩])
              heap.length = none := by
            simp [activityTaskOf, Payload.activityTask]
          have gapAbsent : heap.length ∉ (discardFromIndex heap
              { subscriber with items := rest } dropped).items :=
            fun member => Nat.lt_irrefl _ (popped.allocated _ member)
          have gapAllocated : heap.length <
              (heap ++ [Payload.gap ⟨"queue_overflow", seq, seq⟩]).length := by
            simp
          have pushed := regrown.push gapAllocated gapAbsent (by
            intro taskId isTask
            rw [gapTask] at isTask
            cases isTask)
          rw [gapTask, restItems, register] at pushed
          exact pushed

/-! ### The put of a new dictionary

The event is at the end of the heap. -/

theorem slotFor_new (event : HubEvent) :
    slotFor (heap ++ [.published event]) subscriber heap.length =
      event.activityTask.bind subscriber.activityIndex.get? := by
  rw [slotFor, activityTaskOf_new]

theorem put_coalesced {event : HubEvent} {existing : Nat} (seq : Nat)
    (slot : slotFor (heap ++ [.published event]) subscriber heap.length = some existing) :
    put (heap ++ [.published event]) subscriber heap.length seq =
      ((heap ++ [Payload.published event]).set existing (.published event), subscriber) :=
  put_of_slot seq slot List.getElem?_concat_length

theorem put_appended {event : HubEvent} (seq : Nat)
    (missing : slotFor (heap ++ [.published event]) subscriber heap.length = none)
    (room : subscriber.full = false) :
    put (heap ++ [.published event]) subscriber heap.length seq =
      (heap ++ [.published event],
        { subscriber with
          items := subscriber.items ++ [heap.length]
          activityIndex :=
            register subscriber.activityIndex heap.length event.activityTask }) := by
  rw [put_of_room seq missing room, activityTaskOf_new]

theorem put_overflowed {event : HubEvent} {dropped : Nat} {rest : List Nat} (seq : Nat)
    (missing : slotFor (heap ++ [.published event]) subscriber heap.length = none)
    (full : subscriber.full = true) (split : subscriber.items = dropped :: rest) :
    put (heap ++ [.published event]) subscriber heap.length seq =
      ((heap ++ [.published event]) ++ [.gap ⟨"queue_overflow", seq, seq⟩],
        { discardFromIndex (heap ++ [.published event]) { subscriber with items := rest }
            dropped with
          items := rest ++ [heap.length + 1] }) := by
  rw [put_of_overflow seq missing full split, List.length_append, List.length_singleton]

theorem Consistent.slot {event : HubEvent} {existing : Nat}
    (consistent : subscriber.Consistent heap)
    (slot : slotFor (heap ++ [.published event]) subscriber heap.length = some existing) :
    ∃ taskId, event.activityTask = some taskId ∧ existing ∈ subscriber.items ∧
      activityTaskOf heap existing = some taskId := by
  rw [slotFor_new, Option.bind_eq_some_iff] at slot
  obtain ⟨taskId, isTask, indexed⟩ := slot
  exact ⟨taskId, isTask, (consistent.indexes.indexed taskId existing).mp indexed⟩

/-- A new dictionary is in no deque. -/
theorem Consistent.absent (consistent : subscriber.Consistent heap) :
    heap.length ∉ subscriber.items :=
  fun member => Nat.lt_irrefl _ (consistent.allocated _ member)

theorem Consistent.put {event : HubEvent} (consistent : subscriber.Consistent heap)
    (seq : Nat) :
    (put (heap ++ [.published event]) subscriber heap.length seq).2.Consistent
      (put (heap ++ [.published event]) subscriber heap.length seq).1 :=
  (consistent.grow [.published event]).putObject seq List.getElem?_concat_length
    consistent.absent

end Subscriber

/-! ## The account of a subscriber

A run of calls on one subscriber, each put with a new dictionary. `numbers` gives a
dictionary the sequence number of the put that wrote it last. -/

inductive SubscriberCall where
  | put (event : HubEvent) (seq : Nat)
  | get

structure SubscriberRun where
  heap : EventHeap
  subscriber : Subscriber
  numbers : Nat → Nat
  delivered : List (Nat × Payload)
  superseded : List (Nat × Nat)
  puts : List (Nat × HubEvent)

namespace SubscriberRun

def create (maxsize : Nat) (positive : 1 ≤ maxsize) : SubscriberRun :=
  ⟨[], .create maxsize positive, fun _ => 0, [], [], []⟩

/-- The buffered dictionary that the event would go into. -/
def slot (run : SubscriberRun) (event : HubEvent) : Option Nat :=
  run.subscriber.slotFor (run.heap ++ [.published event]) run.heap.length

def put (run : SubscriberRun) (event : HubEvent) (seq : Nat) : SubscriberRun :=
  let object := run.heap.length
  let result := run.subscriber.put (run.heap ++ [.published event]) object seq
  { heap := result.1
    subscriber := result.2
    numbers := fun item =>
      if run.slot event = some item ∨ object ≤ item then seq else run.numbers item
    delivered := run.delivered
    superseded :=
      match run.slot event with
      | some existing => run.superseded ++ [(run.numbers existing, seq)]
      | none => run.superseded
    puts := run.puts ++ [(seq, event)] }

/-- What a dictionary holds, under its number. -/
def numbered (run : SubscriberRun) (item : Nat) : Option (Nat × Payload) :=
  run.heap[item]?.map fun payload => (run.numbers item, payload)

/-- The hub numbers its events upwards; a waiting `get` is no step. -/
def step (run : SubscriberRun) : SubscriberCall → Option SubscriberRun
  | .put event seq =>
      if run.puts.all (fun earlier => earlier.1 < seq) then some (run.put event seq) else none
  | .get =>
      match run.subscriber.get run.heap with
      | none => none
      | some (item, subscriber) =>
          some { run with
            subscriber := subscriber
            delivered := run.delivered ++ (run.numbered item).toList }

def buffered (run : SubscriberRun) : List (Nat × Payload) :=
  run.subscriber.items.filterMap run.numbered

/-- A later activity of the same task was coalesced into the event's slot. -/
def Superseded (run : SubscriberRun) (seq : Nat) (event : HubEvent) : Prop :=
  ∃ later ∈ run.puts, (seq, later.1) ∈ run.superseded ∧ seq < later.1 ∧
    event.activityTask ≠ none ∧ later.2.activityTask = event.activityTask

/-- A gap that is buffered or was delivered covers the number. -/
def InGap (run : SubscriberRun) (seq : Nat) : Prop :=
  ∃ number gap, (number, .gap gap) ∈ run.buffered ++ run.delivered ∧
    gap.since ≤ seq ∧ seq ≤ gap.untilSeq

def Accounted (run : SubscriberRun) (put : Nat × HubEvent) : Prop :=
  (put.1, .published put.2) ∈ run.buffered ∨ (put.1, .published put.2) ∈ run.delivered ∨
    run.Superseded put.1 put.2 ∨ run.InGap put.1

def NoSilentLoss (run : SubscriberRun) : Prop := ∀ put ∈ run.puts, run.Accounted put

/-- An event that is not coalesced finds the buffer full. -/
def Overflows (run : SubscriberRun) : SubscriberCall → Prop
  | .put event _ => run.slot event = none ∧ run.subscriber.full = true
  | .get => False

instance (run : SubscriberRun) (call : SubscriberCall) : Decidable (run.Overflows call) :=
  match call with
  | .put _ _ => inferInstanceAs (Decidable (_ ∧ _))
  | .get => isFalse id

/-! ### Refinement of the coalescing buffer -/

def entryOf (numbered : Nat × Payload) : Entry HubEvent := ⟨numbered.1, numbered.2.event?⟩

def entryAt (heap : EventHeap) (numbers : Nat → Nat) (item : Nat) : Entry HubEvent :=
  ⟨numbers item, heap[item]?.bind Payload.event?⟩

/-- The buffer that the run amounts to. -/
def account (run : SubscriberRun) : Buffer HubEvent where
  capacity := run.subscriber.maxsize
  positive := run.subscriber.positive
  contents := run.subscriber.items.map (entryAt run.heap run.numbers)
  delivered := run.delivered.map entryOf
  superseded := run.superseded
  puts := run.puts

/-- Every gap covers the number of the put that made it. -/
structure Represents (run : SubscriberRun) : Prop where
  consistent : run.subscriber.Consistent run.heap
  gaps : ∀ number gap, (number, .gap gap) ∈ run.buffered ++ run.delivered →
    gap.since = number ∧ gap.untilSeq = number

theorem entryAt_key (heap : EventHeap) (numbers : Nat → Nat) (item : Nat) :
    (entryAt heap numbers item).value.bind HubEvent.activityTask =
      activityTaskOf heap item := by
  unfold entryAt activityTaskOf
  cases heap[item]? with
  | none => rfl
  | some payload => cases payload <;> rfl

theorem hasKey_entryAt (heap : EventHeap) (numbers : Nat → Nat) (item : Nat)
    (taskId : String) :
    (entryAt heap numbers item).hasKey HubEvent.activityTask taskId =
      decide (activityTaskOf heap item = some taskId) := by
  rw [Entry.hasKey, entryAt_key]

theorem slot_account {run : SubscriberRun} (represents : run.Represents) (event : HubEvent) :
    CoalescingBuffer.slot HubEvent.activityTask run.account.contents event =
      (run.slot event).map (entryAt run.heap run.numbers) := by
  have indexes := represents.consistent.indexes
  rw [slot, Subscriber.slotFor_new, CoalescingBuffer.slot]
  cases event.activityTask with
  | none => rfl
  | some taskId =>
      simp only [Option.bind_some, account, List.find?_map]
      cases registered : run.subscriber.activityIndex.get? taskId with
      | none =>
          rw [Option.map_none, Option.map_eq_none_iff, List.find?_eq_none]
          intro item member
          simp only [Function.comp, hasKey_entryAt, decide_eq_true_eq]
          intro isTask
          have found := indexes.get?_of_mem member isTask
          rw [registered] at found
          cases found
      | some existing =>
          have isExisting := (indexes.indexed taskId existing).mp registered
          cases found : run.subscriber.items.find?
              (Entry.hasKey HubEvent.activityTask taskId ∘ entryAt run.heap run.numbers) with
          | none =>
              rw [List.find?_eq_none] at found
              have absent := found existing isExisting.1
              simp [Function.comp, hasKey_entryAt, isExisting.2] at absent
          | some item =>
              have member := List.mem_of_find?_eq_some found
              have matched := List.find?_some found
              simp only [Function.comp, hasKey_entryAt, decide_eq_true_eq] at matched
              have same := indexes.unique member matched isExisting.1 isExisting.2
              rw [same]

theorem overflows_account {run : SubscriberRun} (represents : run.Represents)
    (event : HubEvent) (seq : Nat) :
    run.account.Overflows HubEvent.activityTask (.put event seq) ↔
      run.Overflows (.put event seq) := by
  simp only [Buffer.Overflows, Overflows, slot_account represents, Option.map_eq_none_iff]
  simp [Buffer.full, Subscriber.full, account]

theorem mem_buffered_iff {run : SubscriberRun} {number : Nat} {payload : Payload} :
    (number, payload) ∈ run.buffered ↔
      ∃ item ∈ run.subscriber.items, run.heap[item]? = some payload ∧
        run.numbers item = number := by
  unfold buffered numbered
  rw [List.mem_filterMap]
  constructor
  · rintro ⟨item, member, found⟩
    rw [Option.map_eq_some_iff] at found
    obtain ⟨held, read, same⟩ := found
    rw [Prod.mk.injEq] at same
    exact ⟨item, member, by rw [read, same.2], same.1⟩
  · rintro ⟨item, member, read, same⟩
    exact ⟨item, member, by rw [read, Option.map_some, same]⟩

theorem subscriber_put (run : SubscriberRun) (event : HubEvent) (seq : Nat) :
    (run.put event seq).subscriber =
      (run.subscriber.put (run.heap ++ [.published event]) run.heap.length seq).2 := rfl

theorem heap_put (run : SubscriberRun) (event : HubEvent) (seq : Nat) :
    (run.put event seq).heap =
      (run.subscriber.put (run.heap ++ [.published event]) run.heap.length seq).1 := rfl

theorem superseded_put {run : SubscriberRun} {event : HubEvent} {seq : Nat}
    (missing : run.slot event = none) : (run.put event seq).superseded = run.superseded := by
  simp [put, missing]

/-- Buffered dictionaries that a put does not touch keep entry and contents. -/
theorem getElem?_put_heap {run : SubscriberRun} {item : Nat} (event : HubEvent)
    (more : EventHeap) (allocated : item < run.heap.length) :
    ((run.heap ++ [Payload.published event]) ++ more)[item]? = run.heap[item]? := by
  rw [List.append_assoc, List.getElem?_append_left allocated]

theorem map_entryAt_kept {run : SubscriberRun} {items : List Nat} {event : HubEvent}
    (seq : Nat) (allocated : ∀ item ∈ items, item < run.heap.length)
    (missing : run.slot event = none) (more : EventHeap) :
    items.map (entryAt ((run.heap ++ [Payload.published event]) ++ more)
        (run.put event seq).numbers) =
      items.map (entryAt run.heap run.numbers) := by
  apply List.map_congr_left
  intro item member
  have small := allocated item member
  have sameNumber : (run.put event seq).numbers item = run.numbers item := by
    simp [put, missing, Nat.not_le.mpr small]
  rw [entryAt, entryAt, sameNumber, getElem?_put_heap event more small]

theorem account_coalesced {run : SubscriberRun} (represents : run.Represents)
    {event : HubEvent} {existing : Nat} (seq : Nat)
    (found : run.slot event = some existing) :
    (run.put event seq).account = run.account.put HubEvent.activityTask event seq := by
  have consistent := represents.consistent
  obtain ⟨taskId, isTask, member, sameTask⟩ := consistent.slot found
  have slotFound := slot_account represents event
  rw [found, Option.map_some] at slotFound
  rw [Buffer.put_of_slot isTask slotFound]
  have result := Subscriber.put_coalesced seq found
  have contents : run.subscriber.items.map
      (entryAt ((run.heap ++ [Payload.published event]).set existing (.published event))
        (run.put event seq).numbers) =
      CoalescingBuffer.coalesce HubEvent.activityTask run.account.contents taskId
        ⟨seq, some event⟩ := by
    simp only [CoalescingBuffer.coalesce, account, List.map_map]
    apply List.map_congr_left
    intro item inside
    have small := consistent.allocated item inside
    simp only [Function.comp, hasKey_entryAt, decide_eq_true_eq]
    by_cases same : item = existing
    · subst same
      have large : item < (run.heap ++ [Payload.published event]).length := by
        rw [List.length_append]
        omega
      rw [if_pos sameTask, entryAt, List.getElem?_set_self large]
      simp [put, found, Payload.event?]
    · have otherTask : activityTaskOf run.heap item ≠ some taskId := by
        intro isSame
        exact same (consistent.indexes.unique inside isSame member sameTask)
      have sameNumber : (run.put event seq).numbers item = run.numbers item := by
        simp [put, found, Nat.not_le.mpr small, Ne.symm same]
      rw [if_neg otherTask, entryAt, sameNumber, List.getElem?_set_ne (Ne.symm same),
        List.getElem?_append_left small]
      rfl
  simp only [put, found, result, account, entryAt] at contents ⊢
  rw [contents]

theorem account_appended {run : SubscriberRun} (represents : run.Represents)
    {event : HubEvent} (seq : Nat) (missing : run.slot event = none)
    (room : run.subscriber.full = false) :
    (run.put event seq).account = run.account.put HubEvent.activityTask event seq := by
  have slotMissing := slot_account represents event
  rw [missing, Option.map_none] at slotMissing
  have accountRoom : run.account.full = false := by
    simpa [Buffer.full, Subscriber.full, account] using room
  rw [Buffer.put_of_no_slot slotMissing, accountRoom]
  have result := Subscriber.put_appended seq missing room
  have kept := map_entryAt_kept seq represents.consistent.allocated missing []
  rw [List.append_nil] at kept
  have added : entryAt (run.heap ++ [Payload.published event]) (run.put event seq).numbers
      run.heap.length = ⟨seq, some event⟩ := by
    simp [entryAt, put, Payload.event?]
  rw [account, superseded_put missing, heap_put]
  simp only [subscriber_put, result, List.map_append, List.map_cons, List.map_nil, kept, added]
  rfl

theorem account_overflowed {run : SubscriberRun} (represents : run.Represents)
    {event : HubEvent} (seq : Nat) (missing : run.slot event = none)
    (full : run.subscriber.full = true) :
    (run.put event seq).account = run.account.put HubEvent.activityTask event seq := by
  obtain ⟨dropped, rest, split⟩ := Subscriber.exists_of_full full
  have slotMissing := slot_account represents event
  rw [missing, Option.map_none] at slotMissing
  have accountFull : run.account.full = true := by
    simpa [Buffer.full, Subscriber.full, account] using full
  rw [Buffer.put_of_no_slot slotMissing, accountFull]
  have result := Subscriber.put_overflowed seq missing full split
  have allocated : ∀ item ∈ rest, item < run.heap.length := by
    intro item member
    exact represents.consistent.allocated item (by rw [split]; exact List.mem_cons_of_mem _ member)
  have kept := map_entryAt_kept seq allocated missing
    [.gap ⟨"queue_overflow", seq, seq⟩]
  have added : entryAt ((run.heap ++ [Payload.published event]) ++
      [.gap ⟨"queue_overflow", seq, seq⟩]) (run.put event seq).numbers
      (run.heap.length + 1) = ⟨seq, none⟩ := by
    simp [entryAt, put, Payload.event?]
  have tail : run.account.contents.tail = rest.map (entryAt run.heap run.numbers) := by
    simp [account, split]
  rw [account, superseded_put missing, heap_put]
  simp only [subscriber_put, result, List.map_append, List.map_cons, List.map_nil, kept, added,
    tail, Subscriber.discardFromIndex_maxsize]
  rfl

theorem account_put {run : SubscriberRun} (represents : run.Represents) (event : HubEvent)
    (seq : Nat) :
    (run.put event seq).account = run.account.put HubEvent.activityTask event seq := by
  cases found : run.slot event with
  | some existing => exact account_coalesced represents seq found
  | none =>
      cases full : run.subscriber.full with
      | false => exact account_appended represents seq found full
      | true => exact account_overflowed represents seq found full

/-! ### Steps -/

/-- A buffered gap was buffered before the put, or is the one that the put made. -/
theorem gap_put {run : SubscriberRun} (represents : run.Represents) {event : HubEvent}
    {seq number : Nat} {gap : GapEvent}
    (member : (number, .gap gap) ∈ (run.put event seq).buffered) :
    (number, .gap gap) ∈ run.buffered ∨
      (number = seq ∧ gap = ⟨"queue_overflow", seq, seq⟩) := by
  have consistent := represents.consistent
  rw [mem_buffered_iff] at member
  obtain ⟨item, inside, read, numbered⟩ := member
  -- A dictionary from before the put is read as before, unless it is the slot.
  have old : item ∈ run.subscriber.items → run.slot event ≠ some item →
      run.heap[item]? = some (.gap gap) → (number, .gap gap) ∈ run.buffered := by
    intro wasInside notSlot wasRead
    have small := consistent.allocated item wasInside
    refine mem_buffered_iff.mpr ⟨item, wasInside, wasRead, ?_⟩
    simpa [put, notSlot, Nat.not_le.mpr small] using numbered
  simp only [put] at inside read
  cases found : run.slot event with
  | some existing =>
      rw [Subscriber.put_coalesced seq found] at inside read
      have small := consistent.allocated item inside
      by_cases same : item = existing
      · subst same
        have large : item < (run.heap ++ [Payload.published event]).length := by
          rw [List.length_append]
          omega
        rw [List.getElem?_set_self large] at read
        cases read
      · rw [List.getElem?_set_ne (Ne.symm same), List.getElem?_append_left small] at read
        exact .inl (old inside (by simpa [found] using Ne.symm same) read)
  | none =>
      cases full : run.subscriber.full with
      | false =>
          rw [Subscriber.put_appended seq found full] at inside read
          rcases List.mem_append.mp inside with wasInside | added
          · have small := consistent.allocated item wasInside
            rw [List.getElem?_append_left small] at read
            exact .inl (old wasInside (by simp [found]) read)
          · rw [List.mem_singleton.mp added, List.getElem?_concat_length] at read
            cases read
      | true =>
          obtain ⟨dropped, rest, split⟩ := Subscriber.exists_of_full full
          rw [Subscriber.put_overflowed seq found full split] at inside read
          rcases List.mem_append.mp inside with inRest | added
          · have wasInside : item ∈ run.subscriber.items := by
              rw [split]
              exact List.mem_cons_of_mem _ inRest
            have small := consistent.allocated item wasInside
            rw [getElem?_put_heap event _ small] at read
            exact .inl (old wasInside (by simp [found]) read)
          · rw [List.mem_singleton] at added
            subst added
            simp only [List.append_assoc, List.getElem?_append_right, Nat.le_add_right,
              Nat.add_sub_cancel_left] at read
            right
            constructor
            · simpa [put] using numbered.symm
            · simpa using read.symm

theorem represents_put {run : SubscriberRun} (represents : run.Represents)
    (event : HubEvent) (seq : Nat) : (run.put event seq).Represents := by
  constructor
  · exact represents.consistent.put seq
  · intro number gap member
    rcases List.mem_append.mp member with inBuffer | inDelivered
    · rcases gap_put represents inBuffer with earlier | ⟨rfl, rfl⟩
      · exact represents.gaps number gap (List.mem_append_left _ earlier)
      · exact ⟨rfl, rfl⟩
    · exact represents.gaps number gap (List.mem_append_right _ inDelivered)

theorem step_get {run next : SubscriberRun} (stepped : run.step .get = some next) :
    ∃ item rest, run.subscriber.items = item :: rest ∧
      next = { run with
        subscriber :=
          Subscriber.discardFromIndex run.heap { run.subscriber with items := rest } item
        delivered := run.delivered ++ (run.numbered item).toList } := by
  cases items : run.subscriber.items with
  | nil => simp [step, Subscriber.get, items] at stepped
  | cons item rest =>
      simp only [step, Subscriber.get, items, Option.some.injEq] at stepped
      exact ⟨item, rest, rfl, stepped.symm⟩

/-- A step of the subscriber is the step of the coalescing buffer. -/
def callOf : SubscriberCall → CoalescingBuffer.Call HubEvent
  | .put event seq => .put event seq
  | .get => .get

theorem represents_step (run : SubscriberRun) (call : SubscriberCall) (next : SubscriberRun)
    (represents : run.Represents) (stepped : run.step call = some next) :
    next.Represents := by
  cases call with
  | put event seq =>
      simp only [step, Option.ite_none_right_eq_some, Option.some.injEq] at stepped
      exact stepped.2 ▸ represents_put represents event seq
  | get =>
      obtain ⟨item, rest, split, rfl⟩ := step_get stepped
      constructor
      · exact represents.consistent.pop split
      · intro number gap member
        apply represents.gaps
        rw [List.mem_append] at member ⊢
        rcases member with inBuffer | inDelivered
        · left
          obtain ⟨other, inside, read, numbered⟩ := mem_buffered_iff.mp inBuffer
          rw [Subscriber.discardFromIndex_items] at inside
          exact mem_buffered_iff.mpr
            ⟨other, by rw [split]; exact List.mem_cons_of_mem _ inside, read, numbered⟩
        · rcases List.mem_append.mp inDelivered with earlier | added
          · exact .inr earlier
          · left
            rw [Option.mem_toList] at added
            unfold buffered
            rw [List.mem_filterMap]
            exact ⟨item, by rw [split]; exact List.mem_cons_self, added⟩

theorem account_step (run : SubscriberRun) (call : SubscriberCall) (next : SubscriberRun)
    (represents : run.Represents) (stepped : run.step call = some next) :
    run.account.step HubEvent.activityTask (callOf call) = some next.account := by
  cases call with
  | put event seq =>
      simp only [step, Option.ite_none_right_eq_some, Option.some.injEq] at stepped
      obtain ⟨grows, rfl⟩ := stepped
      have accountGrows :
          run.account.puts.all (fun earlier => decide (earlier.1 < seq)) = true := grows
      simp only [callOf, Buffer.step]
      rw [if_pos accountGrows, account_put represents]
  | get =>
      obtain ⟨item, rest, split, rfl⟩ := step_get stepped
      have allocated := represents.consistent.allocated item (by rw [split]; simp)
      have read := List.getElem?_eq_getElem allocated
      simp [callOf, Buffer.step, account, split, numbered, entryOf, entryAt, read,
        Subscriber.discardFromIndex_items, Subscriber.discardFromIndex_maxsize]

/-! ### No silent loss -/

theorem mem_contents_iff {run : SubscriberRun} (represents : run.Represents) {seq : Nat}
    {value : Option HubEvent} :
    ⟨seq, value⟩ ∈ run.account.contents ↔
      ∃ payload, (seq, payload) ∈ run.buffered ∧ payload.event? = value := by
  simp only [account, List.mem_map, mem_buffered_iff]
  constructor
  · rintro ⟨item, member, same⟩
    have read := List.getElem?_eq_getElem (represents.consistent.allocated item member)
    simp only [entryAt, read, Option.bind_some, Entry.mk.injEq] at same
    exact ⟨_, ⟨item, member, read, same.1⟩, same.2⟩
  · rintro ⟨payload, ⟨item, member, read, numbered⟩, holds⟩
    exact ⟨item, member, by simp [entryAt, read, numbered, holds]⟩

theorem mem_delivered_iff {run : SubscriberRun} {seq : Nat} {value : Option HubEvent} :
    ⟨seq, value⟩ ∈ run.account.delivered ↔
      ∃ payload, (seq, payload) ∈ run.delivered ∧ payload.event? = value := by
  simp only [account, List.mem_map]
  constructor
  · rintro ⟨pair, member, same⟩
    simp only [entryOf, Entry.mk.injEq] at same
    exact ⟨pair.2, by rw [← same.1]; exact member, same.2⟩
  · rintro ⟨payload, member, holds⟩
    exact ⟨(seq, payload), member, by simp [entryOf, holds]⟩

theorem event?_eq_some_iff {payload : Payload} {event : HubEvent} :
    payload.event? = some event ↔ payload = .published event := by
  cases payload <;> simp [Payload.event?]

theorem event?_eq_none_iff {payload : Payload} :
    payload.event? = none ↔ ∃ gap, payload = .gap gap := by
  cases payload <;> simp [Payload.event?]

theorem accounted_iff {run : SubscriberRun} (represents : run.Represents)
    (put : Nat × HubEvent) :
    run.account.Accounted HubEvent.activityTask put ↔ run.Accounted put := by
  have gap : ⟨put.1, none⟩ ∈ run.account.contents ++ run.account.delivered ↔
      run.InGap put.1 := by
    rw [List.mem_append, mem_contents_iff represents, mem_delivered_iff, ← exists_or]
    constructor
    · rintro ⟨payload, found⟩
      have member : (put.1, payload) ∈ run.buffered ++ run.delivered := by
        rw [List.mem_append]
        exact found.imp And.left And.left
      obtain ⟨gap, rfl⟩ : ∃ gap, payload = .gap gap :=
        found.elim (fun both => event?_eq_none_iff.mp both.2)
          (fun both => event?_eq_none_iff.mp both.2)
      obtain ⟨since, upTo⟩ := represents.gaps _ gap member
      exact ⟨put.1, gap, member, by omega, by omega⟩
    · rintro ⟨number, gap, member, since, upTo⟩
      obtain ⟨sinceIs, upToIs⟩ := represents.gaps number gap member
      have sameNumber : number = put.1 := by omega
      subst sameNumber
      refine ⟨.gap gap, ?_⟩
      rw [List.mem_append] at member
      exact member.imp (fun inside => ⟨inside, rfl⟩) (fun inside => ⟨inside, rfl⟩)
  unfold Buffer.Accounted Accounted
  rw [gap, mem_contents_iff represents, mem_delivered_iff]
  simp only [event?_eq_some_iff, exists_eq_right]
  rfl

theorem noSilentLoss_account {run : SubscriberRun} (represents : run.Represents) :
    run.account.NoSilentLoss HubEvent.activityTask ↔ run.NoSilentLoss := by
  unfold Buffer.NoSilentLoss NoSilentLoss
  constructor
  · intro complete put member
    exact (accounted_iff represents put).mp (complete put member)
  · intro complete put member
    exact (accounted_iff represents put).mpr (complete put member)

theorem overflows_callOf {run : SubscriberRun} (represents : run.Represents)
    (call : SubscriberCall) :
    run.account.Overflows HubEvent.activityTask (callOf call) ↔ run.Overflows call := by
  cases call with
  | put event seq => exact overflows_account represents event seq
  | get => rfl

/-- What holds of every run: the representation, and the laws of its account. -/
def Sound (run : SubscriberRun) : Prop :=
  run.Represents ∧ run.account.Invariant HubEvent.activityTask

theorem sound_create (maxsize : Nat) (positive : 1 ≤ maxsize) :
    (create maxsize positive).Sound := by
  refine ⟨⟨⟨?_, Indexes.empty _⟩, ?_⟩, Buffer.invariant_create maxsize positive⟩
  · intro item member
    cases member
  · intro number gap member
    cases member

theorem sound_step (run : SubscriberRun) (call : SubscriberCall) (next : SubscriberRun)
    (sound : run.Sound) (stepped : run.step call = some next) : next.Sound :=
  ⟨represents_step run call next sound.1 stepped,
    Buffer.Invariant.step run.account (callOf call) next.account sound.2
      (account_step run call next sound.1 stepped)⟩

theorem noSilentLoss_step (run : SubscriberRun) (call : SubscriberCall) (next : SubscriberRun)
    (sound : run.Sound) (complete : run.NoSilentLoss) (stepped : run.step call = some next) :
    next.NoSilentLoss ↔ ¬ run.Overflows call := by
  have accountComplete := (noSilentLoss_account sound.1).mpr complete
  have exactly := Buffer.noSilentLoss_step run.account (callOf call) next.account sound.2
    accountComplete (account_step run call next sound.1 stepped)
  rw [overflows_callOf sound.1] at exactly
  rw [← exactly, noSilentLoss_account (represents_step run call next sound.1 stepped)]

theorem noSilentLoss_create (maxsize : Nat) (positive : 1 ≤ maxsize) :
    (create maxsize positive).NoSilentLoss := by
  intro put member
  cases member

/-! ### What the connection receives -/

/-- No gap was made. -/
def GapFree (run : SubscriberRun) : Prop :=
  ∀ number gap, (number, .gap gap) ∉ run.buffered ++ run.delivered

/-- The published events that were delivered or are buffered, in order. -/
def events (run : SubscriberRun) : List HubEvent :=
  (run.delivered ++ run.buffered).filterMap fun numbered => numbered.2.event?

theorem gapFree_put {run : SubscriberRun} (sound : run.Sound) (gapFree : run.GapFree)
    {event : HubEvent} {seq : Nat} (fits : ¬ run.Overflows (.put event seq)) :
    (run.put event seq).GapFree := by
  intro number gap member
  rcases List.mem_append.mp member with inBuffer | inDelivered
  · have entry := (mem_contents_iff (represents_put sound.1 event seq)).mpr
      ⟨.gap gap, inBuffer, rfl⟩
    rw [account_put sound.1] at entry
    have before := Buffer.gap_of_put sound.2
      (mt (overflows_account sound.1 event seq).mp fits) entry
    obtain ⟨payload, wasBuffered, isGap⟩ := (mem_contents_iff sound.1).mp before
    obtain ⟨earlier, rfl⟩ := event?_eq_none_iff.mp isGap
    exact gapFree number earlier (List.mem_append_left _ wasBuffered)
  · exact gapFree number gap (List.mem_append_right _ inDelivered)

theorem events_account {run : SubscriberRun} (represents : run.Represents) :
    run.account.values = run.events := by
  have contents : run.account.contents = run.buffered.map entryOf := by
    unfold account buffered
    rw [List.map_filterMap, ← List.filterMap_eq_map]
    apply List.filterMap_congr
    intro item member
    have read := List.getElem?_eq_getElem (represents.consistent.allocated item member)
    simp [numbered, read, entryAt, entryOf]
  unfold Buffer.values events
  rw [contents]
  simp only [account, ← List.map_append, List.filterMap_map]
  rfl

/-- An activity that is coalesced takes the place of the earlier one; any other event
comes last. -/
theorem events_put {run : SubscriberRun} (sound : run.Sound) {event : HubEvent} {seq : Nat}
    (fits : ¬ run.Overflows (.put event seq)) :
    (run.put event seq).events = run.events ++ [event] ∨
      ∃ first earlier last, run.events = first ++ earlier :: last ∧
        (run.put event seq).events = first ++ event :: last ∧
        earlier.activityTask = event.activityTask ∧ event.activityTask ≠ none := by
  have accountFits := mt (overflows_account sound.1 event seq).mp fits
  rw [← events_account sound.1, ← events_account (represents_put sound.1 event seq),
    account_put sound.1]
  cases found : CoalescingBuffer.slot HubEvent.activityTask run.account.contents event with
  | some old => exact .inr (Buffer.values_coalesced sound.2 found)
  | none =>
      have room : run.account.full = false := by
        simpa [Buffer.Overflows, found] using accountFits
      exact .inl (Buffer.values_appended found room)

/-- Taking an event delivers what was first in the buffer. -/
theorem get_moves {run next : SubscriberRun} (represents : run.Represents)
    (stepped : run.step .get = some next) :
    next.delivered ++ next.buffered = run.delivered ++ run.buffered := by
  obtain ⟨item, rest, split, rfl⟩ := step_get stepped
  have allocated := represents.consistent.allocated item (by rw [split]; simp)
  obtain ⟨payload, read⟩ : ∃ payload, run.heap[item]? = some payload :=
    ⟨_, List.getElem?_eq_getElem allocated⟩
  have buffered : run.buffered =
      (run.numbers item, payload) :: rest.filterMap run.numbered := by
    simp [SubscriberRun.buffered, split, numbered, read]
  rw [buffered]
  simp only [SubscriberRun.buffered, Subscriber.discardFromIndex_items, numbered, read,
    Option.map_some, Option.toList_some, List.append_assoc, List.singleton_append]
  rfl

/-- Throughout a run of puts and gets every event stays accounted for, exactly if no put
overflows the buffer. -/
theorem noSilentLoss_iff {maxsize : Nat} {positive : 1 ≤ maxsize}
    {calls : List SubscriberCall} {final : SubscriberRun}
    (ran : run step (create maxsize positive) calls = some final) :
    Throughout step NoSilentLoss (create maxsize positive) calls ↔
      Along step (fun run call => ¬ run.Overflows call) (create maxsize positive) calls :=
  throughout_iff_along sound_step noSilentLoss_step (sound_create maxsize positive)
    (noSilentLoss_create maxsize positive) ran

def doneEvent (taskId : String) : HubEvent := .taskDone ⟨taskId, "agent", "COMPLETED", none⟩

def activityEvent (taskId text : String) : HubEvent := .agentActivity ⟨taskId, "agent", text⟩

/-- A buffer of two is full when a later activity of the first task arrives; then it is emptied
and filled once more. -/
def coalescingCalls : List SubscriberCall :=
  [.put (activityEvent "first" "started") 0, .put (doneEvent "second") 1,
    .put (activityEvent "first" "running") 3, .get, .put (doneEvent "first") 4, .get, .get]

/-- The activity that replaced the earlier one is accounted for, like all the others. -/
theorem noSilentLoss_coalescing :
    Throughout step NoSilentLoss (create 2 (by decide)) coalescingCalls := by
  have ran : run step (create 2 (by decide)) coalescingCalls = some _ := rfl
  exact (noSilentLoss_iff ran).mpr (by decide)

/-- The first of two events that a buffer of one receives is in no gap. -/
theorem noSilentLoss_fails :
    ¬ ∀ (maxsize : Nat) (positive : 1 ≤ maxsize) (calls : List SubscriberCall)
        (final : SubscriberRun), run step (create maxsize positive) calls = some final →
        Throughout step NoSilentLoss (create maxsize positive) calls := by
  intro complete
  have start : (1 : Nat) ≤ 1 := by decide
  have through := complete 1 start [.put (doneEvent "first") 0, .put (doneEvent "second") 4]
    _ rfl
  obtain ⟨-, firstComplete, secondComplete⟩ := through
  have firstSound := sound_step _ (.put (doneEvent "first") 0) _ (sound_create 1 start) rfl
  have exactly := noSilentLoss_step _ (.put (doneEvent "second") 4) _ firstSound firstComplete
    rfl
  exact exactly.mp secondComplete ⟨rfl, rfl⟩

end SubscriberRun

end QuAIA.Orchestrator
