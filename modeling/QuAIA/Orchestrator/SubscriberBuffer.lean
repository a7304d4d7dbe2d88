import QuAIA.Orchestrator.StreamingHub

/-!
Contract: the buffer of one dashboard subscriber over puts, gets and drains.

Owns: the size of the buffer, its index, what the buffered activities hold, and the order in
which activities and the end of their task are delivered.

A put is known by its number among all puts. A dictionary carries the number of the put whose
content it has: coalescing gives it the number of a later put, at its old place in the deque.
-/

set_option autoImplicit false

namespace QuAIA.Orchestrator

open QuAIA.Common
open QuAIA.Library
open QuAIA.Library.StepSystem

/-! ## Calls on a subscriber -/

/-- `drain`. -/
def Subscriber.drain (subscriber : Subscriber) : Subscriber :=
  { subscriber with items := [], activityIndex := .empty }

inductive BufferCall where
  | put (event : HubEvent) (seq : Nat)
  | get
  | drain

structure BufferRun where
  heap : EventHeap
  subscriber : Subscriber
  writtenBy : Nat → Nat
  delivered : List (Nat × Payload)
  puts : List HubEvent

/-- The content of the last activity that was put for a task. -/
def lastActivity (puts : List HubEvent) (taskId : String) : Option HubEvent :=
  (puts.filter fun event => event.activityTask = some taskId).getLast?

namespace BufferRun

def create (maxsize : Nat) (positive : 1 ≤ maxsize) : BufferRun :=
  ⟨[], .create maxsize positive, fun _ => 0, [], []⟩

/-- The buffered dictionary that the event would go into. -/
def slot (run : BufferRun) (event : HubEvent) : Option Nat :=
  run.subscriber.slotFor (run.heap ++ [.published event]) run.heap.length

/-- The event is a new dictionary. -/
def put (run : BufferRun) (event : HubEvent) (seq : Nat) : BufferRun :=
  let object := run.heap.length
  let result := run.subscriber.put (run.heap ++ [.published event]) object seq
  { heap := result.1
    subscriber := result.2
    writtenBy := fun item =>
      if run.slot event = some item ∨ object ≤ item then run.puts.length
      else run.writtenBy item
    delivered := run.delivered
    puts := run.puts ++ [event] }

/-- A waiting `get` is no step. -/
def step (run : BufferRun) : BufferCall → Option BufferRun
  | .put event seq => some (run.put event seq)
  | .get =>
      match run.subscriber.get run.heap with
      | none => none
      | some (item, subscriber) =>
          some { run with
            subscriber := subscriber
            delivered := run.delivered ++
              (run.heap[item]?.map fun payload => (run.writtenBy item, payload)).toList }
  | .drain => some { run with subscriber := run.subscriber.drain }

/-! ## What holds in every state -/

/-- The buffer is bounded, its index is right, and buffered activities are up to date. -/
structure Represents (run : BufferRun) : Prop where
  bounded : run.subscriber.items.length ≤ run.subscriber.maxsize
  oneEach : ∀ first ∈ run.subscriber.items, ∀ second ∈ run.subscriber.items, ∀ taskId,
    activityTaskOf run.heap first = some taskId →
      activityTaskOf run.heap second = some taskId → first = second
  distinct : run.subscriber.items.Nodup
  indexed : ∀ taskId item, run.subscriber.activityIndex.get? taskId = some item ↔
    item ∈ run.subscriber.items ∧ activityTaskOf run.heap item = some taskId
  latest : ∀ item ∈ run.subscriber.items, ∀ taskId,
    activityTaskOf run.heap item = some taskId →
      ∃ event, run.heap[item]? = some (.published event) ∧
        lastActivity run.puts taskId = some event

/-- What was delivered was put, and no activity of a task that was put before the end of the
task comes after it. -/
structure DeliversInOrder (run : BufferRun) : Prop where
  wasPut : ∀ entry ∈ run.delivered, ∀ event, entry.2 = .published event →
    run.puts[entry.1]? = some event
  ordered : run.delivered.Pairwise fun earlier later =>
    ∀ done activity, earlier.2 = .published (.taskDone done) →
      later.2 = .published (.agentActivity activity) → activity.taskId = done.taskId →
        earlier.1 < later.1

end BufferRun

/-! ## Sequences of stamped contents -/

/-- The dictionaries of a deque after those that were delivered: each holds what its put wrote,
one that is not coalesced was written before all that follow, and an activity is the last one
of its task. -/
structure Sequenced (delivered : List (Nat × Payload)) (items : List Nat)
    (content : Nat → Option Payload) (stamp : Nat → Nat) (puts : List HubEvent) : Prop where
  deliveredPut : ∀ entry ∈ delivered, ∀ event, entry.2 = .published event →
    puts[entry.1]? = some event
  deliveredRecent : ∀ entry ∈ delivered, entry.1 < puts.length
  deliveredOrdered : delivered.Pairwise fun earlier later =>
    earlier.2.activityTask = none → earlier.1 < later.1
  itemPut : ∀ item ∈ items, ∀ event, content item = some (.published event) →
    puts[stamp item]? = some event
  itemRecent : ∀ item ∈ items, stamp item < puts.length
  itemsOrdered : items.Pairwise fun earlier later =>
    (content earlier).bind Payload.activityTask = none → stamp earlier < stamp later
  deliveredBefore : ∀ entry ∈ delivered, ∀ item ∈ items,
    entry.2.activityTask = none → entry.1 < stamp item
  latest : ∀ item ∈ items, ∀ taskId, (content item).bind Payload.activityTask = some taskId →
    ∃ event, content item = some (.published event) ∧ lastActivity puts taskId = some event

section Sequences

variable {delivered : List (Nat × Payload)} {items kept : List Nat}
  {content after : Nat → Option Payload} {stamp stampAfter : Nat → Nat} {puts : List HubEvent}
  {event : HubEvent}

theorem lastActivity_append (puts : List HubEvent) (event : HubEvent) (taskId : String) :
    lastActivity (puts ++ [event]) taskId =
      if event.activityTask = some taskId then some event else lastActivity puts taskId := by
  unfold lastActivity
  rw [List.filter_append]
  by_cases same : event.activityTask = some taskId
  · simp [same]
  · simp [same]

theorem getElem?_put {puts : List HubEvent} {number : Nat} {written : HubEvent}
    (found : puts[number]? = some written) (event : HubEvent) :
    (puts ++ [event])[number]? = some written := by
  have inside : number < puts.length := (List.getElem?_eq_some_iff.mp found).1
  rw [List.getElem?_append_left inside, found]

/-- Items leave the deque. -/
theorem Sequenced.sublist (sequenced : Sequenced delivered items content stamp puts)
    (fewer : kept.Sublist items) : Sequenced delivered kept content stamp puts where
  deliveredPut := sequenced.deliveredPut
  deliveredRecent := sequenced.deliveredRecent
  deliveredOrdered := sequenced.deliveredOrdered
  itemPut item member := sequenced.itemPut item (fewer.subset member)
  itemRecent item member := sequenced.itemRecent item (fewer.subset member)
  itemsOrdered := sequenced.itemsOrdered.sublist fewer
  deliveredBefore entry wasDelivered item member :=
    sequenced.deliveredBefore entry wasDelivered item (fewer.subset member)
  latest item member := sequenced.latest item (fewer.subset member)

/-- The first item is delivered. -/
theorem Sequenced.take {item : Nat} {payload : Payload}
    (sequenced : Sequenced delivered (item :: items) content stamp puts)
    (holds : content item = some payload) :
    Sequenced (delivered ++ [(stamp item, payload)]) items content stamp puts := by
  have rested := sequenced.sublist (List.sublist_cons_self item items)
  have first := List.mem_cons_self (a := item) (l := items)
  have ordered := List.pairwise_cons.mp sequenced.itemsOrdered
  refine ⟨?_, ?_, ?_, rested.itemPut, rested.itemRecent, rested.itemsOrdered, ?_, rested.latest⟩
  · intro entry member event isEvent
    rcases List.mem_append.mp member with before | isItem
    · exact sequenced.deliveredPut entry before event isEvent
    · obtain rfl := List.mem_singleton.mp isItem
      exact sequenced.itemPut item first event (holds.trans (congrArg some isEvent))
  · intro entry member
    rcases List.mem_append.mp member with before | isItem
    · exact sequenced.deliveredRecent entry before
    · obtain rfl := List.mem_singleton.mp isItem
      exact sequenced.itemRecent item first
  · rw [List.pairwise_append]
    refine ⟨sequenced.deliveredOrdered, List.pairwise_singleton _ _, ?_⟩
    intro entry member last isItem
    obtain rfl := List.mem_singleton.mp isItem
    exact sequenced.deliveredBefore entry member item first
  · intro entry member other inRest
    rcases List.mem_append.mp member with before | isItem
    · exact rested.deliveredBefore entry before other inRest
    · obtain rfl := List.mem_singleton.mp isItem
      intro noActivity
      apply ordered.1 other inRest
      rw [holds]
      exact noActivity

/-- An item joins, with what the put wrote. -/
theorem Sequenced.push {item : Nat} (sequenced : Sequenced delivered items content stamp puts)
    (fewer : kept.Sublist items)
    (same : ∀ other ∈ kept, after other = content other ∧ stampAfter other = stamp other)
    (stamped : stampAfter item = puts.length)
    (writes : ∀ written, after item = some (.published written) → written = event)
    (free : ∀ taskId, event.activityTask = some taskId →
      ∀ other ∈ kept, (content other).bind Payload.activityTask ≠ some taskId) :
    Sequenced delivered (kept ++ [item]) after stampAfter (puts ++ [event]) := by
  have rested := sequenced.sublist fewer
  have longer : puts.length < (puts ++ [event]).length := by simp
  refine ⟨?deliveredPut, ?deliveredRecent, sequenced.deliveredOrdered, ?itemPut, ?itemRecent,
    ?itemsOrdered, ?deliveredBefore, ?latest⟩
  case deliveredPut =>
    intro entry member written isEvent
    exact getElem?_put (sequenced.deliveredPut entry member written isEvent) event
  case deliveredRecent =>
    intro entry member
    have recent := sequenced.deliveredRecent entry member
    omega
  case itemPut =>
    intro other member written isEvent
    rcases List.mem_append.mp member with inKept | isItem
    · rw [(same other inKept).1] at isEvent
      rw [(same other inKept).2]
      exact getElem?_put (rested.itemPut other inKept written isEvent) event
    · obtain rfl := List.mem_singleton.mp isItem
      rw [stamped, writes written isEvent, List.getElem?_concat_length]
  case itemRecent =>
    intro other member
    rcases List.mem_append.mp member with inKept | isItem
    · rw [(same other inKept).2]
      have recent := rested.itemRecent other inKept
      omega
    · obtain rfl := List.mem_singleton.mp isItem
      rw [stamped]
      exact longer
  case itemsOrdered =>
    rw [List.pairwise_append]
    refine ⟨?_, List.pairwise_singleton _ _, ?_⟩
    · apply rested.itemsOrdered.imp_of_mem
      intro earlier later earlierMember laterMember ordered
      rw [(same earlier earlierMember).1, (same earlier earlierMember).2,
        (same later laterMember).2]
      exact ordered
    · intro other member last isItem _
      obtain rfl := List.mem_singleton.mp isItem
      rw [stamped, (same other member).2]
      exact rested.itemRecent other member
  case deliveredBefore =>
    intro entry wasDelivered other member noActivity
    rcases List.mem_append.mp member with inKept | isItem
    · rw [(same other inKept).2]
      exact rested.deliveredBefore entry wasDelivered other inKept noActivity
    · obtain rfl := List.mem_singleton.mp isItem
      rw [stamped]
      exact sequenced.deliveredRecent entry wasDelivered
  case latest =>
    intro other member taskId isTask
    rw [lastActivity_append]
    rcases List.mem_append.mp member with inKept | isItem
    · rw [(same other inKept).1] at isTask ⊢
      have different : event.activityTask ≠ some taskId :=
        fun isSame => free taskId isSame other inKept isTask
      rw [if_neg different]
      exact rested.latest other inKept taskId isTask
    · obtain rfl := List.mem_singleton.mp isItem
      obtain ⟨payload, holds, isActivity⟩ := Option.bind_eq_some_iff.mp isTask
      cases payload with
      | gap gap => cases isActivity
      | published written =>
          obtain rfl := writes written holds
          exact ⟨written, holds, if_pos isActivity⟩

/-- The put overwrites an activity of its task. -/
theorem Sequenced.overwrite {item : Nat} {taskId : String}
    (sequenced : Sequenced delivered items content stamp puts) (member : item ∈ items)
    (wasActivity : (content item).bind Payload.activityTask = some taskId)
    (isActivity : event.activityTask = some taskId)
    (unique : ∀ other ∈ items, (content other).bind Payload.activityTask = some taskId →
      other = item)
    (same : ∀ other ∈ items, other ≠ item →
      after other = content other ∧ stampAfter other = stamp other)
    (writes : after item = some (.published event)) (stamped : stampAfter item = puts.length) :
    Sequenced delivered items after stampAfter (puts ++ [event]) := by
  have keyAfter : ∀ other ∈ items,
      (after other).bind Payload.activityTask = (content other).bind Payload.activityTask := by
    intro other inside
    by_cases isItem : other = item
    · rw [isItem, writes, wasActivity]
      exact isActivity
    · rw [(same other inside isItem).1]
  have stampGrows : ∀ other ∈ items, stamp other ≤ stampAfter other ∧
      stampAfter other < (puts ++ [event]).length := by
    intro other inside
    have recent := sequenced.itemRecent other inside
    have longer : (puts ++ [event]).length = puts.length + 1 := by simp
    by_cases isItem : other = item
    · rw [isItem] at recent ⊢
      omega
    · rw [(same other inside isItem).2]
      omega
  refine ⟨?deliveredPut, ?deliveredRecent, sequenced.deliveredOrdered, ?itemPut, ?itemRecent,
    ?itemsOrdered, ?deliveredBefore, ?latest⟩
  case deliveredPut =>
    intro entry wasDelivered written isEvent
    exact getElem?_put (sequenced.deliveredPut entry wasDelivered written isEvent) event
  case deliveredRecent =>
    intro entry wasDelivered
    have recent := sequenced.deliveredRecent entry wasDelivered
    rw [List.length_append]
    omega
  case itemPut =>
    intro other inside written isEvent
    by_cases isItem : other = item
    · rw [isItem, writes] at isEvent
      cases isEvent
      rw [isItem, stamped, List.getElem?_concat_length]
    · rw [(same other inside isItem).1] at isEvent
      rw [(same other inside isItem).2]
      exact getElem?_put (sequenced.itemPut other inside written isEvent) event
  case itemRecent =>
    intro other inside
    exact (stampGrows other inside).2
  case itemsOrdered =>
    apply sequenced.itemsOrdered.imp_of_mem
    intro earlier later earlierMember laterMember ordered noActivity
    rw [keyAfter earlier earlierMember] at noActivity
    have notItem : earlier ≠ item := by
      rintro rfl
      rw [wasActivity] at noActivity
      cases noActivity
    have before := ordered noActivity
    have grows := (stampGrows later laterMember).1
    rw [(same earlier earlierMember notItem).2]
    omega
  case deliveredBefore =>
    intro entry wasDelivered other inside noActivity
    have before := sequenced.deliveredBefore entry wasDelivered other inside noActivity
    have grows := (stampGrows other inside).1
    omega
  case latest =>
    intro other inside otherTask isTask
    rw [keyAfter other inside] at isTask
    rw [lastActivity_append]
    by_cases isItem : other = item
    · rw [isItem, wasActivity, Option.some.injEq] at isTask
      rw [isItem, writes, isActivity, isTask, if_pos rfl]
      exact ⟨event, rfl, rfl⟩
    · have different : event.activityTask ≠ some otherTask := by
        intro isSame
        rw [isActivity, Option.some.injEq] at isSame
        rw [← isSame] at isTask
        exact isItem (unique other inside isTask)
      rw [if_neg different, (same other inside isItem).1]
      exact sequenced.latest other inside otherTask isTask

end Sequences

/-! ## Steps -/

namespace BufferRun

def content (run : BufferRun) (item : Nat) : Option Payload := run.heap[item]?

/-- What every step preserves. -/
structure Sound (run : BufferRun) : Prop where
  consistent : run.subscriber.Consistent run.heap
  bounded : run.subscriber.items.length ≤ run.subscriber.maxsize
  sequenced : Sequenced run.delivered run.subscriber.items run.content run.writtenBy run.puts

theorem sound_create (maxsize : Nat) (positive : 1 ≤ maxsize) :
    (create maxsize positive).Sound := by
  refine ⟨⟨?_, Indexes.empty _⟩, Nat.zero_le _, ⟨?_, ?_, List.Pairwise.nil, ?_, ?_,
    List.Pairwise.nil, ?_, ?_⟩⟩ <;>
  · intro _ member
    cases member

section Put

variable {run : BufferRun} {event : HubEvent} {seq : Nat}

/-- An activity of a task whose activity is buffered overwrites it. -/
theorem Sound.coalesced (sound : run.Sound) {existing : Nat}
    (found : run.slot event = some existing) : (run.put event seq).Sound := by
  obtain ⟨taskId, isTask, member, wasActivity⟩ := sound.consistent.slot found
  have allocated := sound.consistent.allocated existing member
  have put := Subscriber.put_coalesced seq found
  have consistent : (run.put event seq).subscriber.Consistent (run.put event seq).heap :=
    sound.consistent.put seq
  have heap : (run.put event seq).heap =
      (run.heap ++ [Payload.published event]).set existing (.published event) :=
    congrArg Prod.fst put
  have subscriber : (run.put event seq).subscriber = run.subscriber := congrArg Prod.snd put
  refine ⟨consistent, ?_, ?_⟩
  · rw [subscriber]
    exact sound.bounded
  · rw [subscriber]
    apply sound.sequenced.overwrite member wasActivity isTask
    · intro other inside sameTask
      exact sound.consistent.indexes.unique inside sameTask member wasActivity
    · intro other inside different
      have otherAllocated := sound.consistent.allocated other inside
      constructor
      · rw [content, heap, List.getElem?_set_ne (Ne.symm different),
          List.getElem?_append_left otherAllocated]
        rfl
      · have notWritten : ¬ (run.slot event = some other ∨ run.heap.length ≤ other) := by
          rw [found, Option.some.injEq]
          rintro (isExisting | isNew)
          · exact different isExisting.symm
          · omega
        exact if_neg notWritten
    · rw [content, heap, List.getElem?_set_self]
      rw [List.length_append]
      omega
    · exact if_pos (Or.inl found)

/-- The dictionaries that stay buffered are not written. -/
theorem Sound.notWritten (sound : run.Sound) (missing : run.slot event = none) {item : Nat}
    (member : item ∈ run.subscriber.items) :
    (run.put event seq).writtenBy item = run.writtenBy item := by
  have allocated := sound.consistent.allocated item member
  have notWritten : ¬ (run.slot event = some item ∨ run.heap.length ≤ item) := by
    rw [missing]
    rintro (isItem | isNew)
    · cases isItem
    · omega
  exact if_neg notWritten

/-- Without a slot, no activity of the task is buffered. -/
theorem Sound.free (sound : run.Sound) (missing : run.slot event = none) {taskId : String}
    (isTask : event.activityTask = some taskId) {item : Nat}
    (member : item ∈ run.subscriber.items) :
    (run.content item).bind Payload.activityTask ≠ some taskId := by
  intro sameTask
  have registered := sound.consistent.indexes.get?_of_mem member sameTask
  rw [slot, Subscriber.slotFor_new, isTask, Option.bind_some, registered] at missing
  cases missing

theorem Sound.appended (sound : run.Sound) (missing : run.slot event = none)
    (room : run.subscriber.full = false) : (run.put event seq).Sound := by
  have put := Subscriber.put_appended seq missing room
  have consistent : (run.put event seq).subscriber.Consistent (run.put event seq).heap :=
    sound.consistent.put seq
  have heap : (run.put event seq).heap = run.heap ++ [.published event] :=
    congrArg Prod.fst put
  have items : (run.put event seq).subscriber.items =
      run.subscriber.items ++ [run.heap.length] :=
    congrArg (fun result => result.2.items) put
  have maxsize : (run.put event seq).subscriber.maxsize = run.subscriber.maxsize :=
    congrArg (fun result => result.2.maxsize) put
  have below : run.subscriber.items.length < run.subscriber.maxsize := by
    simpa [Subscriber.full] using room
  refine ⟨consistent, ?_, ?_⟩
  · rw [items, maxsize, List.length_append, List.length_singleton]
    omega
  · rw [items]
    apply sound.sequenced.push (List.Sublist.refl _)
    · intro other inside
      refine ⟨?_, sound.notWritten missing inside⟩
      rw [content, heap, List.getElem?_append_left (sound.consistent.allocated other inside)]
      rfl
    · exact if_pos (Or.inr (Nat.le_refl _))
    · intro written holds
      rw [content, heap, List.getElem?_concat_length] at holds
      cases holds
      rfl
    · intro taskId isTask other inside
      exact sound.free missing isTask inside

/-- At overflow the oldest item leaves, and a gap joins. -/
theorem Sound.overflowed (sound : run.Sound) (missing : run.slot event = none)
    (full : run.subscriber.full = true) : (run.put event seq).Sound := by
  obtain ⟨dropped, rest, split⟩ := Subscriber.exists_of_full full
  have put := Subscriber.put_overflowed seq missing full split
  have consistent : (run.put event seq).subscriber.Consistent (run.put event seq).heap :=
    sound.consistent.put seq
  have heap : (run.put event seq).heap =
      run.heap ++ [.published event] ++ [.gap ⟨"queue_overflow", seq, seq⟩] :=
    congrArg Prod.fst put
  have items : (run.put event seq).subscriber.items = rest ++ [run.heap.length + 1] :=
    congrArg (fun result => result.2.items) put
  have maxsize : (run.put event seq).subscriber.maxsize = run.subscriber.maxsize := by
    have sameSize := congrArg (fun result => result.2.maxsize) put
    exact sameSize.trans (Subscriber.discardFromIndex_maxsize dropped)
  have inRest : rest.Sublist run.subscriber.items := by
    rw [split]
    exact List.sublist_cons_self dropped rest
  refine ⟨consistent, ?_, ?_⟩
  · have bounded := sound.bounded
    rw [split, List.length_cons] at bounded
    rw [items, maxsize, List.length_append, List.length_singleton]
    omega
  · rw [items]
    apply sound.sequenced.push inRest
    · intro other inside
      have allocated := sound.consistent.allocated other (inRest.subset inside)
      refine ⟨?_, sound.notWritten missing (inRest.subset inside)⟩
      rw [content, heap, List.append_assoc, List.getElem?_append_left allocated]
      rfl
    · exact if_pos (Or.inr (Nat.le_succ _))
    · intro written holds
      have length : (run.heap ++ [Payload.published event]).length = run.heap.length + 1 := by
        simp
      rw [content, heap, ← length, List.getElem?_concat_length] at holds
      cases holds
    · intro taskId isTask other inside
      exact sound.free missing isTask (inRest.subset inside)

theorem Sound.put (sound : run.Sound) (event : HubEvent) (seq : Nat) :
    (run.put event seq).Sound := by
  cases found : run.slot event with
  | some existing => exact sound.coalesced found
  | none =>
      cases full : run.subscriber.full with
      | false => exact sound.appended found full
      | true => exact sound.overflowed found full

end Put

theorem Sound.get {run next : BufferRun} (sound : run.Sound)
    (stepped : run.step .get = some next) : next.Sound := by
  cases split : run.subscriber.items with
  | nil =>
      simp [step, Subscriber.get, split] at stepped
  | cons item rest =>
      have allocated := sound.consistent.allocated item (by simp [split])
      obtain ⟨payload, holds⟩ : ∃ payload, run.heap[item]? = some payload :=
        ⟨_, List.getElem?_eq_getElem allocated⟩
      simp only [step, Subscriber.get, split, holds, Option.map_some, Option.toList_some,
        Option.some.injEq] at stepped
      subst stepped
      have sequenced := sound.sequenced
      have bounded := sound.bounded
      rw [split] at sequenced bounded
      refine ⟨sound.consistent.pop split, ?_, ?_⟩
      · rw [Subscriber.discardFromIndex_items, Subscriber.discardFromIndex_maxsize]
        exact Nat.le_of_succ_le bounded
      · rw [Subscriber.discardFromIndex_items]
        exact sequenced.take holds

theorem Sound.drain {run : BufferRun} (sound : run.Sound) :
    Sound { run with subscriber := run.subscriber.drain } := by
  refine ⟨⟨?_, Indexes.empty _⟩, Nat.zero_le _, ?_⟩
  · intro item member
    cases member
  · exact sound.sequenced.sublist (List.nil_sublist _)

theorem sound_step (run : BufferRun) (call : BufferCall) (next : BufferRun) (sound : run.Sound)
    (stepped : run.step call = some next) : next.Sound := by
  cases call with
  | put event seq =>
      obtain rfl := Option.some.inj stepped
      exact sound.put event seq
  | get => exact sound.get stepped
  | drain =>
      obtain rfl := Option.some.inj stepped
      exact sound.drain

theorem Sound.represents {run : BufferRun} (sound : run.Sound) : run.Represents where
  bounded := sound.bounded
  oneEach _ inFirst _ inSecond _ firstTask secondTask :=
    sound.consistent.indexes.unique inFirst firstTask inSecond secondTask
  distinct := sound.consistent.indexes.nodup
  indexed := sound.consistent.indexes.indexed
  latest := sound.sequenced.latest

theorem Sound.deliversInOrder {run : BufferRun} (sound : run.Sound) : run.DeliversInOrder where
  wasPut := sound.sequenced.deliveredPut
  ordered := by
    apply sound.sequenced.deliveredOrdered.imp
    intro earlier later ordered done activity isDone _ _
    apply ordered
    rw [isDone]
    rfl

/-- **Subscriber buffer.** Over every sequence of puts, gets and drains the buffer is bounded,
its index is right, buffered activities are up to date, and no activity that was put before the
end of its task is delivered after it. -/
theorem subscriber_represents {maxsize : Nat} (positive : 1 ≤ maxsize)
    (calls : List BufferCall) :
    Throughout step (fun run => run.Represents ∧ run.DeliversInOrder) (create maxsize positive)
      calls := by
  have preserved : ∀ run call next, Sound run → True → step run call = some next → Sound next :=
    fun run call next sound _ stepped => sound_step run call next sound stepped
  have everyCall : Along step (fun _ _ => True) (create maxsize positive) calls :=
    along_of_forall (fun _ _ => trivial) _ _
  have sound := throughout_of_along preserved (sound_create maxsize positive) everyCall
  apply throughout_mono _ sound
  intro run soundHere
  exact ⟨soundHere.represents, soundHere.deliversInOrder⟩

/-- A buffer of one that coalesces, overflows, delivers and is drained. -/
theorem subscriber_represents_one :
    Throughout step (fun run => run.Represents ∧ run.DeliversInOrder) (create 1 (by decide))
      [.put (SubscriberRun.activityEvent "task" "first") 0,
        .put (SubscriberRun.activityEvent "task" "second") 1, .get,
        .put (SubscriberRun.doneEvent "task") 2,
        .put (SubscriberRun.activityEvent "task" "third") 3, .get, .drain] :=
  subscriber_represents (by decide) _

end BufferRun

end QuAIA.Orchestrator
