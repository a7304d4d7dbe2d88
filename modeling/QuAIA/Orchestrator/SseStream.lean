import Mathlib.Algebra.Order.Ring.Rat
import QuAIA.Orchestrator.HubSharing
import QuAIA.Orchestrator.SubscriberBuffer

/-!
Contract: the stream of server-sent events for one subscriber (`_sse_hub_events`).

Owns: the check of the token's expiry before each wait; the wait for an event with its timeout;
what is sent, with the times; what a segment of the stream takes from the buffer; and that at
most one item is sent between the expiry and the end of the stream.

Does not own: how the hub fills the buffer. A wait that times out is cancelled inside `get` before
it takes an event, also when one has arrived. Times are readings of one clock that does not go
back, in seconds.
-/

set_option autoImplicit false

namespace QuAIA.Orchestrator

open QuAIA.Common
open QuAIA.Library

/-! ## The code -/

inductive SseItem where
  | event (payload : Payload)
  | heartbeat
  | authError
deriving DecidableEq

def SseItem.payload? : SseItem → Option Payload
  | .event payload => some payload
  | _ => none

/-- `_HEARTBEAT_INTERVAL`. -/
def heartbeatInterval : ℚ := 15

/-- Where the generator is suspended: at a `yield` or before its start, or in a wait with the time
of its timeout; it has ended after the auth error, or was closed by its consumer. -/
inductive SsePhase where
  | yielded
  | waiting (deadline : ℚ)
  | ended
  | closed
deriving DecidableEq

/-- The generator with its subscriber, and what it has sent. -/
structure SseStream where
  heap : EventHeap
  subscriber : Subscriber
  phase : SsePhase
  sent : List (ℚ × SseItem)
  now : ℚ

def SseStream.create (start : ℚ) : SseStream :=
  ⟨[], .create queueMaxsize one_le_queueMaxsize, .yielded, [], start⟩

/-- What the hub does to the buffer, and the segments of the generator: its consumer asks for the
next item, or closes it; the wait gets an event, or times out. -/
inductive SseAction where
  | put (event : HubEvent) (seq : Nat)
  | drain
  | next
  | woken
  | timedOut
  | close
deriving DecidableEq

/-- The actions of the hub. -/
def SseAction.ofHub : SseAction → Bool
  | .put _ _ => true
  | .drain => true
  | _ => false

namespace SseStream

def send (stream : SseStream) (item : SseItem) : SseStream :=
  { stream with sent := stream.sent ++ [(stream.now, item)] }

/-- The next segment, at the time of the stream. -/
def act (tokenExpiresAt : ℚ) (stream : SseStream) : SseAction → Option SseStream
  | .put event seq =>
      let put := stream.subscriber.put (stream.heap ++ [.published event]) stream.heap.length seq
      some { stream with heap := put.1, subscriber := put.2 }
  | .drain => some { stream with subscriber := stream.subscriber.drain }
  | .next =>
      match stream.phase with
      | .yielded =>
          if tokenExpiresAt ≤ stream.now then some { stream.send .authError with phase := .ended }
          else some { stream with phase := .waiting (stream.now + heartbeatInterval) }
      | _ => none
  | .woken =>
      match stream.phase, stream.subscriber.get stream.heap with
      | .waiting _, some (item, subscriber) =>
          (stream.heap[item]?).map fun payload =>
            { stream.send (.event payload) with subscriber := subscriber, phase := .yielded }
      | _, _ => none
  | .timedOut =>
      match stream.phase with
      | .waiting deadline =>
          if deadline ≤ stream.now then some { stream.send .heartbeat with phase := .yielded }
          else none
      | _ => none
  | .close =>
      match stream.phase with
      | .ended => none
      | _ => some { stream with phase := .closed }

end SseStream

abbrev SseEvent := ℚ × SseAction

def sseStep (tokenExpiresAt : ℚ) (stream : SseStream) (event : SseEvent) : Option SseStream :=
  if stream.now ≤ event.1 then { stream with now := event.1 }.act tokenExpiresAt event.2 else none

/-! ## What is promised -/

/-- The items that were sent at the expiry of the token or later. -/
def lateItems (tokenExpiresAt : ℚ) (sent : List (ℚ × SseItem)) : List SseItem :=
  (sent.filter fun entry => tokenExpiresAt ≤ entry.1).map Prod.snd

/-- No auth error is sent before the expiry; after it, at most one other item and then, where the
stream ends, the one auth error; a consumer can always go on, and a wait gets an event that is in
the buffer. -/
structure SsePromise (tokenExpiresAt : ℚ) (stream : SseStream) : Prop where
  notEarly : ∀ entry ∈ stream.sent, entry.2 = .authError → tokenExpiresAt ≤ entry.1
  afterExpiry : ∃ further : List SseItem, further.length ≤ 1 ∧ SseItem.authError ∉ further ∧
    lateItems tokenExpiresAt stream.sent =
      further ++ if stream.phase = .ended then [.authError] else []
  goesOn : ∀ time, stream.phase = .yielded → stream.now ≤ time →
    (sseStep tokenExpiresAt stream (time, .next)).isSome
  getsBuffered : ∀ deadline time, stream.phase = .waiting deadline → stream.now ≤ time →
    stream.subscriber.items ≠ [] → (sseStep tokenExpiresAt stream (time, .woken)).isSome

/-- What a step takes from the buffer and sends. -/
structure SseForwards (tokenExpiresAt : ℚ) (stream : SseStream) (event : SseEvent)
    (next : SseStream) : Prop where
  hubSendsNothing : event.2.ofHub = true → next.sent = stream.sent
  forwards : event.2.ofHub = false → ∃ (taken : List Nat) (items : List SseItem),
    stream.subscriber.items = taken ++ next.subscriber.items ∧ next.heap = stream.heap ∧
      next.sent = stream.sent ++ items.map (fun item => (event.1, item)) ∧ items.length ≤ 1 ∧
      taken.map (stream.heap[·]?) = (items.filterMap SseItem.payload?).map some
  keepsBuffer : event.2 = .timedOut → next.subscriber = stream.subscriber
  checksExpiry : event.2 = .next → tokenExpiresAt ≤ event.1 →
    next.sent = stream.sent ++ [(event.1, .authError)] ∧ next.phase = .ended
  ends : stream.phase = .ended → event.2.ofHub = true ∧ next.phase = .ended

/-! ## The invariant -/

theorem lateItems_append (tokenExpiresAt : ℚ) (first second : List (ℚ × SseItem)) :
    lateItems tokenExpiresAt (first ++ second) =
      lateItems tokenExpiresAt first ++ lateItems tokenExpiresAt second := by
  simp [lateItems]

theorem lateItems_eq_nil {tokenExpiresAt : ℚ} {sent : List (ℚ × SseItem)}
    (early : ∀ entry ∈ sent, entry.1 < tokenExpiresAt) : lateItems tokenExpiresAt sent = [] := by
  rw [lateItems, List.map_eq_nil_iff, List.filter_eq_nil_iff]
  intro entry member
  simpa using early entry member

theorem authError_notMem_lateItems {tokenExpiresAt : ℚ} {sent : List (ℚ × SseItem)}
    (none : ∀ entry ∈ sent, entry.2 ≠ .authError) :
    SseItem.authError ∉ lateItems tokenExpiresAt sent := by
  intro member
  obtain ⟨entry, inLate, isAuth⟩ := List.mem_map.mp member
  exact none entry (List.mem_of_mem_filter inLate) isAuth

/-- What was sent while the stream is open. -/
structure OpenSent (tokenExpiresAt : ℚ) (sent : List (ℚ × SseItem)) : Prop where
  noAuthError : ∀ entry ∈ sent, entry.2 ≠ .authError
  atMostOne : (lateItems tokenExpiresAt sent).length ≤ 1

/-- A waiting stream has checked the expiry after everything it sent. -/
structure SseInvariant (tokenExpiresAt : ℚ) (stream : SseStream) : Prop where
  consistent : stream.subscriber.Consistent stream.heap
  recent : ∀ entry ∈ stream.sent, entry.1 ≤ stream.now
  checked : ∀ deadline, stream.phase = .waiting deadline →
    ∀ entry ∈ stream.sent, entry.1 < tokenExpiresAt
  isOpen : stream.phase ≠ .ended → OpenSent tokenExpiresAt stream.sent
  hasEnded : stream.phase = .ended → ∃ before time,
    stream.sent = before ++ [(time, .authError)] ∧ tokenExpiresAt ≤ time ∧
      OpenSent tokenExpiresAt before

section Steps

variable {tokenExpiresAt : ℚ} {stream next : SseStream}

theorem sseInvariant_create (tokenExpiresAt start : ℚ) :
    SseInvariant tokenExpiresAt (.create start) where
  consistent := consistent_create [] queueMaxsize one_le_queueMaxsize
  recent := nofun
  checked _ := nofun
  isOpen _ := ⟨nofun, Nat.zero_le _⟩
  hasEnded := nofun

theorem SseInvariant.later (invariant : SseInvariant tokenExpiresAt stream) {time : ℚ}
    (forward : stream.now ≤ time) : SseInvariant tokenExpiresAt { stream with now := time } where
  consistent := invariant.consistent
  recent entry member := le_trans (invariant.recent entry member) forward
  checked := invariant.checked
  isOpen := invariant.isOpen
  hasEnded := invariant.hasEnded

/-- A change of the buffer. -/
theorem SseInvariant.rebuffer (invariant : SseInvariant tokenExpiresAt stream)
    {heap : EventHeap} {subscriber : Subscriber} (consistent : subscriber.Consistent heap) :
    SseInvariant tokenExpiresAt { stream with heap := heap, subscriber := subscriber } where
  consistent := consistent
  recent := invariant.recent
  checked := invariant.checked
  isOpen := invariant.isOpen
  hasEnded := invariant.hasEnded

/-- The one item that a wait leads to, which may come after the expiry. -/
theorem SseInvariant.sendItem (invariant : SseInvariant tokenExpiresAt stream) {deadline : ℚ}
    (isWaiting : stream.phase = .waiting deadline) {item : SseItem}
    (noAuthError : item ≠ .authError) :
    SseInvariant tokenExpiresAt { stream.send item with phase := .yielded } where
  consistent := invariant.consistent
  recent entry member := by
    rcases List.mem_append.mp member with earlier | isNew
    · exact invariant.recent entry earlier
    · rw [List.mem_singleton.mp isNew]
      exact le_refl _
  checked _ := nofun
  isOpen _ := by
    have stillOpen := invariant.isOpen (by rw [isWaiting]; nofun)
    constructor
    · intro entry member
      rcases List.mem_append.mp member with earlier | isNew
      · exact stillOpen.noAuthError entry earlier
      · rw [List.mem_singleton.mp isNew]
        exact noAuthError
    · show (lateItems tokenExpiresAt (stream.sent ++ [(stream.now, item)])).length ≤ 1
      rw [lateItems_append, lateItems_eq_nil (invariant.checked deadline isWaiting),
        List.nil_append, lateItems, List.length_map]
      exact List.length_filter_le _ [(stream.now, item)]
  hasEnded := nofun

/-- The segments, each with what it found. -/
inductive SseStream.Acted (tokenExpiresAt : ℚ) (stream : SseStream) : SseAction → SseStream → Prop
  | put (event : HubEvent) (seq : Nat) :
      SseStream.Acted tokenExpiresAt stream (.put event seq)
        { stream with
          heap := (stream.subscriber.put (stream.heap ++ [.published event])
            stream.heap.length seq).1
          subscriber := (stream.subscriber.put (stream.heap ++ [.published event])
            stream.heap.length seq).2 }
  | drain :
      SseStream.Acted tokenExpiresAt stream .drain
        { stream with subscriber := stream.subscriber.drain }
  | expires (isYielded : stream.phase = .yielded) (expired : tokenExpiresAt ≤ stream.now) :
      SseStream.Acted tokenExpiresAt stream .next
        { stream.send .authError with phase := .ended }
  | waits (isYielded : stream.phase = .yielded) (unexpired : ¬tokenExpiresAt ≤ stream.now) :
      SseStream.Acted tokenExpiresAt stream .next
        { stream with phase := .waiting (stream.now + heartbeatInterval) }
  | woken {deadline : ℚ} {item : Nat} {subscriber : Subscriber} {payload : Payload}
      (isWaiting : stream.phase = .waiting deadline)
      (takes : stream.subscriber.get stream.heap = some (item, subscriber))
      (holds : stream.heap[item]? = some payload) :
      SseStream.Acted tokenExpiresAt stream .woken
        { stream.send (.event payload) with subscriber := subscriber, phase := .yielded }
  | timedOut {deadline : ℚ} (isWaiting : stream.phase = .waiting deadline) :
      SseStream.Acted tokenExpiresAt stream .timedOut
        { stream.send .heartbeat with phase := .yielded }
  | closed (notEnded : stream.phase ≠ .ended) :
      SseStream.Acted tokenExpiresAt stream .close { stream with phase := .closed }

theorem acted_of_act {action : SseAction} (segment : stream.act tokenExpiresAt action = some next) :
    SseStream.Acted tokenExpiresAt stream action next := by
  cases action with
  | put event seq =>
      cases segment
      exact .put event seq
  | drain =>
      cases segment
      exact .drain
  | next =>
      simp only [SseStream.act] at segment
      split at segment
      · rename_i isYielded
        split at segment
        · rename_i expired
          cases segment
          exact .expires isYielded expired
        · rename_i unexpired
          cases segment
          exact .waits isYielded unexpired
      · cases segment
  | woken =>
      simp only [SseStream.act] at segment
      split at segment
      · rename_i deadline item subscriber isWaiting takes
        obtain ⟨payload, holds, rfl⟩ := Option.map_eq_some_iff.mp segment
        exact .woken isWaiting takes holds
      · cases segment
  | timedOut =>
      simp only [SseStream.act] at segment
      split at segment
      · rename_i deadline isWaiting
        split at segment
        · cases segment
          exact .timedOut isWaiting
        · cases segment
      · cases segment
  | close =>
      simp only [SseStream.act] at segment
      split at segment
      · cases segment
      · rename_i notEnded
        cases segment
        exact .closed notEnded

theorem SseInvariant.act {action : SseAction} (invariant : SseInvariant tokenExpiresAt stream)
    (acted : SseStream.Acted tokenExpiresAt stream action next) :
    SseInvariant tokenExpiresAt next := by
  cases acted with
  | put event seq => exact invariant.rebuffer (invariant.consistent.put seq)
  | drain => exact invariant.rebuffer ⟨nofun, Indexes.empty _⟩
  | expires isYielded expired =>
      have stillOpen := invariant.isOpen (by rw [isYielded]; nofun)
      refine ⟨invariant.consistent, ?_, fun _ => nofun, fun notEnded => absurd rfl notEnded, ?_⟩
      · intro entry member
        rcases List.mem_append.mp member with earlier | isNew
        · exact invariant.recent entry earlier
        · rw [List.mem_singleton.mp isNew]
          exact le_refl _
      · intro _
        exact ⟨stream.sent, stream.now, rfl, expired, stillOpen⟩
  | waits isYielded unexpired =>
      have stillOpen := invariant.isOpen (by rw [isYielded]; nofun)
      refine ⟨invariant.consistent, invariant.recent, ?_, fun _ => stillOpen, nofun⟩
      intro _ _ entry member
      exact lt_of_le_of_lt (invariant.recent entry member) (not_le.mp unexpired)
  | @woken deadline item subscriber payload isWaiting takes holds =>
      have sent := invariant.sendItem isWaiting (SseItem.noConfusion : SseItem.event payload ≠ _)
      exact sent.rebuffer (consistent_get stream.subscriber _ invariant.consistent takes)
  | timedOut isWaiting => exact invariant.sendItem isWaiting nofun
  | closed notEnded =>
      exact ⟨invariant.consistent, invariant.recent, fun _ => nofun,
        fun _ => invariant.isOpen notEnded, nofun⟩

theorem sseStep_eq_some {event : SseEvent} :
    sseStep tokenExpiresAt stream event = some next ↔
      stream.now ≤ event.1 ∧
        { stream with now := event.1 }.act tokenExpiresAt event.2 = some next := by
  unfold sseStep
  split
  · rename_i forward
    simp [forward]
  · rename_i backward
    simp [backward]

theorem SseInvariant.step {event : SseEvent} (invariant : SseInvariant tokenExpiresAt stream)
    (step : sseStep tokenExpiresAt stream event = some next) :
    SseInvariant tokenExpiresAt next := by
  obtain ⟨forward, segment⟩ := sseStep_eq_some.mp step
  exact (invariant.later forward).act (acted_of_act segment)

/-! ## What it promises -/

theorem SseInvariant.promise (invariant : SseInvariant tokenExpiresAt stream) :
    SsePromise tokenExpiresAt stream where
  notEarly entry member isAuth := by
    by_cases isEnded : stream.phase = .ended
    · obtain ⟨before, time, sent, expired, stillOpen⟩ := invariant.hasEnded isEnded
      rw [sent] at member
      rcases List.mem_append.mp member with earlier | isLast
      · exact absurd isAuth (stillOpen.noAuthError entry earlier)
      · rw [List.mem_singleton.mp isLast]
        exact expired
    · exact absurd isAuth ((invariant.isOpen isEnded).noAuthError entry member)
  afterExpiry := by
    by_cases isEnded : stream.phase = .ended
    · obtain ⟨before, time, sent, expired, stillOpen⟩ := invariant.hasEnded isEnded
      refine ⟨lateItems tokenExpiresAt before, stillOpen.atMostOne,
        authError_notMem_lateItems stillOpen.noAuthError, ?_⟩
      rw [sent, lateItems_append, if_pos isEnded]
      simp [lateItems, expired]
    · have stillOpen := invariant.isOpen isEnded
      refine ⟨lateItems tokenExpiresAt stream.sent, stillOpen.atMostOne,
        authError_notMem_lateItems stillOpen.noAuthError, ?_⟩
      rw [if_neg isEnded, List.append_nil]
  goesOn time isYielded forward := by
    simp only [sseStep, if_pos forward, SseStream.act, isYielded]
    split <;> rfl
  getsBuffered deadline time isWaiting forward buffered := by
    cases split : stream.subscriber.items with
    | nil => exact absurd split buffered
    | cons item rest =>
        have allocated := invariant.consistent.allocated item (by simp [split])
        simp [sseStep, forward, SseStream.act, isWaiting, Subscriber.get, split,
          List.getElem?_eq_getElem allocated]

/-- What the segments take and send. -/
theorem sseForwards_of_step {event : SseEvent}
    (step : sseStep tokenExpiresAt stream event = some next) :
    SseForwards tokenExpiresAt stream event next := by
  obtain ⟨time, action⟩ := event
  obtain ⟨-, segment⟩ := sseStep_eq_some.mp step
  dsimp only at segment
  cases acted_of_act segment with
  | put event seq => exact ⟨fun _ => rfl, nofun, nofun, nofun, fun isEnded => ⟨rfl, isEnded⟩⟩
  | drain => exact ⟨fun _ => rfl, nofun, nofun, nofun, fun isEnded => ⟨rfl, isEnded⟩⟩
  | expires isYielded expired =>
      have notEnded : stream.phase ≠ .ended := by rw [isYielded]; nofun
      exact ⟨nofun, fun _ => ⟨[], [.authError], rfl, rfl, rfl, Nat.le_refl 1, rfl⟩, nofun,
        fun _ _ => ⟨rfl, rfl⟩, fun isEnded => absurd isEnded notEnded⟩
  | waits isYielded unexpired =>
      have notEnded : stream.phase ≠ .ended := by rw [isYielded]; nofun
      exact ⟨nofun, fun _ => ⟨[], [], rfl, rfl, (List.append_nil _).symm, Nat.zero_le 1, rfl⟩,
        nofun, fun _ expired => absurd expired unexpired,
        fun isEnded => absurd isEnded notEnded⟩
  | @woken deadline item subscriber payload isWaiting takes holds =>
      have notEnded : stream.phase ≠ .ended := by rw [isWaiting]; nofun
      have headFirst : stream.subscriber.items = [item] ++ subscriber.items := by
        unfold Subscriber.get at takes
        split at takes
        · cases takes
        · rename_i first rest split
          cases takes
          rw [split, Subscriber.discardFromIndex_items, List.singleton_append]
      refine ⟨nofun, fun _ => ⟨[item], [.event payload], headFirst, rfl, rfl, Nat.le_refl 1, ?_⟩,
        nofun, nofun, fun isEnded => absurd isEnded notEnded⟩
      simpa [SseItem.payload?] using holds
  | timedOut isWaiting =>
      have notEnded : stream.phase ≠ .ended := by rw [isWaiting]; nofun
      exact ⟨nofun, fun _ => ⟨[], [.heartbeat], rfl, rfl, rfl, Nat.le_refl 1, rfl⟩,
        fun _ => rfl, nofun, fun isEnded => absurd isEnded notEnded⟩
  | closed notEnded =>
      exact ⟨nofun, fun _ => ⟨[], [], rfl, rfl, (List.append_nil _).symm, Nat.zero_le 1, rfl⟩,
        nofun, nofun, fun isEnded => absurd isEnded notEnded⟩

end Steps

/-- An event that arrives at the timeout is sent after the heartbeat; the wait that was begun
before the expiry ends with one more heartbeat. -/
example : (StepSystem.run (sseStep 20) (.create 0)
    [(0, .next), (15, .put (.other "log") 0), (15, .timedOut), (15, .next), (15, .woken),
      (16, .next), (31, .timedOut), (31, .next)]).map (fun stream => stream.sent.map Prod.snd) =
    some [.heartbeat, .event (.published (.other "log")), .heartbeat, .authError] := by
  decide +kernel

end QuAIA.Orchestrator
