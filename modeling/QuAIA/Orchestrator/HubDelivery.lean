import QuAIA.Orchestrator.HubSharing
import QuAIA.Orchestrator.SubscriberBuffer

/-!
Contract: which buffers a publication of the hub reaches (`StreamingHub`).

Owns: the registration lists of both kinds of channels and the counter they share; publications
that put into a copy of a list, interleaved with everything else; the ledger of publications and
deliveries; and that every publication is delivered once to each subscriber that was registered.

Does not own: what a put does to a buffer. The lock of the hub is never held where a coroutine
waits, so that what it protects is one step; each put of a publication is a step of its own.
-/

set_option autoImplicit false

namespace QuAIA.Orchestrator

open QuAIA.Common
open QuAIA.Library

/-! ## The code -/

inductive Channel where
  | global
  | agent (agentId : String)
deriving DecidableEq

/-- `StreamingHub`. Subscribers are objects, known by their number. -/
structure StreamingHub where
  globalSubs : List Nat
  agentSubs : Dict String (List Nat)
  seq : Nat

namespace StreamingHub

def create : StreamingHub := ⟨[], .empty, 0⟩

/-- The entry of `subscribe_global`. -/
def subscribeGlobal (hub : StreamingHub) (sub : Nat) : StreamingHub :=
  { hub with globalSubs := hub.globalSubs ++ [sub] }

/-- The entry of `subscribe_agent`. -/
def subscribeAgent (hub : StreamingHub) (agentId : String) (sub : Nat) : StreamingHub :=
  { hub with agentSubs := hub.agentSubs.set agentId (hub.agentSubs.getD agentId [] ++ [sub]) }

/-- The `finally` of `subscribe_global`. -/
def leaveGlobal (hub : StreamingHub) (sub : Nat) : StreamingHub :=
  { hub with globalSubs := hub.globalSubs.erase sub }

/-- The `finally` of `subscribe_agent`. -/
def leaveAgent (hub : StreamingHub) (agentId : String) (sub : Nat) : StreamingHub :=
  let subs := (hub.agentSubs.getD agentId []).erase sub
  if subs = [] then { hub with agentSubs := hub.agentSubs.pop agentId }
  else { hub with agentSubs := hub.agentSubs.set agentId subs }

def subscribe (hub : StreamingHub) : Channel → Nat → StreamingHub
  | .global => hub.subscribeGlobal
  | .agent agentId => hub.subscribeAgent agentId

def leave (hub : StreamingHub) : Channel → Nat → StreamingHub
  | .global => hub.leaveGlobal
  | .agent agentId => hub.leaveAgent agentId

/-- The list that `publish_global` or `publish_agent` copies. -/
def subs (hub : StreamingHub) : Channel → List Nat
  | .global => hub.globalSubs
  | .agent agentId => hub.agentSubs.getD agentId []

/-- `all_subs` of `shutdown`. -/
def allSubs (hub : StreamingHub) : List Nat :=
  hub.globalSubs ++ hub.agentSubs.entries.flatMap Prod.snd

end StreamingHub

/-- A call of `publish_global` or `publish_agent` behind its locked part: the event, its number,
and the subscribers that it has not put the event to yet. -/
structure Publishing where
  event : Nat
  seq : Nat
  subs : List Nat

/-- The hub with the objects of the program: dictionaries, subscribers, the open contexts with
their channels, and the publications under way. A publication is known by its number. -/
structure HubState where
  hub : StreamingHub
  heap : EventHeap
  subscribers : List Subscriber
  contexts : Dict Nat Channel
  publishing : Dict Nat Publishing
  publications : Nat

namespace HubState

def create : HubState := ⟨.create, [], [], .empty, .empty, 0⟩

/-- A publication returns when no subscriber is left. -/
def proceed (state : HubState) (number : Nat) (running : Publishing) : HubState :=
  { state with
    publishing :=
      if running.subs = [] then state.publishing.pop number
      else state.publishing.set number running }

/-- The locked part of a publication. -/
def publish (state : HubState) (channel : Channel) (event : Nat) : HubState :=
  { state with
    hub := { state.hub with seq := state.hub.seq + 1 }
    publications := state.publications + 1 }.proceed state.publications
      ⟨event, state.hub.seq, state.hub.subs channel⟩

end HubState

/-- What happens next. A context can be left normally or by an exception, which its `finally`
does not tell apart. -/
inductive HubAction where
  | created (event : HubEvent)
  | subscribe (channel : Channel)
  | leave (sub : Nat)
  | publish (channel : Channel) (event : Nat)
  | put (number : Nat)
  | get (sub : Nat)
  | shutdown

def hubStep (state : HubState) : HubAction → Option HubState
  | .created event => some { state with heap := state.heap ++ [.published event] }
  | .subscribe channel =>
      some { state with
        hub := state.hub.subscribe channel state.subscribers.length
        subscribers := state.subscribers ++ [.create queueMaxsize one_le_queueMaxsize]
        contexts := state.contexts.set state.subscribers.length channel }
  | .leave sub =>
      match state.contexts.get? sub with
      | some channel =>
          some { state with
            hub := state.hub.leave channel sub
            contexts := state.contexts.pop sub }
      | none => none
  | .publish channel event =>
      if event < state.heap.length then some (state.publish channel event) else none
  | .put number =>
      match state.publishing.get? number with
      | some ⟨event, seq, sub :: rest⟩ =>
          match state.subscribers[sub]? with
          | some subscriber =>
              let put := subscriber.put state.heap event seq
              some ({ state with
                heap := put.1
                subscribers := state.subscribers.set sub put.2 }.proceed number ⟨event, seq, rest⟩)
          | none => none
      | _ => none
  | .get sub =>
      match state.subscribers[sub]? with
      | some subscriber =>
          (subscriber.get state.heap).map fun taken =>
            { state with subscribers := state.subscribers.set sub taken.2 }
      | none => none
  | .shutdown =>
      some { state with
        subscribers := state.subscribers.mapIdx fun sub subscriber =>
          if sub ∈ state.hub.allSubs then subscriber.drain else subscriber }

/-- A buffer changes by the puts of publications, the gets of its consumer and the shutdown. -/
theorem buffer_step {state next : HubState} {action : HubAction} {sub : Nat}
    {subscriber : Subscriber} (step : hubStep state action = some next)
    (has : state.subscribers[sub]? = some subscriber) :
    next.subscribers[sub]? = some subscriber ∨
      (∃ number event seq rest, action = .put number ∧
        state.publishing.get? number = some ⟨event, seq, sub :: rest⟩ ∧
        next.subscribers[sub]? = some (subscriber.put state.heap event seq).2) ∨
      action = .get sub ∨ action = .shutdown := by
  have created : sub < state.subscribers.length := (List.getElem?_eq_some_iff.mp has).1
  cases action with
  | created event =>
      cases step
      exact Or.inl has
  | subscribe channel =>
      cases step
      exact Or.inl ((List.getElem?_append_left created).trans has)
  | leave other =>
      simp only [hubStep] at step
      split at step
      · cases step
        exact Or.inl has
      · cases step
  | publish channel event =>
      simp only [hubStep] at step
      split at step
      · cases step
        exact Or.inl has
      · cases step
  | put number =>
      simp only [hubStep] at step
      split at step
      · rename_i event seq receiver rest running
        split at step
        · rename_i buffer hasBuffer
          cases step
          by_cases same : receiver = sub
          · subst same
            rw [has, Option.some.injEq] at hasBuffer
            rw [← hasBuffer]
            exact Or.inr (Or.inl ⟨number, event, seq, rest, rfl, running,
              List.getElem?_set_self created⟩)
          · exact Or.inl ((List.getElem?_set_ne same).trans has)
        · cases step
      · cases step
  | get other =>
      simp only [hubStep] at step
      split at step
      · obtain ⟨taken, -, rfl⟩ := Option.map_eq_some_iff.mp step
        by_cases same : other = sub
        · exact Or.inr (Or.inr (Or.inl (by rw [same])))
        · exact Or.inl ((List.getElem?_set_ne same).trans has)
      · cases step
  | shutdown => exact Or.inr (Or.inr (Or.inr rfl))

/-! ## The ledger -/

/-- A publication with the subscribers whose contexts were open on its channel. -/
structure Publication where
  channel : Channel
  event : Nat
  seq : Nat
  registered : List Nat

/-- A put: its publication and subscriber, and the event and number that were put. -/
structure Delivery where
  publication : Nat
  sub : Nat
  event : Nat
  seq : Nat

structure HubLedger where
  publications : List Publication
  deliveries : List Delivery

namespace HubLedger

def empty : HubLedger := ⟨[], []⟩

def record (state : HubState) (action : HubAction) (_next : HubState) (ledger : HubLedger) :
    HubLedger :=
  match action with
  | .publish channel event =>
      { ledger with
        publications := ledger.publications ++
          [⟨channel, event, state.hub.seq, state.contexts.keysOf channel⟩] }
  | .put number =>
      match state.publishing.get? number with
      | some ⟨event, seq, sub :: _⟩ =>
          { ledger with deliveries := ledger.deliveries ++ [⟨number, sub, event, seq⟩] }
      | _ => ledger
  | _ => ledger

/-- The events and numbers that a publication has put to a subscriber. -/
def delivered (ledger : HubLedger) (number sub : Nat) : List (Nat × Nat) :=
  (ledger.deliveries.filter fun delivery => delivery.publication = number ∧ delivery.sub = sub).map
    fun delivery => (delivery.event, delivery.seq)

end HubLedger

def recordedStep : HubState × HubLedger → HubAction → Option (HubState × HubLedger) :=
  StepSystem.observed hubStep HubLedger.record

/-- The subscribers that are left to a publication, none when it has returned. -/
def remaining : Option Publishing → List Nat
  | some running => running.subs
  | none => []

def HubState.awaiting (state : HubState) (number : Nat) : List Nat :=
  remaining (state.publishing.get? number)

/-- Numbers increase with every publication; each one has put its event, with its number, once to
every subscriber that was registered and is no longer awaited, and to no other; it awaits
registered ones only, and can always go on; and no agent has an empty list. -/
structure HubDelivers (state : HubState × HubLedger) : Prop where
  increasing : state.2.publications.Pairwise fun earlier later => earlier.seq < later.seq
  once : ∀ number publication, state.2.publications[number]? = some publication → ∀ sub,
    state.2.delivered number sub =
      if sub ∈ publication.registered ∧ sub ∉ state.1.awaiting number then
        [(publication.event, publication.seq)]
      else []
  awaits : ∀ number publication, state.2.publications[number]? = some publication →
    state.1.awaiting number ⊆ publication.registered
  goesOn : ∀ number, state.1.publishing.contains number = true →
    (hubStep state.1 (.put number)).isSome
  noEmptyList : ∀ agentId, state.1.hub.agentSubs.get? agentId ≠ some []

/-! ## Registration -/

namespace StreamingHub

variable (hub : StreamingHub)

theorem subs_subscribe (channel other : Channel) (sub : Nat) :
    (hub.subscribe channel sub).subs other =
      if other = channel then hub.subs other ++ [sub] else hub.subs other := by
  cases channel with
  | global => cases other <;> simp [subscribe, subscribeGlobal, subs]
  | agent agentId =>
      cases other with
      | global => rfl
      | agent otherId =>
          by_cases same : otherId = agentId <;>
            simp [subscribe, subscribeAgent, subs, Dict.getD, Dict.get?_set, same]

theorem subs_leave (channel other : Channel) (sub : Nat) :
    (hub.leave channel sub).subs other =
      if other = channel then (hub.subs other).erase sub else hub.subs other := by
  cases channel with
  | global => cases other <;> simp [leave, leaveGlobal, subs]
  | agent agentId =>
      cases other with
      | global =>
          simp only [leave, leaveAgent, subs]
          split <;> rfl
      | agent otherId =>
          simp only [leave, leaveAgent, subs, Channel.agent.injEq]
          by_cases last : (hub.agentSubs.getD agentId []).erase sub = []
          · rw [if_pos last]
            by_cases same : otherId = agentId
            · rw [if_pos same, same, last]
              simp [Dict.getD, Dict.get?_pop]
            · simp [same, Dict.getD, Dict.get?_pop]
          · rw [if_neg last]
            by_cases same : otherId = agentId
            · rw [if_pos same, same]
              simp [Dict.getD]
            · simp [same, Dict.getD, Dict.get?_set]

/-- No agent has an empty list. -/
def NoEmptyList : Prop := ∀ agentId, hub.agentSubs.get? agentId ≠ some []

variable {hub}

theorem NoEmptyList.subscribe (noEmpty : hub.NoEmptyList) (channel : Channel) (sub : Nat) :
    (hub.subscribe channel sub).NoEmptyList := by
  cases channel with
  | global => exact noEmpty
  | agent agentId =>
      intro other
      simp only [StreamingHub.subscribe, subscribeAgent, Dict.get?_set]
      split
      · simp
      · exact noEmpty other

theorem NoEmptyList.leave (noEmpty : hub.NoEmptyList) (channel : Channel) (sub : Nat) :
    (hub.leave channel sub).NoEmptyList := by
  cases channel with
  | global => exact noEmpty
  | agent agentId =>
      intro other
      simp only [StreamingHub.leave, leaveAgent]
      split
      · rw [Dict.get?_pop]
        split
        · simp
        · exact noEmpty other
      · rename_i left
        rw [Dict.get?_set]
        split
        · simpa using left
        · exact noEmpty other

end StreamingHub

/-- The lists hold the subscribers of the open contexts, in the order of their entry. -/
structure HubRegistered (state : HubState) : Prop where
  lists : ∀ channel, state.hub.subs channel = state.contexts.keysOf channel
  noEmptyList : state.hub.NoEmptyList
  created : ∀ sub, state.contexts.contains sub = true → sub < state.subscribers.length

theorem hubRegistered_create : HubRegistered HubState.create where
  lists channel := by cases channel <;> rfl
  noEmptyList _ := nofun
  created _ := nofun

/-- Steps that leave the lists and the contexts alone. -/
theorem HubRegistered.congr {state next : HubState} (registered : HubRegistered state)
    (sameSubs : next.hub.globalSubs = state.hub.globalSubs)
    (sameAgents : next.hub.agentSubs = state.hub.agentSubs)
    (sameContexts : next.contexts = state.contexts)
    (sameObjects : next.subscribers.length = state.subscribers.length) : HubRegistered next where
  lists channel := by
    rw [sameContexts, ← registered.lists channel]
    cases channel <;> simp [StreamingHub.subs, sameSubs, sameAgents]
  noEmptyList := by
    intro agentId
    rw [sameAgents]
    exact registered.noEmptyList agentId
  created := by
    rw [sameContexts, sameObjects]
    exact registered.created

theorem HubRegistered.subscribe {state : HubState} (registered : HubRegistered state)
    (channel : Channel) :
    HubRegistered { state with
      hub := state.hub.subscribe channel state.subscribers.length
      subscribers := state.subscribers ++ [.create queueMaxsize one_le_queueMaxsize]
      contexts := state.contexts.set state.subscribers.length channel } where
  lists other := by
    have fresh : state.contexts.contains state.subscribers.length = false := by
      rw [Bool.eq_false_iff]
      intro known
      exact Nat.lt_irrefl _ (registered.created _ known)
    rw [StreamingHub.subs_subscribe, Dict.keysOf_set_of_fresh fresh, registered.lists other]
  noEmptyList := registered.noEmptyList.subscribe channel state.subscribers.length
  created sub known := by
    rw [Dict.contains_set, Bool.or_eq_true, decide_eq_true_eq] at known
    rw [List.length_append, List.length_singleton]
    rcases known with rfl | earlier
    · exact Nat.lt_succ_self _
    · exact Nat.lt_succ_of_lt (registered.created sub earlier)

theorem HubRegistered.leave {state : HubState} (registered : HubRegistered state) {sub : Nat}
    {channel : Channel} (entered : state.contexts.get? sub = some channel) :
    HubRegistered { state with
      hub := state.hub.leave channel sub
      contexts := state.contexts.pop sub } where
  lists other := by
    rw [StreamingHub.subs_leave, Dict.keysOf_pop, registered.lists other]
    split
    · rfl
    · rename_i different
      have absent : sub ∉ state.contexts.keysOf other := by
        rw [Dict.mem_keysOf, entered, Option.some.injEq]
        exact Ne.symm different
      rw [List.erase_of_not_mem absent]
  noEmptyList := registered.noEmptyList.leave channel sub
  created other known := by
    rw [Dict.contains_pop, Bool.and_eq_true] at known
    exact registered.created other known.2

theorem hubRegistered_step {state next : HubState} {action : HubAction}
    (registered : HubRegistered state) (step : hubStep state action = some next) :
    HubRegistered next := by
  cases action with
  | created event =>
      cases step
      exact registered.congr rfl rfl rfl rfl
  | subscribe channel =>
      cases step
      exact registered.subscribe channel
  | leave sub =>
      simp only [hubStep] at step
      split at step
      · rename_i channel entered
        cases step
        exact registered.leave entered
      · cases step
  | publish channel event =>
      simp only [hubStep] at step
      split at step
      · cases step
        exact registered.congr rfl rfl rfl rfl
      · cases step
  | put number =>
      simp only [hubStep] at step
      split at step
      · split at step
        · cases step
          exact registered.congr rfl rfl rfl List.length_set
        · cases step
      · cases step
  | get sub =>
      simp only [hubStep] at step
      split at step
      · obtain ⟨taken, -, rfl⟩ := Option.map_eq_some_iff.mp step
        exact registered.congr rfl rfl rfl List.length_set
      · cases step
  | shutdown =>
      cases step
      exact registered.congr rfl rfl rfl List.length_mapIdx

/-! ## One publication -/

/-- A publication goes on with what is left to it, or has returned. -/
def Publishing.goOn (running : Publishing) : Option Publishing :=
  if running.subs = [] then none else some running

theorem Publishing.of_goOn {running going : Publishing} (goesOn : running.goOn = some going) :
    running.subs ≠ [] ∧ going = running := by
  unfold Publishing.goOn at goesOn
  split at goesOn
  · cases goesOn
  · rename_i someLeft
    exact ⟨someLeft, (Option.some.inj goesOn).symm⟩

theorem remaining_goOn (running : Publishing) : remaining running.goOn = running.subs := by
  unfold Publishing.goOn
  split
  · rename_i finished
    rw [finished, remaining]
  · rfl

theorem HubState.get?_proceed (state : HubState) (number other : Nat) (running : Publishing) :
    (state.proceed number running).publishing.get? other =
      if other = number then running.goOn else state.publishing.get? other := by
  unfold HubState.proceed Publishing.goOn
  by_cases finished : running.subs = []
  · simp [finished, Dict.get?_pop]
  · simp [finished, Dict.get?_set]

/-- What is left to a publication, and what it has put to each subscriber. -/
structure Putting (publication : Publication) (running : Option Publishing)
    (delivered : Nat → List (Nat × Nat)) : Prop where
  carries : ∀ going ∈ running, going.event = publication.event ∧ going.seq = publication.seq
  left : remaining running ⊆ publication.registered
  distinct : (remaining running).Nodup
  once : ∀ sub, delivered sub =
    if sub ∈ publication.registered ∧ sub ∉ remaining running then
      [(publication.event, publication.seq)]
    else []

theorem putting_start (publication : Publication) (distinct : publication.registered.Nodup) :
    Putting publication
      (Publishing.goOn ⟨publication.event, publication.seq, publication.registered⟩)
      fun _ => [] where
  carries going isGoing := by
    obtain ⟨-, rfl⟩ := Publishing.of_goOn isGoing
    exact ⟨rfl, rfl⟩
  left := by rw [remaining_goOn]; exact List.Subset.refl _
  distinct := by rwa [remaining_goOn]
  once sub := by rw [remaining_goOn, if_neg (by simp)]

theorem Putting.put {publication : Publication} {event seq sub : Nat} {rest : List Nat}
    {delivered : Nat → List (Nat × Nat)}
    (putting : Putting publication (some ⟨event, seq, sub :: rest⟩) delivered) :
    Putting publication (Publishing.goOn ⟨event, seq, rest⟩) fun other =>
      delivered other ++ if other = sub then [(event, seq)] else [] := by
  obtain ⟨carries, left, distinct, once⟩ := putting
  obtain ⟨sameEvent, sameSeq⟩ := carries _ rfl
  simp only [remaining, List.nodup_cons, List.cons_subset] at left distinct once
  refine ⟨?_, ?_, ?_, ?_⟩
  · intro going isGoing
    obtain ⟨-, rfl⟩ := Publishing.of_goOn isGoing
    exact ⟨sameEvent, sameSeq⟩
  · rw [remaining_goOn]
    exact left.2
  · rw [remaining_goOn]
    exact distinct.2
  · intro other
    rw [remaining_goOn, once other]
    by_cases same : other = sub
    · subst same
      simp [left.1, distinct.1, ← sameEvent, ← sameSeq]
    · simp [same]

/-! ## Over a run -/

theorem HubLedger.delivered_append (ledger : HubLedger) (delivery : Delivery) (number sub : Nat) :
    HubLedger.delivered { ledger with deliveries := ledger.deliveries ++ [delivery] } number sub =
      ledger.delivered number sub ++
        if delivery.publication = number ∧ delivery.sub = sub then
          [(delivery.event, delivery.seq)]
        else [] := by
  unfold HubLedger.delivered
  rw [List.filter_append, List.map_append]
  by_cases hit : delivery.publication = number ∧ delivery.sub = sub <;> simp [hit]

/-- The publications are numbered, and each one is where its deliveries say. -/
structure HubAccounted (state : HubState × HubLedger) : Prop where
  registered : HubRegistered state.1
  begun : state.1.publications = state.2.publications.length
  below : ∀ publication ∈ state.2.publications, publication.seq < state.1.hub.seq
  increasing : state.2.publications.Pairwise fun earlier later => earlier.seq < later.seq
  putting : ∀ number publication, state.2.publications[number]? = some publication →
    Putting publication (state.1.publishing.get? number) (state.2.delivered number)
  runningKnown : ∀ number running, state.1.publishing.get? number = some running →
    number < state.2.publications.length
  deliveredKnown : ∀ delivery ∈ state.2.deliveries,
    delivery.publication < state.2.publications.length
  objects : ∀ number running, state.1.publishing.get? number = some running →
    running.subs ≠ [] ∧ ∀ sub ∈ running.subs, sub < state.1.subscribers.length

theorem hubAccounted_create : HubAccounted (HubState.create, HubLedger.empty) where
  registered := hubRegistered_create
  begun := rfl
  below := nofun
  increasing := List.Pairwise.nil
  putting := nofun
  runningKnown := nofun
  deliveredKnown := nofun
  objects := nofun

section Steps

variable {state next : HubState} {ledger : HubLedger}

/-- Steps that neither begin a publication nor put. -/
theorem HubAccounted.congr (accounted : HubAccounted (state, ledger))
    (registered : HubRegistered next) (sameSeq : next.hub.seq = state.hub.seq)
    (samePublishing : next.publishing = state.publishing)
    (sameCount : next.publications = state.publications)
    (objects : state.subscribers.length ≤ next.subscribers.length) :
    HubAccounted (next, ledger) where
  registered := registered
  begun := by rw [← accounted.begun, ← sameCount]
  below publication member := by
    show publication.seq < next.hub.seq
    rw [sameSeq]
    exact accounted.below publication member
  increasing := accounted.increasing
  putting number publication found := by
    show Putting publication (next.publishing.get? number) (ledger.delivered number)
    rw [samePublishing]
    exact accounted.putting number publication found
  runningKnown number running isRunning := by
    rw [samePublishing] at isRunning
    exact accounted.runningKnown number running isRunning
  deliveredKnown := accounted.deliveredKnown
  objects number running isRunning := by
    rw [samePublishing] at isRunning
    obtain ⟨some_, every⟩ := accounted.objects number running isRunning
    exact ⟨some_, fun sub member => Nat.lt_of_lt_of_le (every sub member) objects⟩

/-- Nothing was delivered of what was not yet published. -/
theorem HubAccounted.delivered_of_fresh (accounted : HubAccounted (state, ledger)) {number : Nat}
    (fresh : ledger.publications.length ≤ number) : ledger.delivered number = fun _ => [] := by
  funext sub
  rw [HubLedger.delivered, List.map_eq_nil_iff, List.filter_eq_nil_iff]
  intro delivery member
  have earlier : delivery.publication < ledger.publications.length :=
    accounted.deliveredKnown delivery member
  simp only [decide_eq_true_eq, not_and]
  intro same
  omega

theorem HubAccounted.publish (accounted : HubAccounted (state, ledger)) (channel : Channel)
    (event : Nat) (registered : HubRegistered (state.publish channel event)) :
    HubAccounted (state.publish channel event,
      { ledger with
        publications := ledger.publications ++
          [⟨channel, event, state.hub.seq, state.contexts.keysOf channel⟩] }) where
  registered := registered
  begun := by
    show state.publications + 1 = _
    rw [accounted.begun, List.length_append, List.length_singleton]
  below publication member := by
    show publication.seq < state.hub.seq + 1
    rcases List.mem_append.mp member with earlier | isNew
    · exact Nat.lt_succ_of_lt (accounted.below publication earlier)
    · rw [List.mem_singleton.mp isNew]
      exact Nat.lt_succ_self _
  increasing := by
    rw [List.pairwise_append]
    refine ⟨accounted.increasing, List.pairwise_singleton _ _, ?_⟩
    intro earlier member later isNew
    rw [List.mem_singleton.mp isNew]
    exact accounted.below earlier member
  putting number publication found := by
    have begun : state.publications = ledger.publications.length := accounted.begun
    rw [HubState.publish, HubState.get?_proceed]
    by_cases isNew : number = state.publications
    · rw [if_pos isNew]
      rw [isNew, begun, List.getElem?_concat_length, Option.some.injEq] at found
      have noneYet := accounted.delivered_of_fresh (isNew ▸ Nat.le_of_eq begun.symm)
      show Putting publication _ (ledger.delivered number)
      rw [noneYet, ← found, accounted.registered.lists channel]
      exact putting_start ⟨channel, event, state.hub.seq, state.contexts.keysOf channel⟩
        (state.contexts.nodup_keysOf channel)
    · rw [if_neg isNew]
      have earlier : number < ledger.publications.length := by
        obtain ⟨within, -⟩ := List.getElem?_eq_some_iff.mp found
        rw [List.length_append, List.length_singleton] at within
        omega
      rw [List.getElem?_append_left earlier] at found
      exact accounted.putting number publication found
  runningKnown number running isRunning := by
    show number < (ledger.publications ++ [_]).length
    rw [List.length_append, List.length_singleton]
    rw [HubState.publish, HubState.get?_proceed] at isRunning
    split at isRunning
    · rename_i isNew
      have begun : state.publications = ledger.publications.length := accounted.begun
      omega
    · exact Nat.lt_succ_of_lt (accounted.runningKnown number running isRunning)
  deliveredKnown delivery member := by
    show delivery.publication < (ledger.publications ++ [_]).length
    rw [List.length_append]
    exact Nat.lt_add_right _ (accounted.deliveredKnown delivery member)
  objects number running isRunning := by
    rw [HubState.publish, HubState.get?_proceed] at isRunning
    split at isRunning
    · obtain ⟨someLeft, rfl⟩ := Publishing.of_goOn isRunning
      refine ⟨someLeft, ?_⟩
      intro sub member
      rw [accounted.registered.lists channel, Dict.mem_keysOf] at member
      apply accounted.registered.created
      rw [Dict.contains, member]
      rfl
    · exact accounted.objects number running isRunning

theorem HubAccounted.put (accounted : HubAccounted (state, ledger)) {number event seq sub : Nat}
    {rest : List Nat} (running : state.publishing.get? number = some ⟨event, seq, sub :: rest⟩)
    {put : EventHeap × Subscriber}
    (registered : HubRegistered ({ state with
      heap := put.1
      subscribers := state.subscribers.set sub put.2 }.proceed number ⟨event, seq, rest⟩)) :
    HubAccounted ({ state with
      heap := put.1
      subscribers := state.subscribers.set sub put.2 }.proceed number ⟨event, seq, rest⟩,
      { ledger with deliveries := ledger.deliveries ++ [⟨number, sub, event, seq⟩] }) where
  registered := registered
  begun := accounted.begun
  below := accounted.below
  increasing := accounted.increasing
  putting other publication found := by
    rw [HubState.get?_proceed]
    have putting := accounted.putting other publication found
    by_cases same : other = number
    · rw [if_pos same]
      subst same
      have after : HubLedger.delivered
          { ledger with deliveries := ledger.deliveries ++ [⟨other, sub, event, seq⟩] } other =
          fun receiver => ledger.delivered other receiver ++
            if receiver = sub then [(event, seq)] else [] := by
        funext receiver
        rw [HubLedger.delivered_append]
        simp only [true_and, eq_comm]
      rw [after]
      rw [show (state, ledger).1.publishing.get? other = _ from running] at putting
      exact putting.put
    · rw [if_neg same]
      have after : HubLedger.delivered
          { ledger with deliveries := ledger.deliveries ++ [⟨number, sub, event, seq⟩] } other =
          ledger.delivered other := by
        funext receiver
        rw [HubLedger.delivered_append]
        simp [Ne.symm same]
      rw [after]
      exact putting
  runningKnown other later isRunning := by
    rw [HubState.get?_proceed] at isRunning
    split at isRunning
    · rename_i same
      rw [same]
      exact accounted.runningKnown number _ running
    · exact accounted.runningKnown other later isRunning
  deliveredKnown delivery member := by
    rcases List.mem_append.mp member with earlier | isNew
    · exact accounted.deliveredKnown delivery earlier
    · rw [List.mem_singleton.mp isNew]
      exact accounted.runningKnown number _ running
  objects other later isRunning := by
    rw [HubState.get?_proceed] at isRunning
    show later.subs ≠ [] ∧ ∀ receiver ∈ later.subs,
      receiver < (state.subscribers.set sub put.2).length
    rw [List.length_set]
    split at isRunning
    · obtain ⟨someLeft, rfl⟩ := Publishing.of_goOn isRunning
      obtain ⟨-, every⟩ := accounted.objects number _ running
      exact ⟨someLeft, fun receiver member => every receiver (List.mem_cons_of_mem sub member)⟩
    · exact accounted.objects other later isRunning

end Steps

theorem hubAccounted_step {state next : HubState × HubLedger} {action : HubAction}
    (accounted : HubAccounted state) (step : recordedStep state action = some next) :
    HubAccounted next := by
  obtain ⟨state, ledger⟩ := state
  obtain ⟨next, recorded⟩ := next
  obtain ⟨step, isRecord⟩ := StepSystem.observed_eq_some.mp step
  dsimp only at step isRecord
  have registered := hubRegistered_step accounted.registered step
  rw [isRecord]
  cases action with
  | created event =>
      cases step
      exact accounted.congr registered rfl rfl rfl (Nat.le_refl _)
  | subscribe channel =>
      cases step
      refine accounted.congr registered ?_ rfl rfl ?_
      · cases channel <;> rfl
      · exact List.length_append ▸ Nat.le_add_right _ _
  | leave sub =>
      simp only [hubStep] at step
      split at step
      · rename_i channel entered
        cases step
        refine accounted.congr registered ?_ rfl rfl (Nat.le_refl _)
        cases channel with
        | global => rfl
        | agent agentId =>
            simp only [StreamingHub.leave, StreamingHub.leaveAgent]
            split <;> rfl
      · cases step
  | publish channel event =>
      simp only [hubStep] at step
      split at step
      · cases step
        exact accounted.publish channel event registered
      · cases step
  | put number =>
      simp only [hubStep] at step
      split at step
      · rename_i event seq sub rest running
        split at step
        · cases step
          simp only [HubLedger.record, running]
          exact accounted.put running registered
        · cases step
      · cases step
  | get sub =>
      simp only [hubStep] at step
      split at step
      · obtain ⟨taken, -, rfl⟩ := Option.map_eq_some_iff.mp step
        exact accounted.congr registered rfl rfl rfl (Nat.le_of_eq List.length_set.symm)
      · cases step
  | shutdown =>
      cases step
      exact accounted.congr registered rfl rfl rfl (Nat.le_of_eq List.length_mapIdx.symm)

theorem HubAccounted.delivers {state : HubState × HubLedger} (accounted : HubAccounted state) :
    HubDelivers state where
  increasing := accounted.increasing
  once number publication found := (accounted.putting number publication found).once
  awaits number publication found := (accounted.putting number publication found).left
  goesOn number known := by
    obtain ⟨⟨event, seq, subs⟩, running⟩ := Option.isSome_iff_exists.mp known
    obtain ⟨someLeft, every⟩ := accounted.objects number _ running
    cases subs with
    | nil => exact absurd rfl someLeft
    | cons sub rest =>
        have created : sub < state.1.subscribers.length := every sub List.mem_cons_self
        simp [hubStep, running, List.getElem?_eq_getElem created]
  noEmptyList := accounted.registered.noEmptyList

/-- A subscriber that leaves while a publication is under way still gets its event. -/
example : (StepSystem.run recordedStep (HubState.create, HubLedger.empty)
    [.subscribe (.agent "agent"), .subscribe (.agent "agent"), .subscribe .global,
      .created (.other "log"), .publish (.agent "agent") 0, .leave 1, .put 0, .put 0]).map
    (fun state => (state.2.deliveries.map fun delivery => (delivery.sub, delivery.seq),
      state.1.hub.subs (.agent "agent"))) =
    some ([(0, 0), (1, 0)], [0]) := by
  decide

end QuAIA.Orchestrator
