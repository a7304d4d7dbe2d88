import QuAIA.Common.TaskExecution

/-!
Contract: the order of the events that a call of `execute` and the cancel calls for its
task put on their queues.

Owns: what the queue of the call has received in every phase; at most one terminal status,
after everything else, and the cancel calls that break this.

Does not own: what becomes of the log entries.
-/

set_option autoImplicit false

namespace QuAIA.Common

open QuAIA.Library

/-! ## Kinds of events -/

section Kinds

variable {Usage Trace : Type}

def Emission.isTerminal : Emission Usage Trace → Bool
  | .completed => true
  | .failed _ => true
  | .canceled => true
  | _ => false

/-- The execution result, the usage and the trace, in this order. -/
def Emission.rank : Emission Usage Trace → Nat
  | .executionResult _ => 0
  | .executionError _ => 0
  | .usage _ => 1
  | .trace _ => 2
  | _ => 3

def TaskEvent.isTerminal : TaskEvent Usage Trace → Bool
  | .emission own => own.isTerminal
  | _ => false

def TaskEvent.isLogs : TaskEvent Usage Trace → Bool
  | .logs _ _ _ _ => true
  | _ => false

def TaskEvent.isLastChunk : TaskEvent Usage Trace → Bool
  | .logs _ _ _ lastChunk => lastChunk
  | _ => false

/-- An activity update, or a log chunk without `last_chunk`. -/
def TaskEvent.isStreamed : TaskEvent Usage Trace → Bool
  | .working (some _) => true
  | .logs _ _ _ lastChunk => !lastChunk
  | _ => false

/-- The artifacts of an ended run come in their order, before its terminal status. -/
theorem emissions_split (ended : EndedRun Usage Trace) :
    ∃ artifacts terminal, ended.emissions = artifacts ++ [terminal] ∧
      artifacts.Pairwise (fun earlier later => earlier.rank < later.rank) ∧
      (∀ artifact ∈ artifacts, artifact.isTerminal = false) ∧ terminal.isTerminal = true := by
  obtain ⟨outcome, tokenUsage, trace⟩ := ended
  cases outcome with
  | returned answer =>
      refine ⟨.executionResult answer ::
        ((tokenUsage.map Emission.usage).toList ++ (trace.map Emission.trace).toList),
        .completed, rfl, ?_, ?_, rfl⟩
      · cases tokenUsage <;> cases trace <;> simp [Emission.rank]
      · cases tokenUsage <;> cases trace <;> simp [Emission.isTerminal]
  | agentRuntimeError text =>
      exact ⟨[.executionError text], .failed text, rfl, by simp, by simp [Emission.isTerminal],
        rfl⟩
  | exception text =>
      exact ⟨[], .failed ("An error occurred: " ++ text), rfl, .nil, nofun, rfl⟩
  | cancelled => exact ⟨[], .canceled, rfl, .nil, nofun, rfl⟩

theorem countP_emissions (ended : EndedRun Usage Trace) :
    ended.emissions.countP Emission.isTerminal = 1 := by
  obtain ⟨artifacts, terminal, split, -, open_, terminates⟩ := emissions_split ended
  rw [split, List.countP_append, List.countP_eq_zero.mpr (by simpa using open_)]
  simp [terminates]

end Kinds

/-! ## What the queue of the call receives -/

section Received

variable {Usage Trace : Type}

def receivedBy (queue : Nat) (emitted : List (Nat × TaskEvent Usage Trace)) :
    List (TaskEvent Usage Trace) :=
  (emitted.filter fun event => event.1 == queue).map Prod.snd

theorem receivedBy_own (queue : Nat) (emitted : List (Nat × TaskEvent Usage Trace))
    (event : TaskEvent Usage Trace) :
    receivedBy queue (emitted ++ [(queue, event)]) = receivedBy queue emitted ++ [event] := by
  simp [receivedBy]

theorem receivedBy_other {queue other : Nat} (apart : other ≠ queue)
    (emitted : List (Nat × TaskEvent Usage Trace)) (event : TaskEvent Usage Trace) :
    receivedBy queue (emitted ++ [(other, event)]) = receivedBy queue emitted := by
  simp [receivedBy, apart]

namespace TaskExecution

def received (state : TaskExecution Usage Trace) : List (TaskEvent Usage Trace) :=
  receivedBy state.eventQueue state.emitted

/-- The task, the start of work, and then activities and open log chunks. -/
def Opened (events : List (TaskEvent Usage Trace)) : Prop :=
  ∃ streamed, events = .task :: .working none :: streamed ∧
    ∀ event ∈ streamed, event.isStreamed = true

/-- What comes before the last log chunk. -/
def Begins (receivedMessage : Option Message) (events : List (TaskEvent Usage Trace)) :
    Prop :=
  match receivedMessage with
  | some _ => Opened events
  | none => events = []

/-- No last log chunk, or one. -/
def Closes (logsArtifactId : String) (events : List (TaskEvent Usage Trace)) : Prop :=
  events = [] ∨ ∃ remaining append, events = [.logs logsArtifactId remaining append true]

/-- What the queue has received, by the phase of the call. -/
def InOrder (receivedMessage : Option Message) (logsArtifactId : String)
    (events : List (TaskEvent Usage Trace)) : TaskPhase Usage Trace → Prop
  | .enqueuingTask => receivedMessage ≠ none ∧ events = []
  | .startingWork => receivedMessage ≠ none ∧ events = [.task]
  | .emitting ended pending =>
      ∃ opened closing done, events = opened ++ closing ++ done.map .emission ∧
        Begins receivedMessage opened ∧ Closes logsArtifactId closing ∧
        done ++ pending = ended.emissions
  | _ => receivedMessage ≠ none ∧ Opened events

structure Ordered (state : TaskExecution Usage Trace) : Prop where
  owned : state.LoopsOwned
  apart : ∀ queue ∈ state.cancelCalls, queue ≠ state.eventQueue
  inOrder : InOrder state.receivedMessage state.logsArtifactId state.received state.phase

/-- A cancel call finds the run registered, or was given another queue. -/
def CancelsApart (state : TaskExecution Usage Trace) : TaskStep Usage Trace → Prop
  | .cancelCalled queue => state.phase.registered = true ∨ queue ≠ state.eventQueue
  | _ => True

theorem begins_of_opened {receivedMessage : Option Message}
    {events : List (TaskEvent Usage Trace)} (present : receivedMessage ≠ none)
    (opened : Opened events) : Begins receivedMessage events := by
  cases receivedMessage with
  | none => exact absurd rfl present
  | some _ => exact opened

theorem Opened.append {events : List (TaskEvent Usage Trace)} (opened : Opened events)
    {event : TaskEvent Usage Trace} (isStreamed : event.isStreamed = true) :
    Opened (events ++ [event]) := by
  obtain ⟨streamed, rfl, all⟩ := opened
  exact ⟨streamed ++ [event], rfl, forall_mem_concat all isStreamed⟩

theorem inOrder_of_ownsLoops {receivedMessage : Option Message} {logsArtifactId : String}
    {events : List (TaskEvent Usage Trace)} {phase : TaskPhase Usage Trace}
    (owns : phase.ownsLoops = true) :
    InOrder receivedMessage logsArtifactId events phase ↔
      receivedMessage ≠ none ∧ Opened events := by
  cases phase with
  | awaitingRun => exact Iff.rfl
  | gathering => exact Iff.rfl
  | _ => cases owns

/-- What a loop enqueues joins the streamed events. -/
theorem inOrder_putAny {state : TaskExecution Usage Trace}
    (event : Option (TaskEvent Usage Trace))
    (inOrder : InOrder state.receivedMessage state.logsArtifactId state.received state.phase)
    (streams : ∀ streamed ∈ event, state.phase.ownsLoops = true ∧ streamed.isStreamed = true) :
    InOrder state.receivedMessage state.logsArtifactId (state.putAny event).received
      state.phase := by
  cases event with
  | none => exact inOrder
  | some event =>
      obtain ⟨owns, isStreamed⟩ := streams event rfl
      rw [inOrder_of_ownsLoops owns] at inOrder ⊢
      have grown := receivedBy_own state.eventQueue state.emitted event
      refine ⟨inOrder.1, ?_⟩
      show Opened (receivedBy state.eventQueue (state.emitted ++ [(state.eventQueue, event)]))
      rw [grown]
      exact inOrder.2.append isStreamed

/-- Only a loop that runs enqueues. -/
theorem running_of_enqueues {Item : Type} {loop : FlushLoop Item} {call : CallStep}
    {item : Item} (enqueues : loop.enqueues call = some item) : loop ≠ .ended := by
  rintro rfl
  cases enqueues

theorem LoopsOwned.owns_activity {state : TaskExecution Usage Trace}
    (owned : state.LoopsOwned) {call : CallStep} {description : String}
    (enqueues : state.activityLoop.enqueues call = some description) :
    state.phase.ownsLoops = true := by
  by_contra idle
  exact running_of_enqueues enqueues (owned (Bool.eq_false_iff.mpr idle)).1

theorem LoopsOwned.owns_logs {state : TaskExecution Usage Trace}
    (owned : state.LoopsOwned) {call : CallStep} {batch : LogBatch}
    (enqueues : state.logsLoop.enqueues call = some batch) :
    state.phase.ownsLoops = true := by
  by_contra idle
  exact running_of_enqueues enqueues (owned (Bool.eq_false_iff.mpr idle)).2

theorem closes_chunk (logsArtifactId : String) (remaining : List LogEntry) (append : Bool) :
    Closes logsArtifactId
      [(.logs logsArtifactId remaining append true : TaskEvent Usage Trace)] :=
  Or.inr ⟨remaining, append, rfl⟩

/-- An event of the call itself is received in its phase. -/
theorem inOrder_own (state : TaskExecution Usage Trace) (event : TaskEvent Usage Trace)
    (phase : TaskPhase Usage Trace)
    (next : InOrder state.receivedMessage state.logsArtifactId (state.received ++ [event])
      phase) :
    InOrder state.receivedMessage state.logsArtifactId (state.put event).received phase := by
  have grown : (state.put event).received = state.received ++ [event] :=
    receivedBy_own state.eventQueue state.emitted event
  rw [grown]
  exact next

theorem Stepped.inOrder {state next : TaskExecution Usage Trace}
    {event : TaskStep Usage Trace} (stepped : state.Stepped event next)
    (ordered : state.Ordered) :
    InOrder next.receivedMessage next.logsArtifactId next.received next.phase := by
  have inOrder := ordered.inOrder
  cases stepped with
  | logged => exact inOrder
  | taskEnqueued phase =>
      rw [phase] at inOrder
      apply inOrder_own state .task .startingWork
      exact ⟨inOrder.1, by rw [inOrder.2]; rfl⟩
  | workStarted phase =>
      rw [phase] at inOrder
      apply inOrder_own state (.working none) (.awaitingRun none)
      exact ⟨inOrder.1, [], by rw [inOrder.2]; rfl, nofun⟩
  | lastChunkSent phase =>
      rename_i ended remaining
      rw [phase] at inOrder
      apply inOrder_own state _ (.emitting ended ended.emissions)
      exact ⟨state.received, _, [], (List.append_nil _).symm,
        begins_of_opened inOrder.1 inOrder.2, closes_chunk _ _ _, rfl⟩
  | emitted phase =>
      rename_i ended emission pending
      rw [phase] at inOrder
      obtain ⟨opened, closing, done, split, begins, closes, owed⟩ := inOrder
      apply inOrder_own state (.emission emission) (.emitting ended pending)
      refine ⟨opened, closing, done ++ [emission], ?_, begins, closes, ?_⟩
      · rw [split, List.map_append]
        simp
      · rw [← owed]
        simp
  | runEnded phase =>
      rw [phase] at inOrder
      exact inOrder
  | resumed phase =>
      rw [phase] at inOrder
      exact inOrder
  | gathered phase =>
      rw [phase] at inOrder
      exact inOrder
  | gatheredSilent phase =>
      rw [phase] at inOrder
      exact ⟨state.received, [], [], by simp; rfl, begins_of_opened inOrder.1 inOrder.2,
        Or.inl rfl, rfl⟩
  | reported => exact inOrder
  | woke => exact inOrder
  | wokeSilent => exact inOrder
  | activityCall moved =>
      rename_i call moved'
      have streams := inOrder_putAny ((state.activityLoop.enqueues call).map
        fun description => .working (some description)) inOrder (by
          intro streamed member
          obtain ⟨description, enqueues, rfl⟩ := Option.map_eq_some_iff.mp member
          exact ⟨ordered.owned.owns_activity enqueues, rfl⟩)
      rw [putAny_eq] at streams ⊢
      exact streams
  | logsCall moved =>
      rename_i call moved'
      have streams := inOrder_putAny ((state.logsLoop.enqueues call).map
        fun batch => .logs state.logsArtifactId batch.1 state.sentAnyLogs false) inOrder (by
          intro streamed member
          obtain ⟨batch, enqueues, rfl⟩ := Option.map_eq_some_iff.mp member
          exact ⟨ordered.owned.owns_logs enqueues, rfl⟩)
      rw [putAny_eq] at streams ⊢
      exact streams
  | cancelRequested => exact inOrder
  | cancelUnregistered => exact inOrder
  | cancelEmitted called =>
      rename_i queue
      have other := receivedBy_other (ordered.apart queue called) state.emitted
        (.emission .canceled)
      show InOrder _ _ (receivedBy state.eventQueue (state.emitted ++ [_])) _
      rw [other]
      exact inOrder

/-- **Step lemma.** The queue of the call stays in order while no cancel call that finds
the run unregistered is given it. -/
theorem ordered_step (state : TaskExecution Usage Trace) (event : TaskStep Usage Trace)
    (next : TaskExecution Usage Trace) (ordered : state.Ordered)
    (apart : state.CancelsApart event) (step : state.step event = some next) :
    next.Ordered := by
  have stepped := stepped_of_step step
  refine ⟨stepped.loopsOwned ordered.owned, ?_, stepped.inOrder ordered⟩
  cases stepped with
  | cancelUnregistered unregistered =>
      have isApart := apart.resolve_left (by rw [unregistered]; exact Bool.false_ne_true)
      exact forall_mem_concat ordered.apart isApart
  | cancelEmitted =>
      intro queue member
      exact ordered.apart queue (List.mem_of_mem_erase member)
  | activityCall => rw [putAny_eq]; exact ordered.apart
  | logsCall => rw [putAny_eq]; exact ordered.apart
  | _ => exact ordered.apart

theorem ordered_start (eventQueue : Nat) (logsArtifactId : String)
    (receivedMessage : Option Message) :
    (start eventQueue logsArtifactId receivedMessage :
      TaskExecution Usage Trace).Ordered := by
  refine ⟨loopsOwned_start _ _ _, nofun, ?_⟩
  cases receivedMessage with
  | none => exact ⟨[], [], [], rfl, rfl, Or.inl rfl, rfl⟩
  | some message => exact ⟨nofun, rfl⟩

/-! ## One terminal status -/

/-- No event of the task follows a terminal status, so there is at most one. -/
def TerminalLast (state : TaskExecution Usage Trace) : Prop :=
  state.emitted.Pairwise fun earlier _ => earlier.2.isTerminal = false

/-- A cancel call finds the run registered. -/
def CancelsRegistered (state : TaskExecution Usage Trace) : TaskStep Usage Trace → Prop
  | .cancelCalled _ => state.phase.registered = true
  | _ => True

instance (state : TaskExecution Usage Trace) : DecidablePred state.CancelsRegistered
  | .cancelCalled _ => inferInstanceAs (Decidable (_ = _))
  | .logged _ => instDecidableTrue
  | .advanced => instDecidableTrue
  | .runEnded _ => instDecidableTrue
  | .resumed _ _ => instDecidableTrue
  | .gathered => instDecidableTrue
  | .reported _ => instDecidableTrue
  | .woke => instDecidableTrue
  | .activityCall _ => instDecidableTrue
  | .logsCall _ => instDecidableTrue
  | .cancelEmitted _ => instDecidableTrue

/-- The call has emitted everything, and so have the cancel calls. -/
def Finished (state : TaskExecution Usage Trace) : Prop :=
  (∃ ended, state.phase = .emitting ended []) ∧ state.cancelCalls = []

theorem pairwise_emissions (ended : EndedRun Usage Trace) :
    ended.emissions.Pairwise fun earlier _ => earlier.isTerminal = false := by
  obtain ⟨artifacts, terminal, split, -, open_, -⟩ := emissions_split ended
  rw [split, List.pairwise_append]
  refine ⟨?_, List.pairwise_singleton _ _, ?_⟩
  · apply List.pairwise_of_forall_mem_list
    intro earlier member _ _
    exact open_ earlier member
  · intro earlier member _ _
    exact open_ earlier member

theorem Opened.notTerminal {events : List (TaskEvent Usage Trace)} (opened : Opened events)
    {event : TaskEvent Usage Trace} (member : event ∈ events) : event.isTerminal = false := by
  obtain ⟨streamed, rfl, all⟩ := opened
  rcases List.mem_cons.mp member with rfl | member
  · rfl
  rcases List.mem_cons.mp member with rfl | member
  · rfl
  have isStreamed := all event member
  cases event with
  | emission => cases isStreamed
  | _ => rfl

theorem Begins.notTerminal {receivedMessage : Option Message}
    {events : List (TaskEvent Usage Trace)} (begins : Begins receivedMessage events)
    {event : TaskEvent Usage Trace} (member : event ∈ events) : event.isTerminal = false := by
  cases receivedMessage with
  | none =>
      rw [show events = [] from begins] at member
      cases member
  | some _ => exact Opened.notTerminal begins member

theorem Closes.notTerminal {logsArtifactId : String} {events : List (TaskEvent Usage Trace)}
    (closes : Closes logsArtifactId events) {event : TaskEvent Usage Trace}
    (member : event ∈ events) : event.isTerminal = false := by
  rcases closes with rfl | ⟨remaining, append, rfl⟩
  · cases member
  · rw [List.mem_singleton] at member
    rw [member]
    rfl

/-- In every phase the terminal status comes last on the queue of the call. -/
theorem InOrder.terminalLast {receivedMessage : Option Message} {logsArtifactId : String}
    {events : List (TaskEvent Usage Trace)} {phase : TaskPhase Usage Trace}
    (inOrder : InOrder receivedMessage logsArtifactId events phase) :
    events.Pairwise fun earlier _ => earlier.isTerminal = false := by
  have ofOpened : ∀ {opened : List (TaskEvent Usage Trace)}, Opened opened →
      opened.Pairwise fun earlier _ => earlier.isTerminal = false := by
    intro opened isOpened
    apply List.pairwise_of_forall_mem_list
    intro earlier member _ _
    exact isOpened.notTerminal member
  cases phase with
  | enqueuingTask => rw [inOrder.2]; exact .nil
  | startingWork => rw [inOrder.2]; exact List.pairwise_singleton _ _
  | awaitingRun => exact ofOpened inOrder.2
  | gathering => exact ofOpened inOrder.2
  | sendingLastChunk => exact ofOpened inOrder.2
  | emitting ended pending =>
      obtain ⟨opened, closing, done, rfl, begins, closes, owed⟩ := inOrder
      have front : ∀ event ∈ opened ++ closing, event.isTerminal = false := by
        intro event member
        rcases List.mem_append.mp member with inOpened | inClosing
        · exact begins.notTerminal inOpened
        · exact closes.notTerminal inClosing
      have isPrefix : done.Sublist ended.emissions := by
        rw [← owed]
        exact List.sublist_append_left done pending
      rw [List.pairwise_append]
      refine ⟨?_, ?_, ?_⟩
      · apply List.pairwise_of_forall_mem_list
        intro earlier member _ _
        exact front earlier member
      · rw [List.pairwise_map]
        exact (pairwise_emissions ended).sublist isPrefix
      · intro earlier member _ _
        exact front earlier member

/-- Nothing but the call itself has emitted. -/
structure Undisturbed (state : TaskExecution Usage Trace) : Prop where
  ordered : state.Ordered
  noCancels : state.cancelCalls = []
  own : ∀ event ∈ state.emitted, event.1 = state.eventQueue

theorem Undisturbed.terminalLast {state : TaskExecution Usage Trace}
    (undisturbed : state.Undisturbed) : state.TerminalLast := by
  have inOrder := undisturbed.ordered.inOrder.terminalLast
  have all : state.received = state.emitted.map Prod.snd := by
    unfold received receivedBy
    rw [List.filter_eq_self.mpr]
    intro event member
    rw [undisturbed.own event member]
    exact beq_self_eq_true _
  rw [all, List.pairwise_map] at inOrder
  exact inOrder

theorem undisturbed_step (state : TaskExecution Usage Trace)
    (event : TaskStep Usage Trace) (next : TaskExecution Usage Trace)
    (undisturbed : state.Undisturbed) (registered : state.CancelsRegistered event)
    (step : state.step event = some next) : next.Undisturbed := by
  have apart : state.CancelsApart event := by
    cases event with
    | cancelCalled => exact Or.inl registered
    | _ => trivial
  have ordered := ordered_step state event next undisturbed.ordered apart step
  have noCancels := undisturbed.noCancels
  have grown : ∀ events : List (TaskEvent Usage Trace),
      ∀ event ∈ state.emitted ++ events.map fun event => (state.eventQueue, event),
        event.1 = state.eventQueue := by
    intro events event member
    rcases List.mem_append.mp member with earlier | added
    · exact undisturbed.own event earlier
    · obtain ⟨_, _, rfl⟩ := List.mem_map.mp added
      rfl
  cases stepped_of_step step with
  | cancelUnregistered unregistered =>
      have isRegistered : state.phase.registered = true := registered
      rw [unregistered] at isRegistered
      cases isRegistered
  | cancelEmitted called =>
      rw [noCancels] at called
      cases called
  | activityCall =>
      refine ⟨ordered, ?_, ?_⟩
      · rw [putAny_eq]; exact noCancels
      · rw [putAny_eq]; exact grown _
  | logsCall =>
      refine ⟨ordered, ?_, ?_⟩
      · rw [putAny_eq]; exact noCancels
      · rw [putAny_eq]; exact grown _
  | taskEnqueued => exact ⟨ordered, noCancels, grown [_]⟩
  | workStarted => exact ⟨ordered, noCancels, grown [_]⟩
  | lastChunkSent => exact ⟨ordered, noCancels, grown [_]⟩
  | emitted => exact ⟨ordered, noCancels, grown [_]⟩
  | _ => exact ⟨ordered, noCancels, undisturbed.own⟩

theorem undisturbed_start (eventQueue : Nat) (logsArtifactId : String)
    (receivedMessage : Option Message) :
    (start eventQueue logsArtifactId receivedMessage :
      TaskExecution Usage Trace).Undisturbed :=
  ⟨ordered_start _ _ _, rfl, nofun⟩

/-- The terminal statuses that the phase still owes. -/
def owed : TaskPhase Usage Trace → Nat
  | .emitting _ pending => pending.countP Emission.isTerminal
  | _ => 1

/-- The terminal statuses of the task, emitted or bound to be. -/
def terminals (state : TaskExecution Usage Trace) : Nat :=
  state.emitted.countP (fun event => event.2.isTerminal) + state.cancelCalls.length +
    owed state.phase

theorem terminals_start (eventQueue : Nat) (logsArtifactId : String)
    (receivedMessage : Option Message) :
    (start eventQueue logsArtifactId receivedMessage :
      TaskExecution Usage Trace).terminals = 1 := by
  cases receivedMessage <;> rfl

theorem countP_putAny (state : TaskExecution Usage Trace)
    (event : Option (TaskEvent Usage Trace))
    (open_ : ∀ put ∈ event, put.isTerminal = false) :
    (state.putAny event).emitted.countP (fun event => event.2.isTerminal) =
      state.emitted.countP fun event => event.2.isTerminal := by
  cases event with
  | none => rfl
  | some event =>
      show (state.emitted ++ [(state.eventQueue, event)]).countP _ = _
      have isOpen := open_ event rfl
      simp [List.countP_append, isOpen]

/-- Every cancel call that finds the run unregistered adds one terminal status, and
nothing else does. -/
theorem Stepped.terminals {state next : TaskExecution Usage Trace}
    {event : TaskStep Usage Trace} (stepped : state.Stepped event next) :
    state.terminals ≤ next.terminals ∧
      (next.terminals = state.terminals ↔ state.CancelsRegistered event) := by
  have same : next.terminals = state.terminals → state.CancelsRegistered event →
      state.terminals ≤ next.terminals ∧
        (next.terminals = state.terminals ↔ state.CancelsRegistered event) := by
    intro equal registered
    exact ⟨Nat.le_of_eq equal.symm, iff_of_true equal registered⟩
  cases stepped with
  | cancelUnregistered unregistered =>
      have stray : state.CancelsRegistered (.cancelCalled ‹Nat›) ↔ False := by
        simp [CancelsRegistered, unregistered]
      rw [stray, iff_false]
      simp only [TaskExecution.terminals, List.length_append, List.length_singleton]
      constructor
      · omega
      · omega
  | cancelRequested registered => exact same rfl registered
  | cancelEmitted called =>
      apply same _ trivial
      have shorter := List.length_erase_of_mem called
      have called' := List.length_pos_of_mem called
      simp only [TaskExecution.terminals, List.countP_append, shorter]
      simp only [List.countP_singleton, TaskEvent.isTerminal, Emission.isTerminal, if_true]
      omega
  | taskEnqueued phase =>
      apply same _ trivial
      simp [TaskExecution.terminals, put, phase, owed, TaskEvent.isTerminal]
  | workStarted phase =>
      apply same _ trivial
      simp [TaskExecution.terminals, put, phase, owed, TaskEvent.isTerminal]
  | lastChunkSent phase =>
      apply same _ trivial
      simp [TaskExecution.terminals, put, phase, owed, TaskEvent.isTerminal, countP_emissions]
  | emitted phase =>
      apply same _ trivial
      simp only [TaskExecution.terminals, put, phase, owed, List.countP_append,
        List.countP_cons, List.countP_nil, TaskEvent.isTerminal]
      omega
  | runEnded phase =>
      apply same _ trivial
      simp [TaskExecution.terminals, phase, owed]
  | resumed phase =>
      apply same _ trivial
      simp [TaskExecution.terminals, phase, owed]
  | gathered phase =>
      apply same _ trivial
      simp [TaskExecution.terminals, phase, owed]
  | gatheredSilent phase =>
      apply same _ trivial
      simp [TaskExecution.terminals, phase, owed, countP_emissions]
  | activityCall =>
      apply same _ trivial
      have counted := countP_putAny state
        ((state.activityLoop.enqueues ‹CallStep›).map fun description =>
          .working (some description)) (by
        intro put member
        obtain ⟨_, _, rfl⟩ := Option.map_eq_some_iff.mp member
        rfl)
      rw [putAny_eq] at counted ⊢
      simp only [TaskExecution.terminals, counted]
  | logsCall =>
      apply same _ trivial
      have counted := countP_putAny state
        ((state.logsLoop.enqueues ‹CallStep›).map fun batch =>
          .logs state.logsArtifactId batch.1 state.sentAnyLogs false) (by
        intro put member
        obtain ⟨_, _, rfl⟩ := Option.map_eq_some_iff.mp member
        rfl)
      rw [putAny_eq] at counted ⊢
      simp only [TaskExecution.terminals, counted]
  | _ => exact same rfl trivial

/-- With the terminal status last there is at most one. -/
theorem TerminalLast.countP_le {state : TaskExecution Usage Trace}
    (last : state.TerminalLast) :
    state.emitted.countP (fun event => event.2.isTerminal) ≤ 1 := by
  unfold TerminalLast at last
  generalize state.emitted = emitted at last
  induction emitted with
  | nil => exact Nat.zero_le 1
  | cons event rest inductionHypothesis =>
      rw [List.pairwise_cons] at last
      rw [List.countP_cons]
      cases terminates : event.2.isTerminal with
      | false => simpa using inductionHypothesis last.2
      | true =>
          -- Nothing follows a terminal event.
          cases rest with
          | nil => simp
          | cons next others =>
              have open_ := last.1 next List.mem_cons_self
              rw [terminates] at open_
              cases open_

/-- **One terminal status.** The terminal status comes last throughout every run in which
all cancel calls find the run registered; and in a finished run it does only then. -/
theorem terminalLast_iff (eventQueue : Nat) (logsArtifactId : String)
    (receivedMessage : Option Message) (events : List (TaskStep Usage Trace)) :
    (StepSystem.Along step CancelsRegistered
        (start eventQueue logsArtifactId receivedMessage) events →
      StepSystem.Throughout step TerminalLast
        (start eventQueue logsArtifactId receivedMessage) events) ∧
    ∀ final, StepSystem.run step (start eventQueue logsArtifactId receivedMessage) events =
        some final →
      final.Finished →
      StepSystem.Throughout step TerminalLast
        (start eventQueue logsArtifactId receivedMessage) events →
      StepSystem.Along step CancelsRegistered
        (start eventQueue logsArtifactId receivedMessage) events := by
  constructor
  · intro along
    have undisturbed := StepSystem.throughout_of_along undisturbed_step
      (undisturbed_start eventQueue logsArtifactId receivedMessage) along
    exact StepSystem.throughout_mono (fun _ holds => holds.terminalLast) undisturbed
  · intro final ran finished through
    have counted := StepSystem.measure_eq_iff_along
      (fun _ _ _ step => (stepped_of_step step).terminals.1)
      (fun _ _ _ step => (stepped_of_step step).terminals.2) ran
    rw [terminals_start] at counted
    apply counted.mp
    obtain ⟨⟨ended, phase⟩, noCancels⟩ := finished
    have atMost := (StepSystem.holds_finally through ran).countP_le
    -- The measure never falls below its start, and a finished run owes nothing.
    have atLeast : 1 ≤ final.terminals := by
      apply StepSystem.invariant_of_step _ _ ran
      · intro state event next holds step
        exact Nat.le_trans holds (stepped_of_step step).terminals.1
      · exact Nat.le_of_eq (terminals_start _ _ _).symm
    have all : final.terminals = final.emitted.countP (fun event => event.2.isTerminal) := by
      simp [TaskExecution.terminals, noCancels, phase, owed]
    omega

end TaskExecution

end Received

/-! ### One run with a cancel call -/

namespace TaskExecution

/-- The rest of a call whose run is registered and returns without usage and trace. -/
def runCompletes : List (TaskStep Nat String) :=
  [.runEnded (.returned ⟨[]⟩ 0 ""), .resumed none none, .activityCall .cancelled,
    .logsCall .cancelled, .gathered, .advanced, .advanced]

/-- A cancel call that comes before the registration. -/
def cancelledEarly : List (TaskStep Nat String) :=
  [.cancelCalled 1, .cancelEmitted 1, .advanced, .advanced] ++ runCompletes

/-- Both the cancel call and the call of `execute` emit a terminal status. -/
theorem terminals_twice :
    ¬ ∀ (eventQueue : Nat) (logsArtifactId : String) (receivedMessage : Option Message)
      (events : List (TaskStep Nat String)),
      StepSystem.Throughout step TerminalLast
        (start eventQueue logsArtifactId receivedMessage) events := by
  intro once
  have through := once 0 "logs-1" (some ⟨[]⟩) cancelledEarly
  obtain ⟨final, ran, two⟩ : ∃ final ∈ StepSystem.run step
      (start 0 "logs-1" (some ⟨[]⟩)) cancelledEarly,
      final.emitted.countP (fun event => event.2.isTerminal) = 2 := by
    decide
  have atMost := (StepSystem.holds_finally through ran).countP_le
  omega

/-- The same cancel call after the registration. -/
theorem terminalLast_cancelledLater :
    StepSystem.Throughout step TerminalLast (start 0 "logs-1" (some ⟨[]⟩))
      ([.advanced, .advanced, .cancelCalled 1] ++ runCompletes) :=
  (terminalLast_iff 0 "logs-1" (some ⟨[]⟩) _).1 (by decide)

end TaskExecution

end QuAIA.Common
