import QuAIA.Common.TaskEvents

/-!
Contract: the whole sequence of events of one call of `execute` whose enqueueing neither
fails nor suspends in a flush loop.

Owns: the flags of the log chunks, the last chunk and what it says about the captured
entries, and the sequence from the task to the terminal status.

Does not own: what becomes of the single log entries.
-/

set_option autoImplicit false

namespace QuAIA.Common

open QuAIA.Library

namespace TaskExecution

variable {Usage Trace : Type}

/-! ## The log stream -/

def HasLogs (events : List (TaskEvent Usage Trace)) : Prop :=
  ∃ event ∈ events, event.isLogs = true

/-- Every log chunk has the artifact id of the call, and is appended exactly if a log
chunk came before. -/
def LogsJoined (logsArtifactId : String) (events : List (TaskEvent Usage Trace)) : Prop :=
  ∀ before artifactId batch append lastChunk after,
    events = before ++ .logs artifactId batch append lastChunk :: after →
    artifactId = logsArtifactId ∧ (append = true ↔ HasLogs before)

def HasLastChunk (events : List (TaskEvent Usage Trace)) : Prop :=
  ∃ event ∈ events, event.isLastChunk = true

/-- A loop's call of the updater returns at once, successfully; log records apart. -/
def Prompt (state : TaskExecution Usage Trace) (event : TaskStep Usage Trace) : Prop :=
  (∀ call ∈ state.activityLoop.due, event = .activityCall call ∨ event.isLogged = true) ∧
    ∀ call ∈ state.logsLoop.due, event = .logsCall call ∨ event.isLogged = true

/-- The log stream is closed. -/
def closed : TaskPhase Usage Trace → Bool
  | .emitting _ _ => true
  | _ => false

/-- What a log entry captured before the final drain leaves behind, by the phase. -/
def Traced (captured pending : List LogEntry) (logsLoop : FlushLoop LogBatch)
    (events : List (TaskEvent Usage Trace)) : TaskPhase Usage Trace → Prop
  | .sendingLastChunk _ _ => captured ≠ []
  | .emitting _ _ => captured ≠ [] ↔ HasLastChunk events
  | _ => captured ≠ [] ↔ pending ≠ [] ∨ HasLogs events ∨
      ∃ batch, logsLoop = .sending batch false

theorem hasLogs_concat (events : List (TaskEvent Usage Trace))
    (event : TaskEvent Usage Trace) :
    HasLogs (events ++ [event]) ↔ HasLogs events ∨ event.isLogs = true := by
  simp [HasLogs, or_and_right, exists_or]

theorem hasLastChunk_concat (events : List (TaskEvent Usage Trace))
    (event : TaskEvent Usage Trace) :
    HasLastChunk (events ++ [event]) ↔ HasLastChunk events ∨ event.isLastChunk = true := by
  simp [HasLastChunk, or_and_right, exists_or]

theorem hasLogs_of_hasLastChunk {events : List (TaskEvent Usage Trace)}
    (last : HasLastChunk events) : HasLogs events := by
  obtain ⟨event, member, isLast⟩ := last
  refine ⟨event, member, ?_⟩
  cases event with
  | logs => rfl
  | _ => cases isLast

theorem LogsJoined.concat {logsArtifactId : String} {events : List (TaskEvent Usage Trace)}
    (joined : LogsJoined logsArtifactId events) {event : TaskEvent Usage Trace}
    (joins : ∀ artifactId batch append lastChunk,
      event = .logs artifactId batch append lastChunk →
      artifactId = logsArtifactId ∧ (append = true ↔ HasLogs events)) :
    LogsJoined logsArtifactId (events ++ [event]) := by
  intro before artifactId batch append lastChunk after split
  rcases List.eq_nil_or_concat after with rfl | ⟨others, last, rfl⟩
  · obtain ⟨rfl, same⟩ := List.append_inj' split rfl
    exact joins artifactId batch append lastChunk (List.cons.inj same).1
  · rw [List.concat_eq_append, ← List.cons_append, ← List.append_assoc] at split
    obtain ⟨earlier, -⟩ := List.append_inj' split rfl
    exact joined before artifactId batch append lastChunk others earlier

/-- The state of the log stream agrees with what the queue has received. -/
structure Flagged (state : TaskExecution Usage Trace)
    (events : List (TaskEvent Usage Trace)) : Prop where
  owned : state.LoopsOwned
  joined : LogsJoined state.logsArtifactId events
  sent : closed state.phase = false → (∀ batch, state.logsLoop ≠ .sending batch true) →
    (state.sentAnyLogs = true ↔ HasLogs events)
  inFlight : ∀ batch, state.logsLoop = .sending batch true → HasLogs events
  traced : Traced state.captured state.logHandler.pending state.logsLoop events state.phase

/-- An event that is no log chunk. -/
theorem Flagged.quiet {state : TaskExecution Usage Trace}
    {events : List (TaskEvent Usage Trace)} (flagged : state.Flagged events)
    {event : TaskEvent Usage Trace} (isQuiet : event.isLogs = false) :
    state.Flagged (events ++ [event]) := by
  have logs : HasLogs (events ++ [event]) ↔ HasLogs events := by
    simp [hasLogs_concat, isQuiet]
  have noLast : event.isLastChunk = false := by
    cases event with
    | logs => cases isQuiet
    | _ => rfl
  have last : HasLastChunk (events ++ [event]) ↔ HasLastChunk events := by
    simp [hasLastChunk_concat, noLast]
  constructor
  · exact flagged.owned
  · apply flagged.joined.concat
    rintro artifactId batch append lastChunk rfl
    cases isQuiet
  · rw [logs]
    exact flagged.sent
  · rw [logs]
    exact flagged.inFlight
  · have traced := flagged.traced
    unfold Traced at traced ⊢
    rw [logs, last]
    exact traced

theorem received_put (state : TaskExecution Usage Trace) (event : TaskEvent Usage Trace) :
    (state.put event).received = state.received ++ [event] :=
  receivedBy_own state.eventQueue state.emitted event

theorem Flagged.put_quiet {state : TaskExecution Usage Trace}
    (flagged : state.Flagged state.received) {event : TaskEvent Usage Trace}
    (isQuiet : event.isLogs = false) : state.Flagged (state.put event).received := by
  rw [received_put]
  exact flagged.quiet isQuiet

/-- A log entry, before the final drain or after it. -/
theorem Traced.emit {captured : List LogEntry} {logHandler : AgentLogCapture LogEntry}
    {logsLoop : FlushLoop LogBatch} {events : List (TaskEvent Usage Trace)}
    {phase : TaskPhase Usage Trace}
    (traced : Traced captured logHandler.pending logsLoop events phase) (entry : LogEntry) :
    Traced (if phase.beforeFinalDrain then captured ++ [entry] else captured)
      (logHandler.emit entry).pending logsLoop events phase := by
  have drains := logHandler.pending_emit_ne_nil entry
  have some_ : captured ++ [entry] ≠ [] := by simp
  cases phase with
  | sendingLastChunk => exact traced
  | emitting => exact traced
  | _ => exact iff_of_true some_ (Or.inl drains)

/-! ## Steps -/

/-- Before the final drain, with the log loop at rest. -/
theorem Flagged.traced_waiting {state : TaskExecution Usage Trace}
    {events : List (TaskEvent Usage Trace)} (flagged : state.Flagged events)
    (isBefore : state.phase.beforeFinalDrain = true)
    (rests : ∀ batch, state.logsLoop ≠ .sending batch false) :
    state.captured ≠ [] ↔ state.logHandler.pending ≠ [] ∨ HasLogs events := by
  have traced := flagged.traced
  have noBatch : ¬∃ batch, state.logsLoop = .sending batch false := by
    rintro ⟨batch, sends⟩
    exact rests batch sends
  cases phase : state.phase with
  | sendingLastChunk => rw [phase] at isBefore; cases isBefore
  | emitting => rw [phase] at isBefore; cases isBefore
  | _ =>
      rw [phase] at traced
      simpa only [Traced, noBatch, or_false] using traced

theorem closed_of_before {phase : TaskPhase Usage Trace}
    (isBefore : phase.beforeFinalDrain = true) : closed phase = false := by
  cases phase with
  | emitting => cases isBefore
  | _ => rfl

/-- Then the flag and the captured entries tell whether log chunks were sent. -/
theorem Flagged.atRest {state : TaskExecution Usage Trace}
    {events : List (TaskEvent Usage Trace)} (flagged : state.Flagged events)
    (isBefore : state.phase.beforeFinalDrain = true)
    (rests : ∀ batch enqueued, state.logsLoop ≠ .sending batch enqueued) :
    (state.sentAnyLogs = true ↔ HasLogs events) ∧
      (state.captured ≠ [] ↔ state.logHandler.pending ≠ [] ∨ HasLogs events) := by
  have sent := flagged.sent (closed_of_before isBefore) fun batch => rests batch true
  have kept := flagged.traced_waiting isBefore fun batch => rests batch false
  exact ⟨sent, kept⟩

theorem closed_of_ownsLoops {phase : TaskPhase Usage Trace}
    (owns : phase.ownsLoops = true) : closed phase = false := by
  cases phase with
  | emitting => cases owns
  | _ => rfl

theorem traced_of_before {captured pending : List LogEntry} {logsLoop : FlushLoop LogBatch}
    {events : List (TaskEvent Usage Trace)} {phase : TaskPhase Usage Trace}
    (isBefore : phase.beforeFinalDrain = true)
    (kept : captured ≠ [] ↔ pending ≠ [] ∨ HasLogs events ∨
      ∃ batch, logsLoop = .sending batch false) :
    Traced captured pending logsLoop events phase := by
  cases phase with
  | sendingLastChunk => cases isBefore
  | emitting => cases isBefore
  | _ => exact kept

/-- The call of the log loop takes effect. -/
theorem Flagged.enqueue {state : TaskExecution Usage Trace}
    {events : List (TaskEvent Usage Trace)} (flagged : state.Flagged events)
    {batch : LogBatch} (sends : state.logsLoop = .sending batch false) :
    { state with logsLoop := .sending batch true }.Flagged
      (events ++ [TaskEvent.logs state.logsArtifactId batch.1 state.sentAnyLogs false]) := by
  have owns := flagged.owned.of_logs (by rw [sends]; nofun)
  have sent := flagged.sent (closed_of_ownsLoops owns) (by rw [sends]; nofun)
  have has : HasLogs
      (events ++ [.logs state.logsArtifactId batch.1 state.sentAnyLogs false]) := by
    rw [hasLogs_concat]
    exact Or.inr rfl
  have captured : state.captured ≠ [] := by
    have traced := flagged.traced
    cases phase : state.phase with
    | awaitingRun =>
        rw [phase] at traced
        exact traced.mpr (Or.inr (Or.inr ⟨batch, sends⟩))
    | gathering =>
        rw [phase] at traced
        exact traced.mpr (Or.inr (Or.inr ⟨batch, sends⟩))
    | _ => rw [phase] at owns; cases owns
  constructor
  · intro idle
    rw [owns] at idle
    cases idle
  · apply flagged.joined.concat
    intro artifactId entries append lastChunk same
    cases same
    exact ⟨rfl, sent⟩
  · intro _ rests
    exact absurd rfl (rests batch)
  · intro _ _
    exact has
  · exact traced_of_before (before_of_ownsLoops owns)
      (iff_of_true captured (Or.inr (Or.inl has)))

/-- The call of the log loop returns. -/
theorem Flagged.return {state : TaskExecution Usage Trace}
    {events : List (TaskEvent Usage Trace)} (flagged : state.Flagged events)
    {batch : LogBatch} (sends : state.logsLoop = .sending batch true) :
    { state with logsLoop := .waiting, sentAnyLogs := true }.Flagged events := by
  have owns := flagged.owned.of_logs (by rw [sends]; nofun)
  have has := flagged.inFlight batch sends
  have kept := flagged.traced_waiting (before_of_ownsLoops owns) (by rw [sends]; nofun)
  refine ⟨?_, flagged.joined, fun _ _ => iff_of_true rfl has, nofun, ?_⟩
  · intro idle
    rw [owns] at idle
    cases idle
  · apply traced_of_before (before_of_ownsLoops owns)
    simp only [reduceCtorEq, exists_false, or_false]
    exact kept

/-- Cancelled at its `wait`, the log loop is over. -/
theorem Flagged.end {state : TaskExecution Usage Trace}
    {events : List (TaskEvent Usage Trace)} (flagged : state.Flagged events)
    (waits : state.logsLoop = .waiting)
    (owned : { state with logsLoop := .ended }.LoopsOwned) :
    { state with logsLoop := .ended }.Flagged events := by
  have owns := flagged.owned.of_logs (by rw [waits]; nofun)
  obtain ⟨sent, kept⟩ := flagged.atRest (before_of_ownsLoops owns) (by rw [waits]; nofun)
  refine ⟨owned, flagged.joined, fun _ _ => sent, nofun, ?_⟩
  apply traced_of_before (before_of_ownsLoops owns)
  simp only [reduceCtorEq, exists_false, or_false]
  exact kept

/-- The last chunk of the stream is put. -/
theorem Flagged.lastChunk {state : TaskExecution Usage Trace}
    {events : List (TaskEvent Usage Trace)} (flagged : state.Flagged events)
    {final : EndedRun Usage Trace} {remaining : List LogEntry}
    (phase : state.phase = .sendingLastChunk final remaining) :
    { state with phase := .emitting final final.emissions }.Flagged
      (events ++ [TaskEvent.logs state.logsArtifactId remaining state.sentAnyLogs true]) := by
  have ended := flagged.owned (by rw [phase]; rfl)
  have sent := flagged.sent (by rw [phase]; rfl) (by rw [ended.2]; nofun)
  have captured := flagged.traced
  rw [phase] at captured
  have last : HasLastChunk
      (events ++ [.logs state.logsArtifactId remaining state.sentAnyLogs true]) := by
    rw [hasLastChunk_concat]
    exact Or.inr rfl
  refine ⟨fun _ => ended, ?_, nofun, ?_, iff_of_true captured last⟩
  · apply flagged.joined.concat
    intro artifactId batch append lastChunk same
    cases same
    exact ⟨rfl, sent⟩
  · intro batch sends
    have isEnded : FlushLoop.ended = .sending batch true := ended.2.symm.trans sends
    cases isEnded

/-- A prompt call of the log loop is the one that is due. -/
theorem Prompt.logsCall {state : TaskExecution Usage Trace} {call due : CallStep}
    (prompt : state.Prompt (.logsCall call)) (isDue : due ∈ state.logsLoop.due) :
    call = due := by
  rcases prompt.2 due isDue with same | other
  · exact TaskStep.logsCall.inj same
  · cases other

/-- A prompt call of the log loop, with the event it puts. -/
theorem Flagged.logsCall {state next : TaskExecution Usage Trace}
    (flagged : state.Flagged state.received) {call : CallStep}
    (prompt : state.Prompt (.logsCall call)) (stepped : state.Stepped (.logsCall call) next) :
    next.Flagged next.received := by
  have owned := stepped.loopsOwned flagged.owned
  cases stepped
  rename_i moved isMoved
  rw [putAny_eq] at owned
  cases loop : state.logsLoop with
  | ended =>
      rw [loop] at isMoved
      cases isMoved
  | waiting =>
      have isCancelled : call = .cancelled ∧ moved = .ended := by
        rw [loop] at isMoved
        cases call with
        | cancelled => exact ⟨rfl, FlushLoop.ended_of_cancelled isMoved⟩
        | _ => cases isMoved
      obtain ⟨rfl, rfl⟩ := isCancelled
      have ended := flagged.end loop owned
      exact ⟨owned, ended.joined, ended.sent, ended.inFlight, ended.traced⟩
  | sending batch enqueued =>
      cases enqueued with
      | false =>
          have isEnqueued : call = .enqueued := prompt.logsCall (by rw [loop]; rfl)
          subst isEnqueued
          rw [loop] at isMoved
          cases isMoved
          have grown := state.received_put
            (.logs state.logsArtifactId batch.1 state.sentAnyLogs false)
          have enqueued := flagged.enqueue loop
          rw [← grown] at enqueued
          exact ⟨owned, enqueued.joined, enqueued.sent, enqueued.inFlight, enqueued.traced⟩
      | true =>
          have isReturned : call = .returned := prompt.logsCall (by rw [loop]; rfl)
          subst isReturned
          rw [loop] at isMoved
          cases isMoved
          have returned := flagged.return loop
          exact ⟨owned, returned.joined, returned.sent, returned.inFlight, returned.traced⟩

/-- **Step lemma.** A prompt step keeps the log stream in agreement with the queue. -/
theorem flagged_step (state : TaskExecution Usage Trace) (event : TaskStep Usage Trace)
    (next : TaskExecution Usage Trace) (flagged : state.Flagged state.received)
    (prompt : state.Prompt event) (step : state.step event = some next) :
    next.Flagged next.received := by
  have stepped := stepped_of_step step
  have owned := stepped.loopsOwned flagged.owned
  have traced := flagged.traced
  cases stepped with
  | logged =>
      exact ⟨owned, flagged.joined, flagged.sent, flagged.inFlight, traced.emit _⟩
  | taskEnqueued phase =>
      have quiet : state.Flagged (state.put .task).received := flagged.put_quiet rfl
      have kept := quiet.traced
      rw [phase] at kept
      refine ⟨owned, quiet.joined, fun _ => ?_, quiet.inFlight, kept⟩
      exact quiet.sent (by rw [phase]; rfl)
  | workStarted phase =>
      have quiet : state.Flagged (state.put (.working none)).received := flagged.put_quiet rfl
      have ended := (flagged.owned (by rw [phase]; rfl)).2
      obtain ⟨sent, kept⟩ := quiet.atRest (by rw [phase]; rfl) (by rw [ended]; nofun)
      refine ⟨owned, quiet.joined, fun _ _ => sent, nofun, ?_⟩
      show _ ↔ _ ∨ _ ∨ _
      simp only [reduceCtorEq, exists_false, or_false]
      exact kept
  | lastChunkSent phase =>
      have last := flagged.lastChunk phase
      rw [← state.received_put] at last
      exact ⟨owned, last.joined, nofun, last.inFlight, last.traced⟩
  | emitted phase =>
      rename_i final emission pending
      have quiet : state.Flagged (state.put (.emission emission)).received := flagged.put_quiet rfl
      have kept := quiet.traced
      rw [phase] at kept
      exact ⟨owned, quiet.joined, nofun, quiet.inFlight, kept⟩
  | runEnded phase =>
      rw [phase] at traced
      refine ⟨owned, flagged.joined, fun _ => ?_, flagged.inFlight, traced⟩
      exact flagged.sent (by rw [phase]; rfl)
  | resumed phase =>
      rw [phase] at traced
      refine ⟨owned, flagged.joined, fun _ => ?_, flagged.inFlight, traced⟩
      exact flagged.sent (by rw [phase]; rfl)
  | gathered phase _ logsEnded closes =>
      obtain ⟨sent, kept⟩ := flagged.atRest (by rw [phase]; rfl) (by rw [logsEnded]; nofun)
      refine ⟨owned, flagged.joined, fun _ _ => sent, flagged.inFlight, ?_⟩
      rw [sent] at closes
      exact kept.mpr closes
  | gatheredSilent phase _ logsEnded nothing silent =>
      obtain ⟨sent, kept⟩ := flagged.atRest (by rw [phase]; rfl) (by rw [logsEnded]; nofun)
      have noLogs : ¬HasLogs state.received := by
        rw [← sent, silent]
        exact Bool.false_ne_true
      refine ⟨owned, flagged.joined, nofun, flagged.inFlight, ?_⟩
      apply iff_of_false
      · rw [kept, nothing]
        rintro (remains | logs)
        · exact remains rfl
        · exact noLogs logs
      · intro last
        exact noLogs (hasLogs_of_hasLastChunk last)
  | reported => exact ⟨owned, flagged.joined, flagged.sent, flagged.inFlight, traced⟩
  | woke waits runs batch drained =>
      have owns := flagged.owned.of_logs (by rw [waits]; nofun)
      obtain ⟨sent, kept⟩ := flagged.atRest (before_of_ownsLoops owns) (by rw [waits]; nofun)
      rw [drained] at kept
      refine ⟨owned, flagged.joined, fun _ _ => sent, nofun, ?_⟩
      exact traced_of_before (before_of_ownsLoops owns)
        (iff_of_true (kept.mpr (Or.inl batch.2)) (Or.inr (Or.inr ⟨batch, rfl⟩)))
  | wokeSilent waits runs nothing =>
      rw [nothing, ← state.logHandler.pending_drain] at traced
      exact ⟨owned, flagged.joined, flagged.sent, flagged.inFlight, traced⟩
  | activityCall =>
      rename_i call moved isMoved
      have quiet : state.Flagged
          (state.putAny ((state.activityLoop.enqueues call).map fun description =>
            .working (some description))).received := by
        cases state.activityLoop.enqueues call with
        | none => exact flagged
        | some description => exact flagged.put_quiet rfl
      rw [putAny_eq] at quiet owned ⊢
      exact ⟨owned, quiet.joined, quiet.sent, quiet.inFlight, quiet.traced⟩
  | logsCall moved => exact flagged.logsCall prompt (.logsCall moved)
  | cancelRequested => exact flagged
  | cancelUnregistered =>
      exact ⟨owned, flagged.joined, flagged.sent, flagged.inFlight, traced⟩
  | cancelEmitted =>
      rename_i queue called
      have quiet : state.Flagged (receivedBy state.eventQueue
          (state.emitted ++ [(queue, .emission .canceled)])) := by
        by_cases own : queue = state.eventQueue
        · rw [own, receivedBy_own]
          exact flagged.quiet rfl
        · rw [receivedBy_other own]
          exact flagged
      exact ⟨owned, quiet.joined, quiet.sent, quiet.inFlight, quiet.traced⟩

theorem flagged_start (eventQueue : Nat) (logsArtifactId : String)
    (receivedMessage : Message) :
    (start eventQueue logsArtifactId (some receivedMessage) :
      TaskExecution Usage Trace).Flagged [] := by
  have none_ : ¬HasLogs ([] : List (TaskEvent Usage Trace)) := by simp [HasLogs]
  refine ⟨loopsOwned_start _ _ _, ?_, ?_, nofun, ?_⟩
  · intro before artifactId batch append lastChunk after split
    simp at split
  · intro _ _
    exact iff_of_false Bool.false_ne_true none_
  · show _ ↔ _ ∨ _ ∨ _
    simp [start, none_]

/-! ## The sequence -/

/-- The fields that no segment changes. -/
theorem Stepped.constants {state next : TaskExecution Usage Trace}
    {event : TaskStep Usage Trace} (stepped : state.Stepped event next) :
    next.receivedMessage = state.receivedMessage ∧
      next.logsArtifactId = state.logsArtifactId := by
  cases stepped with
  | activityCall => rw [putAny_eq]; exact ⟨rfl, rfl⟩
  | logsCall => rw [putAny_eq]; exact ⟨rfl, rfl⟩
  | _ => exact ⟨rfl, rfl⟩

theorem constants_of_run {state final : TaskExecution Usage Trace}
    {events : List (TaskStep Usage Trace)}
    (ran : StepSystem.run step state events = some final) :
    final.receivedMessage = state.receivedMessage ∧
      final.logsArtifactId = state.logsArtifactId := by
  apply StepSystem.invariant_of_step _ ⟨rfl, rfl⟩ ran
  intro before event next same step
  have constants := (stepped_of_step step).constants
  exact ⟨constants.1.trans same.1, constants.2.trans same.2⟩

/-- A log chunk has the given artifact id. -/
def HasLogsId (logsArtifactId : String) : TaskEvent Usage Trace → Prop
  | .logs artifactId _ _ _ => artifactId = logsArtifactId
  | _ => True

theorem Stepped.hasLogsId {state next : TaskExecution Usage Trace}
    {event : TaskStep Usage Trace} (stepped : state.Stepped event next)
    (owned : ∀ event ∈ state.emitted, HasLogsId state.logsArtifactId event.2) :
    ∀ event ∈ next.emitted, HasLogsId next.logsArtifactId event.2 := by
  cases stepped with
  | taskEnqueued => exact forall_mem_concat owned trivial
  | workStarted => exact forall_mem_concat owned trivial
  | lastChunkSent => exact forall_mem_concat owned rfl
  | emitted => exact forall_mem_concat owned trivial
  | activityCall =>
      cases state.activityLoop.enqueues ‹CallStep› with
      | none => exact owned
      | some description => exact forall_mem_concat owned trivial
  | logsCall =>
      cases state.logsLoop.enqueues ‹CallStep› with
      | none => exact owned
      | some batch => exact forall_mem_concat owned rfl
  | cancelEmitted => exact forall_mem_concat owned trivial
  | _ => exact owned

theorem hasLogsId_of_run {eventQueue : Nat} {logsArtifactId : String}
    {receivedMessage : Option Message} {events : List (TaskStep Usage Trace)}
    {final : TaskExecution Usage Trace}
    (ran : StepSystem.run step (start eventQueue logsArtifactId receivedMessage) events =
      some final) : ∀ event ∈ final.received, HasLogsId logsArtifactId event := by
  have all : ∀ event ∈ final.emitted, HasLogsId final.logsArtifactId event.2 := by
    apply StepSystem.invariant_of_step _ nofun ran
    intro before event next owned step
    exact (stepped_of_step step).hasLogsId owned
  rw [(constants_of_run ran).2] at all
  intro event member
  obtain ⟨emitted, inside, rfl⟩ := List.mem_map.mp member
  exact all emitted (List.mem_of_mem_filter inside)

theorem not_hasLastChunk_of_opened {events : List (TaskEvent Usage Trace)}
    (opened : Opened events) : ¬HasLastChunk events := by
  obtain ⟨streamed, rfl, all⟩ := opened
  rintro ⟨event, member, isLast⟩
  rcases List.mem_cons.mp member with rfl | member
  · cases isLast
  rcases List.mem_cons.mp member with rfl | member
  · cases isLast
  have isStreamed := all event member
  cases event with
  | logs artifactId batch append lastChunk =>
      rw [show lastChunk = true from isLast] at isStreamed
      cases isStreamed
  | _ => cases isLast

theorem hasLastChunk_append (first second : List (TaskEvent Usage Trace)) :
    HasLastChunk (first ++ second) ↔ HasLastChunk first ∨ HasLastChunk second := by
  simp [HasLastChunk, or_and_right, exists_or]

/-- Of the whole sequence only the last chunk carries the flag. -/
theorem hasLastChunk_sequence {logsArtifactId : String}
    {opened closing : List (TaskEvent Usage Trace)} (isOpened : Opened opened)
    (closes : Closes logsArtifactId closing) (emissions : List (Emission Usage Trace)) :
    HasLastChunk (opened ++ closing ++ emissions.map .emission) ↔ closing ≠ [] := by
  have noEmission : ¬HasLastChunk (emissions.map TaskEvent.emission) := by
    rintro ⟨event, member, isLast⟩
    obtain ⟨emission, -, rfl⟩ := List.mem_map.mp member
    cases isLast
  rw [hasLastChunk_append, hasLastChunk_append]
  simp only [not_hasLastChunk_of_opened isOpened, noEmission, false_or, or_false]
  rcases closes with rfl | ⟨remaining, append, rfl⟩
  · simp [HasLastChunk]
  · exact iff_of_true ⟨_, List.mem_singleton_self _, rfl⟩ (by simp)

/-- What the queue of a finished call has received. -/
theorem received_of_finished {eventQueue : Nat} {logsArtifactId : String}
    {receivedMessage : Message} {events : List (TaskStep Usage Trace)}
    {final : TaskExecution Usage Trace} {ended : EndedRun Usage Trace}
    (ran : StepSystem.run step (start eventQueue logsArtifactId (some receivedMessage))
      events = some final)
    (apart : StepSystem.Along step CancelsApart
      (start eventQueue logsArtifactId (some receivedMessage)) events)
    (finished : final.phase = .emitting ended []) :
    ∃ opened closing, final.received = opened ++ closing ++ ended.emissions.map .emission ∧
      Opened opened ∧ Closes logsArtifactId closing := by
  have ordered := StepSystem.invariant_along ordered_step
    (ordered_start eventQueue logsArtifactId (some receivedMessage)) apart ran
  have inOrder := ordered.inOrder
  obtain ⟨message, identity⟩ := constants_of_run ran
  rw [finished, message, identity] at inOrder
  obtain ⟨opened, closing, done, split, begins, closes, owed⟩ := inOrder
  rw [List.append_nil] at owed
  exact ⟨opened, closing, owed ▸ split, begins, closes⟩

/-- **The order of the events of an execution.** -/
theorem events_ordered {eventQueue : Nat} {logsArtifactId : String}
    {receivedMessage : Message} {events : List (TaskStep Usage Trace)}
    {final : TaskExecution Usage Trace} {ended : EndedRun Usage Trace}
    (ran : StepSystem.run step (start eventQueue logsArtifactId (some receivedMessage))
      events = some final)
    (prompt : StepSystem.Along step Prompt
      (start eventQueue logsArtifactId (some receivedMessage)) events)
    (apart : StepSystem.Along step CancelsApart
      (start eventQueue logsArtifactId (some receivedMessage)) events)
    (finished : final.phase = .emitting ended []) :
    ∃ streamed closing artifacts terminal,
      final.received = .task :: .working none ::
        (streamed ++ closing ++ artifacts.map .emission ++ [.emission terminal]) ∧
      (∀ event ∈ streamed, event.isStreamed = true) ∧
      (final.captured = [] → closing = []) ∧
      (final.captured ≠ [] →
        ∃ remaining append, closing = [.logs logsArtifactId remaining append true]) ∧
      LogsJoined logsArtifactId final.received ∧
      ended.emissions = artifacts ++ [terminal] ∧
      artifacts.Pairwise (fun earlier later => earlier.rank < later.rank) ∧
      (∀ artifact ∈ artifacts, artifact.isTerminal = false) ∧
      terminal.isTerminal = true := by
  obtain ⟨opened, closing, split, isOpened, closes⟩ := received_of_finished ran apart finished
  obtain ⟨streamed, rfl, all⟩ := id isOpened
  obtain ⟨artifacts, terminal, emissions, ranked, open_, terminates⟩ := emissions_split ended
  have flagged : final.Flagged final.received :=
    StepSystem.invariant_along flagged_step
      (flagged_start eventQueue logsArtifactId receivedMessage) prompt ran
  have joined := flagged.joined
  rw [(constants_of_run ran).2] at joined
  have traced := flagged.traced
  rw [finished] at traced
  have last : final.captured ≠ [] ↔ closing ≠ [] := by
    rw [← hasLastChunk_sequence isOpened closes ended.emissions, ← split]
    exact traced
  refine ⟨streamed, closing, artifacts, terminal, ?_, all, ?_, ?_, joined, emissions, ranked,
    open_, terminates⟩
  · rw [split, emissions]
    simp
  · intro nothing
    by_contra some_
    exact last.mpr some_ nothing
  · intro some_
    exact closes.resolve_left (last.mp some_)

instance (state : TaskExecution Usage Trace) : DecidablePred state.CancelsApart
  | .cancelCalled _ => inferInstanceAs (Decidable (_ ∨ _))
  | .logged _ => instDecidableTrue
  | .advanced => instDecidableTrue
  | .runEnded _ => instDecidableTrue
  | .resumed _ _ => instDecidableTrue
  | .gathered => instDecidableTrue
  | .reported _ => instDecidableTrue
  | .woke => instDecidableTrue
  | .activityCall _ => instDecidableTrue
  | .logsCall _ => instDecidableTrue
  | .cancelEmitted _ => instDecidableTrue

instance [DecidableEq Usage] [DecidableEq Trace] (state : TaskExecution Usage Trace) :
    DecidablePred state.Prompt :=
  fun _ => inferInstanceAs (Decidable (_ ∧ _))

/-- A run that reports an activity and logs a line before its first flush and another one
after it. -/
def flushedOnce : List (TaskStep Nat String) :=
  [.advanced, .advanced, .reported "reading", .activityCall .enqueued, .activityCall .returned,
    .logged "first", .woke, .logsCall .enqueued, .logsCall .returned, .logged "second",
    .runEnded (.returned ⟨[]⟩ 17 "trace"), .resumed (some 17) (some "trace"),
    .activityCall .cancelled, .logsCall .cancelled, .gathered, .advanced, .advanced, .advanced,
    .advanced, .advanced]

theorem events_ordered_flushedOnce :
    ∃ final ∈ StepSystem.run step (start 0 "logs-1" (some ⟨[]⟩)) flushedOnce,
      ∃ streamed closing artifacts terminal,
        final.received = .task :: .working none ::
          (streamed ++ closing ++ artifacts.map .emission ++ [.emission terminal]) ∧
        (∀ event ∈ streamed, event.isStreamed = true) ∧
        (final.captured = [] → closing = []) ∧
        (final.captured ≠ [] →
          ∃ remaining append, closing = [.logs "logs-1" remaining append true]) ∧
        LogsJoined "logs-1" final.received ∧
        (⟨.returned ⟨[]⟩ 17 "trace", some 17, some "trace"⟩ :
          EndedRun Nat String).emissions = artifacts ++ [terminal] ∧
        artifacts.Pairwise (fun earlier later => earlier.rank < later.rank) ∧
        (∀ artifact ∈ artifacts, artifact.isTerminal = false) ∧
        terminal.isTerminal = true := by
  obtain ⟨final, ran, finished⟩ : ∃ final ∈ StepSystem.run step
      (start 0 "logs-1" (some ⟨[]⟩)) flushedOnce,
      final.phase = .emitting ⟨.returned ⟨[]⟩ 17 "trace", some 17, some "trace"⟩ [] := by
    decide
  exact ⟨final, ran, events_ordered ran (by decide) (by decide) finished⟩

end TaskExecution

end QuAIA.Common
