import QuAIA.Common.TaskEvents

/-!
Contract: the fate of the log entries that the handler of one execution captures.

Owns: the account of every entry captured before the final drain (in a chunk, in a batch
under way, in the buffer, or lost), and the condition under which each of them is in
exactly one chunk.

Does not own: the flags of the chunks.
-/

set_option autoImplicit false

namespace QuAIA.Common

open QuAIA.Library

/-! ## Where entries are -/

section Entries

variable {Usage Trace : Type}

def TaskEvent.entries : TaskEvent Usage Trace → List LogEntry
  | .logs _ batch _ _ => batch
  | _ => []

/-- Drained, in a call that has not taken effect. -/
def FlushLoop.inFlight : FlushLoop LogBatch → List LogEntry
  | .sending batch false => batch.1
  | _ => []

/-- Not drained, or drained for the last chunk. -/
def TaskPhase.remaining (pending : List LogEntry) : TaskPhase Usage Trace → List LogEntry
  | .sendingLastChunk _ remaining => remaining
  | .emitting _ _ => []
  | _ => pending

/-- The entries of all chunks whose call took effect. -/
def chunkEntries (emitted : List (Nat × TaskEvent Usage Trace)) : List LogEntry :=
  emitted.flatMap fun event => event.2.entries

@[simp] theorem chunkEntries_concat (emitted : List (Nat × TaskEvent Usage Trace))
    (queue : Nat) (event : TaskEvent Usage Trace) :
    chunkEntries (emitted ++ [(queue, event)]) = chunkEntries emitted ++ event.entries := by
  simp [chunkEntries]

theorem remaining_of_before {pending : List LogEntry} {phase : TaskPhase Usage Trace}
    (isBefore : phase.beforeFinalDrain = true) : phase.remaining pending = pending := by
  cases phase with
  | sendingLastChunk => cases isBefore
  | emitting => cases isBefore
  | _ => rfl

theorem remaining_of_after (first second : List LogEntry) {phase : TaskPhase Usage Trace}
    (isAfter : phase.beforeFinalDrain = false) :
    phase.remaining first = phase.remaining second := by
  cases phase with
  | sendingLastChunk => rfl
  | emitting => rfl
  | _ => cases isAfter

/-- The chunks that contain an entry are at most as many as its occurrences. -/
theorem countP_le_count_chunkEntries (emitted : List (Nat × TaskEvent Usage Trace))
    (entry : LogEntry) :
    emitted.countP (fun event => entry ∈ event.2.entries) ≤
        (chunkEntries emitted).count entry ∧
      (0 < (chunkEntries emitted).count entry →
        0 < emitted.countP fun event => entry ∈ event.2.entries) := by
  constructor
  · induction emitted with
    | nil => exact Nat.le_refl 0
    | cons event rest inductionHypothesis =>
        have unfolded : chunkEntries (event :: rest) =
            event.2.entries ++ chunkEntries rest := rfl
        rw [unfolded, List.count_append, List.countP_cons]
        by_cases member : entry ∈ event.2.entries
        · have occurs := List.count_pos_iff.mpr member
          simp only [member, decide_true, if_true]
          omega
        · simp only [member, decide_false, Bool.false_eq_true, if_false]
          omega
  · intro occurs
    obtain ⟨event, member, inside⟩ := List.mem_flatMap.mp (List.count_pos_iff.mp occurs)
    exact List.countP_pos_iff.mpr ⟨event, member, decide_eq_true inside⟩

end Entries

/-! ## The account -/

namespace TaskExecution

variable {Usage Trace : Type}

/-- The chunks that contain an entry. -/
def chunksWith (state : TaskExecution Usage Trace) (entry : LogEntry) : Nat :=
  state.emitted.countP fun event => entry ∈ event.2.entries

/-- Every captured entry is in exactly one place. -/
structure Accounted (state : TaskExecution Usage Trace) : Prop where
  owned : state.LoopsOwned
  numbered : ∀ entry ∈ state.captured, entry.record < state.logHandler.emittedTotal
  distinct : state.captured.Nodup
  account : ∀ entry, state.captured.count entry =
    (chunkEntries state.emitted).count entry + state.lost.count entry +
      state.logsLoop.inFlight.count entry +
      (state.phase.remaining state.logHandler.pending).count entry

/-- The buffer drops no entry that is not drained. -/
def HasRoom (state : TaskExecution Usage Trace) : TaskStep Usage Trace → Prop
  | .logged _ => state.logHandler.Room
  | _ => True

/-- No call of the log loop fails or is cancelled before it takes effect. -/
def KeepsBatch (state : TaskExecution Usage Trace) : TaskStep Usage Trace → Prop
  | .logsCall call => state.logsLoop.drops call = none
  | _ => True

/-- A call that neither takes effect nor is dropped keeps its batch. -/
theorem inFlight_step {loop next : FlushLoop LogBatch} {stopping : Bool} {call : CallStep}
    (moved : loop.step stopping call = some next) (entry : LogEntry) :
    loop.inFlight.count entry =
      (((loop.enqueues call).map Subtype.val).getD []).count entry +
        (((loop.drops call).map Subtype.val).getD []).count entry +
        next.inFlight.count entry := by
  cases loop with
  | ended => cases moved
  | waiting =>
      cases call with
      | cancelled =>
          cases FlushLoop.ended_of_cancelled moved
          rfl
      | _ => cases moved
  | sending batch enqueued =>
      cases enqueued with
      | false =>
          cases call with
          | enqueued =>
              cases moved
              rfl
          | returned => cases moved
          | raised =>
              cases moved
              simp [FlushLoop.inFlight, FlushLoop.enqueues, FlushLoop.drops]
          | cancelled =>
              cases FlushLoop.ended_of_cancelled moved
              simp [FlushLoop.inFlight, FlushLoop.enqueues, FlushLoop.drops]
      | true =>
          cases call with
          | enqueued => cases moved
          | returned =>
              cases moved
              rfl
          | raised =>
              cases moved
              rfl
          | cancelled =>
              cases FlushLoop.ended_of_cancelled moved
              rfl

theorem accounted_start (eventQueue : Nat) (logsArtifactId : String)
    (receivedMessage : Option Message) :
    (start eventQueue logsArtifactId receivedMessage :
      TaskExecution Usage Trace).Accounted := by
  refine ⟨loopsOwned_start _ _ _, nofun, List.nodup_nil, ?_⟩
  intro entry
  cases receivedMessage <;> rfl

/-- A new entry goes to the buffer, and after the final drain it does not count. -/
theorem Accounted.capture {state : TaskExecution Usage Trace} (accounted : state.Accounted)
    (room : state.logHandler.Room) (line : String) : (state.capture line).Accounted := by
  have account := accounted.account
  have grows := AgentLogCapture.pending_emit room ⟨state.logHandler.emittedTotal, line⟩
  have numbered : ∀ entry ∈ state.captured,
      entry.record < state.logHandler.emittedTotal + 1 := by
    intro entry member
    exact Nat.lt_succ_of_lt (accounted.numbered entry member)
  unfold TaskExecution.capture
  cases isBefore : state.phase.beforeFinalDrain with
  | false =>
      simp only [Bool.false_eq_true, if_false]
      refine ⟨accounted.owned, numbered, accounted.distinct, ?_⟩
      intro entry
      have same := remaining_of_after state.logHandler.pending
        (state.logHandler.emit ⟨state.logHandler.emittedTotal, line⟩).pending isBefore
      dsimp only
      rw [← same]
      exact account entry
  | true =>
      simp only [if_true]
      refine ⟨accounted.owned, ?_, ?_, ?_⟩
      · exact forall_mem_concat numbered (Nat.lt_succ_self _)
      · -- The number of the new entry is beyond all others.
        rw [List.nodup_append]
        refine ⟨accounted.distinct, List.nodup_singleton _, ?_⟩
        intro entry member other isNew same
        rw [List.mem_singleton] at isNew
        have small := accounted.numbered entry member
        rw [same, isNew] at small
        exact Nat.lt_irrefl _ small
      · intro entry
        have counted := account entry
        rw [remaining_of_before isBefore] at counted ⊢
        dsimp only
        rw [grows, List.count_append, List.count_append]
        omega

/-- A step that moves no entry: what the chunks, the loop and the phase hold stays. -/
theorem Accounted.keep {state next : TaskExecution Usage Trace} (accounted : state.Accounted)
    (owned : next.LoopsOwned) (captured : next.captured = state.captured)
    (total : next.logHandler.emittedTotal = state.logHandler.emittedTotal)
    (chunks : chunkEntries next.emitted = chunkEntries state.emitted)
    (lost : next.lost = state.lost)
    (inFlight : next.logsLoop.inFlight = state.logsLoop.inFlight)
    (remaining : next.phase.remaining next.logHandler.pending =
      state.phase.remaining state.logHandler.pending) : next.Accounted := by
  refine ⟨owned, ?_, ?_, ?_⟩
  · rw [captured, total]
    exact accounted.numbered
  · rw [captured]
    exact accounted.distinct
  · intro entry
    rw [captured, chunks, lost, inFlight, remaining]
    exact accounted.account entry

theorem chunkEntries_put {state : TaskExecution Usage Trace} {event : TaskEvent Usage Trace}
    (noEntries : event.entries = []) :
    chunkEntries (state.put event).emitted = chunkEntries state.emitted := by
  rw [put, chunkEntries_concat, noEntries, List.append_nil]

/-- **Step lemma.** While the buffer has room every captured entry stays in exactly one
place. -/
theorem accounted_step (state : TaskExecution Usage Trace) (event : TaskStep Usage Trace)
    (next : TaskExecution Usage Trace) (accounted : state.Accounted)
    (room : state.HasRoom event) (step : state.step event = some next) :
    next.Accounted := by
  have stepped := stepped_of_step step
  have owned := stepped.loopsOwned accounted.owned
  have account := accounted.account
  have numbered := accounted.numbered
  have distinct := accounted.distinct
  cases stepped with
  | logged => exact accounted.capture room _
  | taskEnqueued phase =>
      exact accounted.keep owned rfl rfl (chunkEntries_put rfl) rfl rfl (by rw [phase]; rfl)
  | workStarted phase =>
      have ended := (accounted.owned (by rw [phase]; rfl)).2
      exact accounted.keep owned rfl rfl (chunkEntries_put rfl) rfl (by rw [ended]; rfl)
        (by rw [phase]; rfl)
  | lastChunkSent phase =>
      refine ⟨owned, numbered, distinct, ?_⟩
      intro entry
      have counted := account entry
      rw [phase] at counted
      simp only [put, chunkEntries_concat, TaskEvent.entries, List.count_append]
      simp only [TaskPhase.remaining, List.count_nil] at counted ⊢
      omega
  | emitted phase =>
      exact accounted.keep owned rfl rfl (chunkEntries_put rfl) rfl rfl (by rw [phase]; rfl)
  | runEnded phase => exact accounted.keep owned rfl rfl rfl rfl rfl (by rw [phase]; rfl)
  | resumed phase => exact accounted.keep owned rfl rfl rfl rfl rfl (by rw [phase]; rfl)
  | gathered phase => exact accounted.keep owned rfl rfl rfl rfl rfl (by rw [phase]; rfl)
  | gatheredSilent phase _ _ nothing =>
      exact accounted.keep owned rfl rfl rfl rfl rfl (by rw [phase, nothing]; rfl)
  | reported => exact accounted.keep owned rfl rfl rfl rfl rfl rfl
  | woke waits runs batch drained =>
      have owns := accounted.owned.of_logs (by simp [waits])
      have isBefore := before_of_ownsLoops owns
      refine ⟨owned, numbered, distinct, ?_⟩
      intro entry
      have counted := account entry
      rw [waits, remaining_of_before isBefore, drained] at counted
      dsimp only
      rw [remaining_of_before isBefore, AgentLogCapture.pending_drain]
      simp only [FlushLoop.inFlight, List.count_nil] at counted ⊢
      omega
  | wokeSilent waits runs nothing =>
      exact accounted.keep owned rfl rfl rfl rfl rfl
        (by rw [state.logHandler.pending_drain, nothing])
  | activityCall =>
      rename_i call moved isMoved
      cases enqueues : state.activityLoop.enqueues call with
      | none =>
          rw [enqueues] at owned
          exact accounted.keep owned rfl rfl rfl rfl rfl rfl
      | some description =>
          rw [enqueues] at owned
          exact accounted.keep owned rfl rfl (chunkEntries_put rfl) rfl rfl rfl
  | logsCall =>
      rename_i call moved isMoved
      have kept := inFlight_step isMoved
      cases enqueues : state.logsLoop.enqueues call with
      | none =>
          rw [enqueues] at owned
          refine ⟨owned, numbered, distinct, ?_⟩
          intro entry
          have counted := account entry
          have sent := kept entry
          rw [enqueues] at sent
          simp only [Option.map_none, putAny_none, List.count_append, Option.getD_none,
            List.count_nil] at sent ⊢
          omega
      | some batch =>
          rw [enqueues] at owned
          refine ⟨owned, numbered, distinct, ?_⟩
          intro entry
          have counted := account entry
          have sent := kept entry
          rw [enqueues] at sent
          simp only [Option.map_some, putAny_some, put, chunkEntries_concat,
            TaskEvent.entries, List.count_append, Option.getD_some] at sent ⊢
          omega
  | cancelRequested => exact accounted
  | cancelUnregistered => exact accounted.keep owned rfl rfl rfl rfl rfl rfl
  | cancelEmitted =>
      exact accounted.keep owned rfl rfl (by simp [chunkEntries_concat, TaskEvent.entries]) rfl
        rfl rfl

/-! ## Exactly one chunk -/

/-- The lost entries grow exactly when a call of the log loop drops its batch. -/
theorem Stepped.lost {state next : TaskExecution Usage Trace}
    {event : TaskStep Usage Trace} (stepped : state.Stepped event next) :
    state.lost.length ≤ next.lost.length ∧
      (next.lost.length = state.lost.length ↔ state.KeepsBatch event) := by
  have same : next.lost = state.lost → state.KeepsBatch event →
      state.lost.length ≤ next.lost.length ∧
        (next.lost.length = state.lost.length ↔ state.KeepsBatch event) := by
    intro equal keeps
    rw [equal]
    exact ⟨Nat.le_refl _, iff_of_true rfl keeps⟩
  cases stepped with
  | activityCall =>
      apply same _ trivial
      rw [putAny_eq]
  | logsCall =>
      rename_i call moved isMoved
      rcases Option.eq_none_or_eq_some (state.logsLoop.drops call) with drops | ⟨batch, drops⟩
      · apply same _ drops
        simp [drops]
      · have dropped : ¬state.KeepsBatch (.logsCall call) := by
          intro keeps
          have nothing : state.logsLoop.drops call = none := keeps
          rw [drops] at nothing
          cases nothing
        have positive := List.length_pos_iff.mpr batch.2
        simp only [dropped, iff_false, drops, Option.map_some, Option.getD_some,
          List.length_append]
        constructor
        · omega
        · omega
  | _ => exact same rfl trivial

/-- After the last chunk the captured entries are in chunks or lost. -/
theorem Accounted.settled {state : TaskExecution Usage Trace} (accounted : state.Accounted)
    {ended : EndedRun Usage Trace} {pending : List (Emission Usage Trace)}
    (phase : state.phase = .emitting ended pending) (entry : LogEntry) :
    state.captured.count entry =
      (chunkEntries state.emitted).count entry + state.lost.count entry := by
  have counted := accounted.account entry
  have logsEnded := (accounted.owned (by rw [phase]; rfl)).2
  rw [phase, logsEnded] at counted
  exact counted

/-- **Every entry in one chunk.** As long as the buffer drops nothing undrained, every
entry captured before the final drain is in exactly one chunk that took effect exactly if
no call of the log loop fails or is cancelled before it takes effect. -/
theorem captured_delivered_iff {eventQueue : Nat} {logsArtifactId : String}
    {receivedMessage : Option Message} {events : List (TaskStep Usage Trace)}
    {final : TaskExecution Usage Trace} {ended : EndedRun Usage Trace}
    {pending : List (Emission Usage Trace)}
    (ran : StepSystem.run step (start eventQueue logsArtifactId receivedMessage) events =
      some final)
    (room : StepSystem.Along step HasRoom (start eventQueue logsArtifactId receivedMessage)
      events)
    (phase : final.phase = .emitting ended pending) :
    (∀ entry ∈ final.captured, final.chunksWith entry = 1) ↔
      StepSystem.Along step KeepsBatch (start eventQueue logsArtifactId receivedMessage)
        events := by
  have accounted := StepSystem.invariant_along accounted_step
    (accounted_start eventQueue logsArtifactId receivedMessage) room ran
  have measured := StepSystem.measure_eq_iff_along
    (fun _ _ _ step => (stepped_of_step step).lost.1)
    (fun _ _ _ step => (stepped_of_step step).lost.2) ran
  have nothingLost : final.lost.length = (start eventQueue logsArtifactId receivedMessage :
      TaskExecution Usage Trace).lost.length ↔ final.lost = [] := List.length_eq_zero_iff
  rw [← measured, nothingLost]
  have once := List.nodup_iff_count_le_one.mp accounted.distinct
  constructor
  · intro delivered
    apply List.eq_nil_iff_forall_not_mem.mpr
    intro entry lost
    have settled := accounted.settled phase entry
    have occurs := List.count_pos_iff.mpr lost
    have atMost := once entry
    have inCaptured : entry ∈ final.captured := List.count_pos_iff.mp (by omega)
    have inChunk := delivered entry inCaptured
    have bounded := (countP_le_count_chunkEntries final.emitted entry).1
    unfold chunksWith at inChunk
    omega
  · intro noneLost entry inCaptured
    have settled := accounted.settled phase entry
    rw [noneLost, List.count_nil] at settled
    have occurs := List.count_pos_iff.mpr inCaptured
    have atMost := once entry
    obtain ⟨bounded, found⟩ := countP_le_count_chunkEntries final.emitted entry
    have positive := found (by omega)
    unfold chunksWith
    omega

instance (state : TaskExecution Usage Trace) : DecidablePred state.HasRoom
  | .logged _ => inferInstanceAs (Decidable state.logHandler.Room)
  | .advanced => instDecidableTrue
  | .runEnded _ => instDecidableTrue
  | .resumed _ _ => instDecidableTrue
  | .gathered => instDecidableTrue
  | .reported _ => instDecidableTrue
  | .woke => instDecidableTrue
  | .activityCall _ => instDecidableTrue
  | .logsCall _ => instDecidableTrue
  | .cancelCalled _ => instDecidableTrue
  | .cancelEmitted _ => instDecidableTrue

instance (state : TaskExecution Usage Trace) : DecidablePred state.KeepsBatch
  | .logged _ => instDecidableTrue
  | .advanced => instDecidableTrue
  | .runEnded _ => instDecidableTrue
  | .resumed _ _ => instDecidableTrue
  | .gathered => instDecidableTrue
  | .reported _ => instDecidableTrue
  | .woke => instDecidableTrue
  | .activityCall _ => instDecidableTrue
  | .logsCall call => inferInstanceAs (Decidable (state.logsLoop.drops call = none))
  | .cancelCalled _ => instDecidableTrue
  | .cancelEmitted _ => instDecidableTrue

/-! ### One line -/

/-- A line that the log loop drains and then fails to send. -/
def flushFails : List (TaskStep Nat String) :=
  [.advanced, .advanced, .logged "fetching", .woke, .logsCall .raised] ++ runCompletes

/-- The line is in no chunk. -/
theorem captured_line_lost :
    ¬ ∀ (eventQueue : Nat) (logsArtifactId : String) (receivedMessage : Option Message)
      (events : List (TaskStep Nat String)) (final : TaskExecution Nat String)
      (ended : EndedRun Nat String) (pending : List (Emission Nat String)),
      StepSystem.run step (start eventQueue logsArtifactId receivedMessage) events =
          some final →
        StepSystem.Along step HasRoom (start eventQueue logsArtifactId receivedMessage)
          events →
        final.phase = .emitting ended pending →
        ∀ entry ∈ final.captured, final.chunksWith entry = 1 := by
  intro delivered
  obtain ⟨final, ran, phase, captured, inNone⟩ : ∃ final ∈ StepSystem.run step
      (start 0 "logs-1" (some ⟨[]⟩)) flushFails,
      final.phase = .emitting ⟨.returned ⟨[]⟩ 0 "", none, none⟩ [] ∧
        ⟨0, "fetching"⟩ ∈ final.captured ∧ final.chunksWith ⟨0, "fetching"⟩ = 0 := by
    decide
  have inOne := delivered 0 "logs-1" (some ⟨[]⟩) flushFails final _ [] ran (by decide) phase
    ⟨0, "fetching"⟩ captured
  rw [inNone] at inOne
  cases inOne

/-- The same line when the call of the loop succeeds. -/
def flushSucceeds : List (TaskStep Nat String) :=
  [.advanced, .advanced, .logged "fetching", .woke, .logsCall .enqueued,
    .logsCall .returned] ++ runCompletes

theorem captured_delivered_flushSucceeds :
    ∃ final ∈ StepSystem.run step (start 0 "logs-1" (some ⟨[]⟩)) flushSucceeds,
      (∀ entry ∈ final.captured, final.chunksWith entry = 1) ↔
        StepSystem.Along step KeepsBatch (start 0 "logs-1" (some ⟨[]⟩)) flushSucceeds := by
  obtain ⟨final, ran, phase⟩ : ∃ final ∈ StepSystem.run step
      (start 0 "logs-1" (some ⟨[]⟩)) flushSucceeds,
      final.phase = .emitting ⟨.returned ⟨[]⟩ 0 "", none, none⟩ [.completed] := by
    decide
  exact ⟨final, ran, captured_delivered_iff ran (by decide) phase⟩

end TaskExecution

end QuAIA.Common
