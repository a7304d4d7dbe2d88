import QuAIA.Library.BoundedDeque

/-!
Contract: the log handler of one execution (`AgentLogCaptureHandler`).

Owns: the bounded buffer, the cursor of the last drain, and what a drain returns.

Does not own: formatting, levels, and the routing of records to the handler. The lock
makes every method one step.
-/

set_option autoImplicit false

namespace QuAIA.Common

open QuAIA.Library

/-- The buffer is a deque with a maximal length: it holds the newest entries. -/
structure AgentLogCapture (Entry : Type) where
  maxRecords : Nat
  buffer : List Entry
  drainCursor : Nat
  emittedTotal : Nat
  positive : 1 ≤ maxRecords
  filled : buffer.length = min emittedTotal maxRecords
  drained : drainCursor ≤ emittedTotal

namespace AgentLogCapture

variable {Entry : Type}

def create (maxRecords : Nat) (positive : 1 ≤ maxRecords) : AgentLogCapture Entry :=
  ⟨maxRecords, [], 0, 0, positive, by simp, Nat.le_refl 0⟩

theorem length_append (handler : AgentLogCapture Entry) (entry : Entry) :
    (BoundedDeque.append handler.maxRecords handler.buffer entry).length =
      min (handler.emittedTotal + 1) handler.maxRecords := by
  have filled := handler.filled
  have positive := handler.positive
  rw [BoundedDeque.length_append positive (by omega), filled]
  omega

/-- `emit`. -/
def emit (handler : AgentLogCapture Entry) (entry : Entry) : AgentLogCapture Entry :=
  { handler with
    buffer := BoundedDeque.append handler.maxRecords handler.buffer entry
    emittedTotal := handler.emittedTotal + 1
    filled := handler.length_append entry
    drained := Nat.le_succ_of_le handler.drained }

def newCount (handler : AgentLogCapture Entry) : Nat :=
  handler.emittedTotal - handler.drainCursor

/-- What the next drain returns: the end of the buffer. -/
def pending (handler : AgentLogCapture Entry) : List Entry :=
  handler.buffer.drop
    (handler.buffer.length - min handler.newCount handler.buffer.length)

/-- `drain`. -/
def drain (handler : AgentLogCapture Entry) : List Entry × AgentLogCapture Entry :=
  (handler.pending,
    { handler with
      drainCursor := handler.emittedTotal
      drained := Nat.le_refl _ })

/-- One more entry can be emitted without the loss of one that is not drained. -/
def Room (handler : AgentLogCapture Entry) : Prop :=
  handler.newCount < handler.maxRecords

instance (handler : AgentLogCapture Entry) : Decidable handler.Room :=
  inferInstanceAs (Decidable (_ < _))

@[simp] theorem pending_create (maxRecords : Nat) (positive : 1 ≤ maxRecords) :
    (create maxRecords positive : AgentLogCapture Entry).pending = [] := rfl

@[simp] theorem emittedTotal_emit (handler : AgentLogCapture Entry) (entry : Entry) :
    (handler.emit entry).emittedTotal = handler.emittedTotal + 1 := rfl

@[simp] theorem emittedTotal_drain (handler : AgentLogCapture Entry) :
    handler.drain.2.emittedTotal = handler.emittedTotal := rfl

@[simp] theorem pending_drain (handler : AgentLogCapture Entry) :
    handler.drain.2.pending = [] := by
  have nothingNew : handler.drain.2.newCount = 0 := Nat.sub_self _
  unfold pending
  rw [nothingNew, Nat.zero_min, Nat.sub_zero, List.drop_length]

theorem newCount_emit (handler : AgentLogCapture Entry) (entry : Entry) :
    (handler.emit entry).newCount = handler.newCount + 1 := by
  have drained := handler.drained
  show handler.emittedTotal + 1 - handler.drainCursor =
    handler.emittedTotal - handler.drainCursor + 1
  omega

theorem length_pending (handler : AgentLogCapture Entry) :
    handler.pending.length = min handler.newCount handler.buffer.length := by
  unfold pending
  rw [List.length_drop]
  omega

/-- After an entry was emitted a drain returns something, even if others were lost. -/
theorem pending_emit_ne_nil (handler : AgentLogCapture Entry) (entry : Entry) :
    (handler.emit entry).pending ≠ [] := by
  have counted := handler.newCount_emit entry
  have filled := (handler.emit entry).filled
  have positive : 1 ≤ (handler.emit entry).maxRecords := handler.positive
  have length := (handler.emit entry).length_pending
  rw [emittedTotal_emit] at filled
  intro empty
  rw [empty, List.length_nil] at length
  omega

/-- Without a loss the entry joins those that the next drain returns. -/
theorem pending_emit {handler : AgentLogCapture Entry} (room : handler.Room)
    (entry : Entry) : (handler.emit entry).pending = handler.pending ++ [entry] := by
  have counted := handler.newCount_emit entry
  have filled := handler.filled
  have drained := handler.drained
  have nextLength : (handler.emit entry).buffer.length =
      min (handler.emittedTotal + 1) handler.maxRecords := (handler.emit entry).filled
  have news : handler.newCount = handler.emittedTotal - handler.drainCursor := rfl
  unfold Room at room
  unfold pending
  rw [counted, nextLength]
  show (BoundedDeque.append handler.maxRecords handler.buffer entry).drop _ = _
  rw [BoundedDeque.append]
  split
  · rename_i full
    -- The first item of a full buffer was drained before, so the drop takes it anyway.
    have shifted : min (handler.emittedTotal + 1) handler.maxRecords -
          min (handler.newCount + 1) (min (handler.emittedTotal + 1) handler.maxRecords) + 1 =
        handler.buffer.length - min handler.newCount handler.buffer.length := by
      omega
    rw [← shifted, ← List.drop_tail, List.drop_append_of_le_length]
    rw [List.length_tail]
    omega
  · have same : min (handler.emittedTotal + 1) handler.maxRecords -
          min (handler.newCount + 1) (min (handler.emittedTotal + 1) handler.maxRecords) =
        handler.buffer.length - min handler.newCount handler.buffer.length := by
      omega
    rw [same, List.drop_append_of_le_length]
    omega

end AgentLogCapture

end QuAIA.Common
