import QuAIA.Common.AgentLogCapture
import QuAIA.Library.BoundedDeque

/-!
Contract: what the drains of a log handler return over a sequence of calls.

Owns: `emit` with the records that it does not store, sequences of `emit` and `drain`, the lines
between the drains of a sequence, and the connection of the handler with these lines.

Does not own: the text of a line, and the tasks that emit.
-/

set_option autoImplicit false

namespace QuAIA.Common.AgentLogCapture

open QuAIA.Library

variable {Entry : Type}

/-! ## The code -/

/-- A call of a handler. A record is from the task that is bound to the handler or not, and its
formatting gives a line or raises an exception. -/
inductive Call (Entry : Type) where
  | emit (bound : Bool) (formatted : Option Entry)
  | drain

/-- `emit`, with the records that are dropped. -/
def emitRecord (handler : AgentLogCapture Entry) (bound : Bool) (formatted : Option Entry) :
    AgentLogCapture Entry :=
  if bound then
    match formatted with
    | some line => handler.emit line
    | none => handler
  else handler

/-- What the drains return, one after the other. -/
def drains (handler : AgentLogCapture Entry) : List (Call Entry) → List (List Entry)
  | [] => []
  | .emit bound formatted :: calls => (handler.emitRecord bound formatted).drains calls
  | .drain :: calls => handler.drain.1 :: handler.drain.2.drains calls

/-! ## The lines -/

/-- The line that a call emits. -/
def Call.line : Call Entry → Option Entry
  | .emit true formatted => formatted
  | .emit false _ => none
  | .drain => none

def emitted (calls : List (Call Entry)) : List Entry := calls.filterMap Call.line

/-- The lines that are emitted before each drain and after the one before it, where those in
`since` were emitted before the calls. -/
def betweenDrains (since : List Entry) : List (Call Entry) → List (List Entry)
  | [] => []
  | .drain :: calls => since :: betweenDrains [] calls
  | .emit bound formatted :: calls =>
      betweenDrains (since ++ (Call.emit bound formatted).line.toList) calls

/-- The lines that are emitted after the last drain. -/
def afterDrains (since : List Entry) : List (Call Entry) → List Entry
  | [] => since
  | .drain :: calls => afterDrains [] calls
  | .emit bound formatted :: calls =>
      afterDrains (since ++ (Call.emit bound formatted).line.toList) calls

/-- At most `count` lines from the end. -/
def newest (count : Nat) (lines : List Entry) : List Entry :=
  lines.drop (lines.length - min lines.length count)

theorem newest_eq_rtake (count : Nat) (lines : List Entry) :
    newest count lines = lines.rtake count := by
  have dropped : lines.length - min lines.length count = lines.length - count := by omega
  rw [newest, List.rtake, dropped]

theorem newest_of_length_le {count : Nat} {lines : List Entry} (within : lines.length ≤ count) :
    newest count lines = lines := by
  rw [newest_eq_rtake, BoundedDeque.rtake_of_length_le within]

theorem flatten_newest_sublist (count : Nat) (runs : List (List Entry)) :
    (runs.map (newest count)).flatten.Sublist runs.flatten := by
  induction runs with
  | nil => exact List.Sublist.refl []
  | cons lines runs inductionHypothesis =>
      have first : (newest count lines).Sublist lines := List.drop_sublist ..
      rw [List.map_cons, List.flatten_cons, List.flatten_cons]
      exact first.append inductionHypothesis

/-- The lines between the drains, with those after the last, are the lines emitted. -/
theorem flatten_betweenDrains (since : List Entry) (calls : List (Call Entry)) :
    (betweenDrains since calls).flatten ++ afterDrains since calls = since ++ emitted calls := by
  fun_induction betweenDrains since calls with
  | case1 since => simp [afterDrains, emitted]
  | case2 since calls inductionHypothesis =>
      rw [List.flatten_cons, afterDrains, List.append_assoc, inductionHypothesis]
      rfl
  | case3 since bound formatted calls inductionHypothesis =>
      rw [afterDrains, inductionHypothesis, List.append_assoc]
      congr 1
      cases line : (Call.emit bound formatted).line <;> simp [emitted, line]

/-! ## The handler -/

/-- The handler has been drained after the first lines, and the others were emitted since. -/
structure Follows (handler : AgentLogCapture Entry) (earlier since : List Entry) : Prop where
  buffer : handler.buffer = (earlier ++ since).rtake handler.maxRecords
  total : handler.emittedTotal = (earlier ++ since).length
  cursor : handler.drainCursor = earlier.length

variable {handler : AgentLogCapture Entry} {earlier since : List Entry}

theorem follows_create (maxRecords : Nat) (positive : 1 ≤ maxRecords) :
    (create maxRecords positive : AgentLogCapture Entry).Follows [] [] :=
  ⟨(List.rtake_nil _).symm, rfl, rfl⟩

theorem Follows.emit (follows : handler.Follows earlier since) (line : Entry) :
    (handler.emit line).Follows earlier (since ++ [line]) := by
  constructor
  · have appended := BoundedDeque.append_rtake handler.positive (earlier ++ since) line
    rw [← follows.buffer, List.append_assoc] at appended
    exact appended
  · rw [emittedTotal_emit, follows.total]
    simp only [List.length_append, List.length_singleton]
    omega
  · exact follows.cursor

theorem Follows.emitRecord (follows : handler.Follows earlier since) (bound : Bool)
    (formatted : Option Entry) :
    (handler.emitRecord bound formatted).Follows earlier
      (since ++ (Call.emit bound formatted).line.toList) := by
  match bound, formatted with
  | true, some line => exact follows.emit line
  | true, none => exact (List.append_nil since).symm ▸ follows
  | false, _ => exact (List.append_nil since).symm ▸ follows

/-- What is pending are the lines since the last drain, as far as the buffer reaches. -/
theorem Follows.pending (follows : handler.Follows earlier since) :
    handler.pending = newest handler.maxRecords since := by
  have news : handler.newCount = since.length := by
    rw [newCount, follows.total, follows.cursor, List.length_append, Nat.add_sub_cancel_left]
  have isRun : handler.pending =
      handler.buffer.rtake (min handler.newCount handler.buffer.length) := rfl
  have reach : min handler.maxRecords
        (min since.length (min (earlier ++ since).length handler.maxRecords)) =
      min since.length handler.maxRecords := by
    rw [List.length_append]
    omega
  rw [isRun, news, follows.buffer, BoundedDeque.length_rtake, BoundedDeque.rtake_rtake, reach,
    BoundedDeque.rtake_append _ _ (Nat.min_le_left ..)]
  rfl

theorem Follows.drain (follows : handler.Follows earlier since) :
    handler.drain.2.Follows (earlier ++ since) [] := by
  have whole := List.append_nil (earlier ++ since)
  exact ⟨whole.symm ▸ follows.buffer, whole.symm ▸ follows.total, follows.total⟩

theorem Follows.drains (follows : handler.Follows earlier since) (calls : List (Call Entry)) :
    handler.drains calls = (betweenDrains since calls).map (newest handler.maxRecords) := by
  induction calls generalizing handler earlier since with
  | nil => rfl
  | cons call calls inductionHypothesis =>
      cases call with
      | emit bound formatted =>
          have sameSize : (handler.emitRecord bound formatted).maxRecords = handler.maxRecords := by
            match bound, formatted with
            | true, some _ => rfl
            | true, none => rfl
            | false, _ => rfl
          have rest := inductionHypothesis (follows.emitRecord bound formatted)
          rw [sameSize] at rest
          exact rest
      | drain =>
          have rest := inductionHypothesis follows.drain
          have sameSize : handler.drain.2.maxRecords = handler.maxRecords := rfl
          have returned : handler.drain.1 = newest handler.maxRecords since := follows.pending
          rw [AgentLogCapture.drains, rest, sameSize, returned]
          rfl

/-- **Drains.** A drain returns the newest lines that were emitted since the one before it, as
many as the buffer holds. So no line is returned twice, and if the buffer holds all lines between
any two drains, every line is returned that was emitted before the last one. -/
theorem drains_create (maxRecords : Nat) (positive : 1 ≤ maxRecords) (calls : List (Call Entry)) :
    (create maxRecords positive).drains calls =
        (betweenDrains [] calls).map (newest maxRecords) ∧
      ((create maxRecords positive).drains calls).flatten.Sublist (emitted calls) ∧
      ((∀ lines ∈ betweenDrains [] calls, lines.length ≤ maxRecords) →
        ((create maxRecords positive).drains calls).flatten ++ afterDrains [] calls =
          emitted calls) := by
  have returned := (follows_create maxRecords positive).drains calls
  have parted := flatten_betweenDrains [] calls
  rw [List.nil_append] at parted
  refine ⟨returned, ?_, ?_⟩
  · rw [returned, ← parted]
    exact (flatten_newest_sublist maxRecords _).trans (List.sublist_append_left ..)
  · intro fits
    have same : (betweenDrains [] calls).map (newest maxRecords) = betweenDrains [] calls := by
      rw [List.map_congr_left fun lines member => newest_of_length_le (fits lines member)]
      exact List.map_id' _
    rw [returned]
    show ((betweenDrains [] calls).map (newest maxRecords)).flatten ++ _ = _
    rw [same, parted]

/-- Five lines, a drain, a line of another task, four more lines and a drain. -/
def overflow : List (Call Nat) :=
  [.emit true (some 0), .emit true (some 1), .emit true (some 2), .emit true (some 3),
    .emit true (some 4), .drain, .emit false (some 5), .emit true (some 6), .emit true (some 7),
    .emit true (some 8), .emit true (some 9), .drain]

theorem drains_create_three :
    (create 3 (Nat.le_add_right 1 2)).drains overflow = [[2, 3, 4], [7, 8, 9]] :=
  (drains_create 3 (Nat.le_add_right 1 2) overflow).1.trans (by decide)

end QuAIA.Common.AgentLogCapture
