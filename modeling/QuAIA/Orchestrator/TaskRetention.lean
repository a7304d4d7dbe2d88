import QuAIA.Library.BoundedDeque
import QuAIA.Orchestrator.TaskHistory

/-!
Contract: the records that a `TaskHistory` retains over a sequence of calls.

Owns: the mutators as data with the fields that each of them names, sequences of additions and
mutations, and which records the ring and the index have after such a sequence.

Does not own: reads, which change nothing. A list of log lines is a value: it is not shared
between records.
-/

set_option autoImplicit false

namespace QuAIA.Orchestrator

open QuAIA.Library

variable {Usage : Type}

/-! ## Mutators -/

/-- A field that some mutator changes. -/
inductive TaskRecord.Field where
  | status
  | endTime
  | errorMessage
  | agentLogs
  | currentActivity
  | tokenUsage
  | resultSummary
  | traceJson
deriving DecidableEq, Repr

/-- Two records agree on a field. -/
def TaskRecord.Agree (before after : TaskRecord Usage) : Field → Prop
  | .status => after.status = before.status
  | .endTime => after.endTime = before.endTime
  | .errorMessage => after.errorMessage = before.errorMessage
  | .agentLogs => after.agentLogs = before.agentLogs
  | .currentActivity => after.currentActivity = before.currentActivity
  | .tokenUsage => after.tokenUsage = before.tokenUsage
  | .resultSummary => after.resultSummary = before.resultSummary
  | .traceJson => after.traceJson = before.traceJson

/-- Nothing but the fields is different. -/
structure TaskRecord.ChangesOnly (fields : List TaskRecord.Field)
    (before after : TaskRecord Usage) : Prop where
  taskId : after.taskId = before.taskId
  agentId : after.agentId = before.agentId
  agentName : after.agentName = before.agentName
  description : after.description = before.description
  startTime : after.startTime = before.startTime
  others : ∀ field ∉ fields, before.Agree after field

namespace TaskHistory

/-- The mutators with their arguments. -/
inductive Mutator (Usage : Type) where
  | update (status : TaskStatus) (endTime : Option Int) (errorMessage : Option String)
  | updateLogs (logs : List String)
  | updateUsage (usage : Usage)
  | updateTrace (traceJson : String)
  | updateResultSummary (summary : String)
  | setCurrentActivity (text : String)
  | clearCurrentActivity
  | appendLogBatch (lines : List String)

def apply (history : TaskHistory Usage) (taskId : String) : Mutator Usage → TaskHistory Usage
  | .update status endTime errorMessage => history.update taskId status endTime errorMessage
  | .updateLogs logs => history.updateLogs taskId logs
  | .updateUsage usage => history.updateUsage taskId usage
  | .updateTrace traceJson => history.updateTrace taskId traceJson
  | .updateResultSummary summary => history.updateResultSummary taskId summary
  | .setCurrentActivity text => history.setCurrentActivity taskId text
  | .clearCurrentActivity => history.clearCurrentActivity taskId
  | .appendLogBatch lines => history.appendLogBatch taskId lines

/-- The fields that a call of a mutator names. -/
def Mutator.fields : Mutator Usage → List TaskRecord.Field
  | .update _ endTime errorMessage =>
      .status :: (if endTime.isSome then [.endTime] else []) ++
        if errorMessage.any (· ≠ "") then [.errorMessage] else []
  | .updateLogs _ => [.agentLogs]
  | .updateUsage _ => [.tokenUsage]
  | .updateTrace _ => [.traceJson]
  | .updateResultSummary _ => [.resultSummary]
  | .setCurrentActivity _ => [.currentActivity]
  | .clearCurrentActivity => [.currentActivity]
  | .appendLogBatch _ => [.agentLogs]

/-- A mutator changes the record that the index has, in the fields that it names. -/
theorem exists_apply_eq_mutate (mutator : Mutator Usage) :
    ∃ change : TaskRecord Usage → TaskRecord Usage,
      (∀ record : TaskRecord Usage, record.ChangesOnly mutator.fields (change record)) ∧
        ∀ (history : TaskHistory Usage) (taskId : String),
          history.apply taskId mutator = history.mutate taskId change := by
  cases mutator with
  | update status endTime errorMessage =>
      refine ⟨_, ?_, fun _ _ => rfl⟩
      refine fun record => ⟨rfl, rfl, rfl, rfl, rfl, ?_⟩
      intro field outside
      cases field with
      | status => exact absurd List.mem_cons_self outside
      | endTime =>
          cases endTime with
          | none => rfl
          | some time => exact absurd (by simp [Mutator.fields]) outside
      | errorMessage =>
          cases errorMessage with
          | none => rfl
          | some text =>
              by_cases empty : text = ""
              · exact if_pos empty
              · exact absurd (by simp [Mutator.fields, empty]) outside
      | _ => rfl
  | _ =>
      refine ⟨_, ?_, fun _ _ => rfl⟩
      refine fun record => ⟨rfl, rfl, rfl, rfl, rfl, ?_⟩
      intro field outside
      cases field <;> first | rfl | exact absurd (List.mem_singleton_self _) outside

/-! ## Calls -/

inductive Call (Usage : Type) where
  | add (record : TaskRecord Usage)
  | mutate (taskId : String) (mutator : Mutator Usage)

def call (history : TaskHistory Usage) : Call Usage → TaskHistory Usage
  | .add record => history.add record
  | .mutate taskId mutator => history.apply taskId mutator

def run (history : TaskHistory Usage) (calls : List (Call Usage)) : TaskHistory Usage :=
  calls.foldl call history

def Call.addedId : Call Usage → Option String
  | .add record => some record.taskId
  | .mutate .. => none

theorem maxSize_mutate (history : TaskHistory Usage) (taskId : String)
    (change : TaskRecord Usage → TaskRecord Usage) :
    (history.mutate taskId change).maxSize = history.maxSize := by
  unfold mutate
  cases history.tasksById.get? taskId <;> rfl

theorem maxSize_run (history : TaskHistory Usage) (calls : List (Call Usage)) :
    (history.run calls).maxSize = history.maxSize := by
  induction calls generalizing history with
  | nil => rfl
  | cons first calls inductionHypothesis =>
      refine (inductionHypothesis _).trans ?_
      cases first with
      | add record => rfl
      | mutate taskId mutator =>
          obtain ⟨change, -, isMutate⟩ := exists_apply_eq_mutate mutator
          rw [call, isMutate, maxSize_mutate]

/-- The ids of the records that are added, in their order. -/
def addedIds (calls : List (Call Usage)) : List String := calls.filterMap Call.addedId

/-! ## What is read -/

section Read

variable {history : TaskHistory Usage}

theorem Consistent.exists_record (consistent : history.Consistent) {task : Nat}
    (member : task ∈ history.tasks) : ∃ record, history.records[task]? = some record :=
  ⟨_, List.getElem?_eq_getElem (consistent.allocated task member)⟩

theorem Consistent.length_retained (consistent : history.Consistent) :
    history.retained.length = history.tasks.length := by
  rw [retained, List.filterMap_length_eq_length]
  intro task member
  exact Option.isSome_iff_exists.mpr (consistent.exists_record member)

/-- The index finds the retained records under their ids. -/
theorem Consistent.getById_eq_some_iff (consistent : history.Consistent) (taskId : String)
    (record : TaskRecord Usage) :
    history.getById taskId = some record ↔ record ∈ history.retained ∧ record.taskId = taskId := by
  rw [getById, Option.bind_eq_some_iff, retained, List.mem_filterMap]
  constructor
  · rintro ⟨task, registered, read⟩
    obtain ⟨member, hasId⟩ := (consistent.indexes.indexed taskId task).mp registered
    rw [taskIdOf, read] at hasId
    exact ⟨⟨task, member, read⟩, Option.some.inj hasId⟩
  · rintro ⟨⟨task, member, read⟩, rfl⟩
    have hasId : history.taskIdOf task = some record.taskId := by rw [taskIdOf, read]; rfl
    exact ⟨task, consistent.indexes.get?_of_mem member hasId, read⟩

theorem Consistent.isSome_getById_iff (consistent : history.Consistent) (taskId : String) :
    (history.getById taskId).isSome = true ↔
      taskId ∈ history.retained.map TaskRecord.taskId := by
  rw [Option.isSome_iff_exists, List.mem_map]
  exact exists_congr fun record => consistent.getById_eq_some_iff taskId record

/-- The index holds the objects of the ring. -/
theorem Consistent.mem_tasks_iff (consistent : history.Consistent) (task : Nat) :
    task ∈ history.tasks ↔ ∃ taskId, history.tasksById.get? taskId = some task := by
  constructor
  · intro member
    obtain ⟨record, read⟩ := consistent.exists_record member
    have hasId : history.taskIdOf task = some record.taskId := by rw [taskIdOf, read]; rfl
    exact ⟨record.taskId, consistent.indexes.get?_of_mem member hasId⟩
  · rintro ⟨taskId, registered⟩
    exact ((consistent.indexes.indexed taskId task).mp registered).1

theorem mutate_of_getById_eq_none (consistent : history.Consistent) {taskId : String}
    (absent : history.getById taskId = none) (change : TaskRecord Usage → TaskRecord Usage) :
    history.mutate taskId change = history := by
  have unregistered : history.tasksById.get? taskId = none := by
    cases registered : history.tasksById.get? taskId with
    | none => rfl
    | some task =>
        have member := ((consistent.indexes.indexed taskId task).mp registered).1
        obtain ⟨record, read⟩ := consistent.exists_record member
        rw [getById, registered, Option.bind_some, read] at absent
        cases absent
  rw [mutate, unregistered]

theorem getById_mutate_other (consistent : history.Consistent) {taskId other : String}
    (different : other ≠ taskId) (change : TaskRecord Usage → TaskRecord Usage) :
    (history.mutate taskId change).getById other = history.getById other := by
  rw [getById, getById, tasksById_mutate]
  cases registered : history.tasksById.get? other with
  | none => rfl
  | some task =>
      rw [Option.bind_some, Option.bind_some, mutate]
      cases ownRegistered : history.tasksById.get? taskId with
      | none => rfl
      | some own =>
          have apart : own ≠ task := by
            rintro rfl
            have hasId := ((consistent.indexes.indexed other own).mp registered).2
            have hasOwnId := ((consistent.indexes.indexed taskId own).mp ownRegistered).2
            exact different (Option.some.inj (hasId.symm.trans hasOwnId))
          show (history.records.modify own change)[task]? = _
          simp [apart]

/-- A call of a mutator changes nothing if the id is unknown, and else only the fields that it
names of the record with the id. -/
structure MutatesOnly (history : TaskHistory Usage) (taskId : String) (mutator : Mutator Usage) :
    Prop where
  unknown : history.getById taskId = none → history.apply taskId mutator = history
  known : ∀ record, history.getById taskId = some record →
    ∃ updated, record.ChangesOnly mutator.fields updated ∧
      (history.apply taskId mutator).getById taskId = some updated ∧
      (history.apply taskId mutator).getAll =
        history.getAll.map fun other => if other.taskId = taskId then updated else other
  others : ∀ other, other ≠ taskId →
    (history.apply taskId mutator).getById other = history.getById other

theorem Consistent.mutatesOnly (consistent : history.Consistent) (taskId : String)
    (mutator : Mutator Usage) : history.MutatesOnly taskId mutator := by
  obtain ⟨change, changesOnly, isMutate⟩ := exists_apply_eq_mutate mutator
  constructor
  · intro absent
    rw [isMutate, mutate_of_getById_eq_none consistent absent]
  · intro record found
    refine ⟨change record, changesOnly record, ?_, ?_⟩
    · rw [isMutate, getById_mutate, found]
      rfl
    · rw [isMutate, getAll, getAll, retained_mutate consistent, ← List.map_reverse]
      apply List.map_congr_left
      intro other member
      split
      · rename_i same
        have isRecord := (consistent.getById_eq_some_iff taskId other).mpr
          ⟨List.mem_reverse.mp member, same⟩
        rw [found, Option.some.injEq] at isRecord
        rw [isRecord]
      · rfl
  · intro other different
    rw [isMutate, getById_mutate_other consistent different]

end Read

/-! ## Retention -/

section Retention

variable {history : TaskHistory Usage} {added : List String}

/-- The ring has the records that were added last, and the index has the same. -/
structure Retains (history : TaskHistory Usage) (added : List String) : Prop where
  consistent : history.Consistent
  ids : history.retained.map TaskRecord.taskId = added.rtake history.maxSize

theorem retains_create (maxSize : Nat) (positive : 1 ≤ maxSize) :
    (create maxSize positive : TaskHistory Usage).Retains [] :=
  ⟨consistent_create maxSize positive, (List.rtake_nil maxSize).symm⟩

theorem Retains.add (retains : history.Retains added) {record : TaskRecord Usage}
    (fresh : record.taskId ∉ added) : (history.add record).Retains (added ++ [record.taskId]) := by
  have unretained : ∀ other ∈ history.retained, other.taskId ≠ record.taskId := by
    intro other member same
    have inside : other.taskId ∈ history.retained.map TaskRecord.taskId :=
      List.mem_map_of_mem member
    rw [retains.ids, same] at inside
    exact fresh (List.mem_of_mem_drop inside)
  have appended := BoundedDeque.append_rtake history.positive added record.taskId
  refine ⟨retains.consistent.add unretained, ?_⟩
  rw [retained_add retains.consistent]
  rw [← retains.ids, BoundedDeque.append, List.length_map,
    retains.consistent.length_retained] at appended
  refine Eq.trans ?_ appended
  by_cases full : history.tasks.length = history.maxSize
  · simp [TaskHistory.full, full, List.map_tail]
  · simp [TaskHistory.full, full]

theorem Retains.apply (retains : history.Retains added) (taskId : String)
    (mutator : Mutator Usage) : (history.apply taskId mutator).Retains added := by
  obtain ⟨change, changesOnly, isMutate⟩ := exists_apply_eq_mutate mutator
  have keepsId : ∀ record : TaskRecord Usage, (change record).taskId = record.taskId :=
    fun record => (changesOnly record).taskId
  rw [isMutate]
  refine ⟨retains.consistent.mutate keepsId, ?_⟩
  rw [maxSize_mutate, ← retains.ids, retained_mutate retains.consistent, List.map_map]
  apply List.map_congr_left
  intro record _
  rw [Function.comp_apply]
  split
  · exact keepsId record
  · rfl

theorem Retains.run (retains : history.Retains added) {calls : List (Call Usage)}
    (distinct : (added ++ addedIds calls).Nodup) :
    (history.run calls).Retains (added ++ addedIds calls) := by
  induction calls generalizing history added with
  | nil => exact (List.append_nil added).symm ▸ retains
  | cons first calls inductionHypothesis =>
      cases first with
      | add record =>
          have regrouped : added ++ addedIds (.add record :: calls) =
              (added ++ [record.taskId]) ++ addedIds calls := by
            rw [List.append_assoc]
            rfl
          rw [regrouped] at distinct ⊢
          have fresh : record.taskId ∉ added := by
            have disjoint := List.disjoint_of_nodup_append (List.Nodup.of_append_left distinct)
            exact fun member => disjoint member (List.mem_singleton_self _)
          exact inductionHypothesis (retains.add fresh) distinct
      | mutate taskId mutator => exact inductionHypothesis (retains.apply taskId mutator) distinct

/-- The ring and the index have the records of the ids, which are given oldest first. -/
structure HoldsExactly (history : TaskHistory Usage) (taskIds : List String) : Prop where
  found : ∀ taskId, (history.getById taskId).isSome = true ↔ taskId ∈ taskIds
  sameObjects : ∀ task, task ∈ history.tasks ↔
    ∃ taskId, history.tasksById.get? taskId = some task
  newestFirst : history.getAll.map TaskRecord.taskId = taskIds.reverse
  listed : ∀ record ∈ history.getAll, history.getById record.taskId = some record

/-- **Task history.** After additions of records with distinct ids and any mutations, the history
holds the newest records, and a mutator changes only what it names. -/
theorem run_holdsExactly (maxSize : Nat) (positive : 1 ≤ maxSize) (calls : List (Call Usage))
    (distinct : (addedIds calls).Nodup) :
    ((create maxSize positive).run calls).HoldsExactly ((addedIds calls).rtake maxSize) ∧
      ∀ taskId mutator, ((create maxSize positive).run calls).MutatesOnly taskId mutator := by
  have retains : ((create maxSize positive).run calls).Retains (addedIds calls) :=
    (retains_create maxSize positive).run distinct
  have consistent := retains.consistent
  have ids := retains.ids
  rw [maxSize_run] at ids
  refine ⟨⟨?_, consistent.mem_tasks_iff, ?_, ?_⟩, consistent.mutatesOnly⟩
  · intro taskId
    rw [consistent.isSome_getById_iff, ids]
    rfl
  · rw [getAll, List.map_reverse, ids]
    rfl
  · intro record member
    exact (consistent.getById_eq_some_iff record.taskId record).mpr
      ⟨List.mem_reverse.mp member, rfl⟩

end Retention

def pendingRecord (taskId : String) : TaskRecord Unit :=
  ⟨taskId, "agent", "Agent", "", .pending, 0, none, none, none, none, none, none, none⟩

/-- Three tasks; the first one is evicted, and what comes for it then is lost. -/
def threeTasks : List (Call Unit) :=
  [.add (pendingRecord "first"), .add (pendingRecord "second"),
    .mutate "first" (.setCurrentActivity "reading"), .add (pendingRecord "third"),
    .mutate "first" (.appendLogBatch ["late"]), .mutate "third" .clearCurrentActivity]

theorem run_holdsExactly_threeTasks :
    ((create 2 (Nat.le_add_right 1 1)).run threeTasks).HoldsExactly ["second", "third"] ∧
      ∀ taskId mutator,
        ((create 2 (Nat.le_add_right 1 1)).run threeTasks).MutatesOnly taskId mutator := by
  have distinct : (addedIds threeTasks).Nodup := by decide
  exact run_holdsExactly 2 (Nat.le_add_right 1 1) threeTasks distinct

end TaskHistory

end QuAIA.Orchestrator
