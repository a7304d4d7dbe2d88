import QuAIA.Library.RefIndex

/-!
Contract: the ring buffer of task records with its index by task id (`TaskHistory`).

Owns: the records, the ring that evicts the oldest one, every mutator, and the list of
retained records that the two representations amount to.

Does not own: times and durations; a time is a number. A usage dictionary is given by
the usage that it dumps. The lock of the history is never held over a suspension, so
every method is one step.
-/

set_option autoImplicit false

namespace QuAIA.Orchestrator

open QuAIA.Library

/-! ## The code -/

inductive TaskStatus where
  | pending
  | running
  | completed
  | failed
  | cancelled
deriving DecidableEq, Repr

structure TaskRecord (Usage : Type) where
  taskId : String
  agentId : String
  agentName : String
  description : String
  status : TaskStatus
  startTime : Int
  endTime : Option Int
  errorMessage : Option String
  agentLogs : Option (List String)
  currentActivity : Option String
  tokenUsage : Option Usage
  resultSummary : Option String
  traceJson : Option String
deriving DecidableEq, Repr

/-- The ring and the index hold references to record objects. -/
structure TaskHistory (Usage : Type) where
  maxSize : Nat
  positive : 1 ≤ maxSize
  records : List (TaskRecord Usage)
  tasks : List Nat
  tasksById : Dict String Nat

namespace TaskHistory

variable {Usage : Type}

def create (maxSize : Nat) (positive : 1 ≤ maxSize) : TaskHistory Usage :=
  ⟨maxSize, positive, [], [], .empty⟩

def full (history : TaskHistory Usage) : Bool :=
  decide (history.tasks.length = history.maxSize)

def taskIdOf (history : TaskHistory Usage) (task : Nat) : Option String :=
  history.records[task]?.map TaskRecord.taskId

/-- `add`: a deque at its maximal length drops its first item. -/
def add (history : TaskHistory Usage) (record : TaskRecord Usage) : TaskHistory Usage :=
  let task := history.records.length
  let evicted := if history.full then history.tasks.head? else none
  let remaining :=
    match evicted.bind history.taskIdOf with
    | some taskId => history.tasksById.pop taskId
    | none => history.tasksById
  { history with
    records := history.records ++ [record]
    tasks := (if history.full then history.tasks.tail else history.tasks) ++ [task]
    tasksById := remaining.set record.taskId task }

/-- The mutators change one record, if the index has it. -/
def mutate (history : TaskHistory Usage) (taskId : String)
    (change : TaskRecord Usage → TaskRecord Usage) : TaskHistory Usage :=
  match history.tasksById.get? taskId with
  | some task => { history with records := history.records.modify task change }
  | none => history

def update (history : TaskHistory Usage) (taskId : String) (status : TaskStatus)
    (endTime : Option Int) (errorMessage : Option String) : TaskHistory Usage :=
  history.mutate taskId fun record =>
    { record with
      status := status
      endTime := if endTime.isSome then endTime else record.endTime
      errorMessage :=
        match errorMessage with
        | some text => if text = "" then record.errorMessage else some text
        | none => record.errorMessage }

def updateLogs (history : TaskHistory Usage) (taskId : String) (logs : List String) :
    TaskHistory Usage :=
  history.mutate taskId fun record => { record with agentLogs := some logs }

def updateUsage (history : TaskHistory Usage) (taskId : String) (usage : Usage) :
    TaskHistory Usage :=
  history.mutate taskId fun record => { record with tokenUsage := some usage }

def updateTrace (history : TaskHistory Usage) (taskId : String) (traceJson : String) :
    TaskHistory Usage :=
  history.mutate taskId fun record => { record with traceJson := some traceJson }

def updateResultSummary (history : TaskHistory Usage) (taskId : String) (summary : String) :
    TaskHistory Usage :=
  history.mutate taskId fun record => { record with resultSummary := some summary }

def setCurrentActivity (history : TaskHistory Usage) (taskId : String) (text : String) :
    TaskHistory Usage :=
  history.mutate taskId fun record => { record with currentActivity := some text }

def clearCurrentActivity (history : TaskHistory Usage) (taskId : String) :
    TaskHistory Usage :=
  history.mutate taskId fun record => { record with currentActivity := none }

def appendLogBatch (history : TaskHistory Usage) (taskId : String) (lines : List String) :
    TaskHistory Usage :=
  history.mutate taskId fun record =>
    { record with agentLogs := some (record.agentLogs.getD [] ++ lines) }

def getById (history : TaskHistory Usage) (taskId : String) : Option (TaskRecord Usage) :=
  (history.tasksById.get? taskId).bind fun task => history.records[task]?

/-- The records of the ring, oldest first. -/
def retained (history : TaskHistory Usage) : List (TaskRecord Usage) :=
  history.tasks.filterMap fun task => history.records[task]?

/-- `get_all`, newest first. -/
def getAll (history : TaskHistory Usage) : List (TaskRecord Usage) := history.retained.reverse

/-! ## The representation -/

/-- The index maps exactly the ids of the records in the ring to these records. -/
structure Consistent (history : TaskHistory Usage) : Prop where
  allocated : ∀ task ∈ history.tasks, task < history.records.length
  indexes : Indexes history.taskIdOf history.tasks history.tasksById

variable {history : TaskHistory Usage}

theorem consistent_create (maxSize : Nat) (positive : 1 ≤ maxSize) :
    (create maxSize positive : TaskHistory Usage).Consistent := by
  refine ⟨?_, Indexes.empty _⟩
  intro task member
  cases member

/-- Without the first record, if the ring is full. -/
def kept (history : TaskHistory Usage) : List Nat :=
  if history.full then history.tasks.tail else history.tasks

theorem Consistent.evict (consistent : history.Consistent) :
    Indexes history.taskIdOf history.kept
      (unregister history.tasksById
        ((if history.full then history.tasks.head? else none).bind history.taskIdOf)) := by
  unfold kept
  cases full : history.full with
  | false => simpa [unregister] using consistent.indexes
  | true =>
      cases tasks : history.tasks with
      | nil =>
          have indexes := consistent.indexes
          rw [tasks] at indexes
          simpa [unregister] using indexes
      | cons task rest =>
          have indexes := consistent.indexes
          rw [tasks] at indexes
          exact indexes.pop

theorem tasks_add (record : TaskRecord Usage) :
    (history.add record).tasks = history.kept ++ [history.records.length] := rfl

theorem tasksById_add (record : TaskRecord Usage) :
    (history.add record).tasksById =
      (unregister history.tasksById
        ((if history.full then history.tasks.head? else none).bind history.taskIdOf)).set
        record.taskId history.records.length := by
  simp only [add]
  cases (if history.full then history.tasks.head? else none).bind history.taskIdOf <;> rfl

theorem mem_of_mem_kept {task : Nat} (member : task ∈ history.kept) :
    task ∈ history.tasks := by
  unfold kept at member
  split at member
  · exact List.mem_of_mem_tail member
  · exact member

/-- Adding a record whose id no retained record has. -/
theorem Consistent.add (consistent : history.Consistent) {record : TaskRecord Usage}
    (fresh : ∀ other ∈ history.retained, other.taskId ≠ record.taskId) :
    (history.add record).Consistent := by
  have keptAllocated : ∀ task ∈ history.kept, task < history.records.length := by
    intro task member
    exact consistent.allocated task (mem_of_mem_kept member)
  constructor
  · intro task member
    simp only [TaskHistory.add, List.length_append, List.length_singleton]
    rcases List.mem_append.mp member with inside | added
    · have small := keptAllocated task inside
      omega
    · rw [List.mem_singleton] at added
      omega
  · have evicted := consistent.evict
    have grown : Indexes (history.add record).taskIdOf history.kept
        (unregister history.tasksById
          ((if history.full then history.tasks.head? else none).bind history.taskIdOf)) := by
      apply evicted.congr
      intro task member
      simp only [taskIdOf, TaskHistory.add]
      rw [List.getElem?_append_left (keptAllocated task member)]
    have own : (history.add record).taskIdOf history.records.length = some record.taskId := by
      simp [taskIdOf, TaskHistory.add]
    have absent : history.records.length ∉ history.kept := by
      intro member
      exact Nat.lt_irrefl _ (keptAllocated _ member)
    have pushed := grown.push absent (by
      intro taskId isId
      rw [own, Option.some.injEq] at isId
      rw [Option.eq_none_iff_forall_not_mem]
      intro task registered
      obtain ⟨member, hasId⟩ := (evicted.indexed taskId task).mp registered
      unfold taskIdOf at hasId
      rw [Option.map_eq_some_iff] at hasId
      obtain ⟨other, read, sameId⟩ := hasId
      have retained : other ∈ history.retained :=
        List.mem_filterMap.mpr ⟨task, mem_of_mem_kept member, read⟩
      exact fresh other retained (sameId.trans isId.symm))
    rw [own, register] at pushed
    rw [tasks_add, tasksById_add]
    exact pushed

theorem retained_add (consistent : history.Consistent) (record : TaskRecord Usage) :
    (history.add record).retained =
      (if history.full then history.retained.tail else history.retained) ++ [record] := by
  have read : ∀ tasks : List Nat, (∀ task ∈ tasks, task < history.records.length) →
      tasks.filterMap (fun task => (history.records ++ [record])[task]?) =
        tasks.filterMap fun task => history.records[task]? := by
    intro tasks small
    apply List.filterMap_congr
    intro task member
    rw [List.getElem?_append_left (small task member)]
  have tail : history.retained.tail =
      history.tasks.tail.filterMap fun task => history.records[task]? := by
    unfold retained
    cases tasks : history.tasks with
    | nil => rfl
    | cons task rest =>
        have small := consistent.allocated task (by simp [tasks])
        simp [List.getElem?_eq_getElem small]
  have keptSmall : ∀ task ∈ history.kept, task < history.records.length := by
    intro task member
    exact consistent.allocated task (mem_of_mem_kept member)
  have keptRead := read history.kept keptSmall
  calc (history.add record).retained
      = (history.kept ++ [history.records.length]).filterMap
          (fun task => (history.records ++ [record])[task]?) := rfl
    _ = history.kept.filterMap (fun task => history.records[task]?) ++ [record] := by
        rw [List.filterMap_append, keptRead]
        simp
    _ = _ := by
        unfold kept
        split
        · rw [tail]
        · rfl

theorem Consistent.mutate (consistent : history.Consistent) {taskId : String}
    {change : TaskRecord Usage → TaskRecord Usage}
    (keepsId : ∀ record, (change record).taskId = record.taskId) :
    (history.mutate taskId change).Consistent := by
  unfold TaskHistory.mutate
  cases history.tasksById.get? taskId with
  | none => exact consistent
  | some task =>
      constructor
      · intro other member
        rw [List.length_modify]
        exact consistent.allocated other member
      · apply consistent.indexes.congr
        intro other _
        simp only [taskIdOf, List.getElem?_modify]
        cases history.records[other]? with
        | none => rfl
        | some record =>
            by_cases same : task = other
            · simp [same, keepsId]
            · simp [same]

/-- A mutator changes the retained record of its id, and no other. -/
theorem retained_mutate (consistent : history.Consistent) (taskId : String)
    (change : TaskRecord Usage → TaskRecord Usage) :
    (history.mutate taskId change).retained =
      history.retained.map fun record =>
        if record.taskId = taskId then change record else record := by
  have found := consistent.indexes.indexed taskId
  unfold TaskHistory.mutate retained
  rw [List.map_filterMap]
  cases registered : history.tasksById.get? taskId with
  | none =>
      apply List.filterMap_congr
      intro task member
      cases read : history.records[task]? with
      | none => rfl
      | some record =>
          have otherId : record.taskId ≠ taskId := by
            intro same
            have hasId : history.taskIdOf task = some taskId := by
              simp [taskIdOf, read, same]
            have present := (found task).mpr ⟨member, hasId⟩
            rw [registered] at present
            cases present
          simp [otherId]
  | some own =>
      apply List.filterMap_congr
      intro task member
      obtain ⟨ownMember, ownId⟩ := (found own).mp registered
      rw [List.getElem?_modify]
      cases read : history.records[task]? with
      | none => simp
      | some record =>
          by_cases same : own = task
          · subst same
            simp only [taskIdOf, read, Option.map_some, Option.some.injEq] at ownId
            simp [ownId]
          · have otherId : record.taskId ≠ taskId := by
              intro sameId
              have hasId : history.taskIdOf task = some taskId := by
                simp [taskIdOf, read, sameId]
              exact same (consistent.indexes.unique ownMember ownId member hasId)
            simp [same, otherId]

theorem getById_add (history : TaskHistory Usage) (record : TaskRecord Usage) :
    (history.add record).getById record.taskId = some record := by
  unfold getById
  rw [tasksById_add, Dict.get?_set_self]
  simp [add]

/-- A mutator changes what is read under its id. -/
theorem getById_mutate (history : TaskHistory Usage) (taskId : String)
    (change : TaskRecord Usage → TaskRecord Usage) :
    (history.mutate taskId change).getById taskId = (history.getById taskId).map change := by
  unfold getById mutate
  cases found : history.tasksById.get? taskId with
  | none => simp [found]
  | some task => simp [found]

/-! ## The record of one task -/

/-- What the index holds under an id is a record with the property, and no other id holds
the same record. -/
def Holds (history : TaskHistory Usage) (taskId : String) (property : TaskRecord Usage → Prop) :
    Prop :=
  ∀ task, history.tasksById.get? taskId = some task →
    (∃ record, history.records[task]? = some record ∧ property record) ∧
      ∀ other, history.tasksById.get? other = some task → other = taskId

variable {taskId : String} {property : TaskRecord Usage → Prop}

theorem Holds.of_getById (holds : history.Holds taskId property) {record : TaskRecord Usage}
    (found : history.getById taskId = some record) : property record := by
  unfold getById at found
  obtain ⟨task, registered, read⟩ := Option.bind_eq_some_iff.mp found
  obtain ⟨⟨other, otherRead, meets⟩, -⟩ := holds task registered
  rw [read, Option.some.injEq] at otherRead
  exact otherRead ▸ meets

theorem Holds.mono (holds : history.Holds taskId property)
    {weaker : TaskRecord Usage → Prop} (weakens : ∀ record, property record → weaker record) :
    history.Holds taskId weaker := by
  intro task registered
  obtain ⟨⟨record, read, meets⟩, own⟩ := holds task registered
  exact ⟨⟨record, read, weakens record meets⟩, own⟩

/-- What the index holds after an addition is the new record, or was held before. -/
theorem get?_of_get?_add {record : TaskRecord Usage} {other : String} {task : Nat}
    (registered : (history.add record).tasksById.get? other = some task) :
    (other = record.taskId ∧ task = history.records.length) ∨
      (other ≠ record.taskId ∧ history.tasksById.get? other = some task) := by
  rw [tasksById_add, Dict.get?_set] at registered
  split at registered
  · rename_i same
    rw [Option.some.injEq] at registered
    exact Or.inl ⟨same, registered.symm⟩
  · rename_i different
    refine Or.inr ⟨different, ?_⟩
    cases evicted : (if history.full then history.tasks.head? else none).bind history.taskIdOf with
    | none =>
        rw [evicted] at registered
        exact registered
    | some evictedId =>
        rw [evicted] at registered
        simp only [unregister, Dict.get?_pop] at registered
        split at registered
        · cases registered
        · exact registered

/-- A new record is held by its id alone. -/
theorem holds_add (consistent : history.Consistent) (record : TaskRecord Usage) :
    (history.add record).Holds record.taskId fun held => held = record := by
  intro task registered
  have own : task = history.records.length := by
    rcases get?_of_get?_add registered with ⟨-, isNew⟩ | ⟨different, -⟩
    · exact isNew
    · exact absurd rfl different
  refine ⟨⟨record, ?_, rfl⟩, ?_⟩
  · rw [own]
    simp [add]
  · intro other alsoRegistered
    rcases get?_of_get?_add alsoRegistered with ⟨same, -⟩ | ⟨-, earlier⟩
    · exact same
    · have inside := ((consistent.indexes.indexed other task).mp earlier).1
      have allocated := consistent.allocated task inside
      omega

/-- The record of another task is added. The own one may be evicted. -/
theorem Holds.add (holds : history.Holds taskId property) {record : TaskRecord Usage}
    (different : record.taskId ≠ taskId) : (history.add record).Holds taskId property := by
  intro task registered
  have earlier : history.tasksById.get? taskId = some task := by
    rcases get?_of_get?_add registered with ⟨same, -⟩ | ⟨-, earlier⟩
    · exact absurd same.symm different
    · exact earlier
  obtain ⟨⟨held, read, meets⟩, own⟩ := holds task earlier
  have allocated : task < history.records.length := by
    obtain ⟨inside, -⟩ := List.getElem?_eq_some_iff.mp read
    exact inside
  refine ⟨⟨held, ?_, meets⟩, ?_⟩
  · show (history.records ++ [record])[task]? = some held
    rw [List.getElem?_append_left allocated]
    exact read
  · intro other alsoRegistered
    rcases get?_of_get?_add alsoRegistered with ⟨-, isNew⟩ | ⟨-, before⟩
    · omega
    · exact own other before

@[simp] theorem tasksById_mutate (mutated : String)
    (change : TaskRecord Usage → TaskRecord Usage) :
    (history.mutate mutated change).tasksById = history.tasksById := by
  unfold mutate
  cases history.tasksById.get? mutated <;> rfl

/-- A mutator of the own record. -/
theorem Holds.mutate (holds : history.Holds taskId property)
    {change : TaskRecord Usage → TaskRecord Usage} {next : TaskRecord Usage → Prop}
    (changes : ∀ record, property record → next (change record)) :
    (history.mutate taskId change).Holds taskId next := by
  intro task registered
  rw [tasksById_mutate] at registered
  obtain ⟨⟨record, read, meets⟩, own⟩ := holds task registered
  refine ⟨⟨change record, ?_, changes record meets⟩, ?_⟩
  · unfold TaskHistory.mutate
    simp [registered, read]
  · intro other alsoRegistered
    rw [tasksById_mutate] at alsoRegistered
    exact own other alsoRegistered

/-- A mutator of another task. -/
theorem Holds.mutate_other (holds : history.Holds taskId property) {mutated : String}
    (different : mutated ≠ taskId) (change : TaskRecord Usage → TaskRecord Usage) :
    (history.mutate mutated change).Holds taskId property := by
  intro task registered
  rw [tasksById_mutate] at registered
  obtain ⟨⟨record, read, meets⟩, own⟩ := holds task registered
  refine ⟨⟨record, ?_, meets⟩, ?_⟩
  · unfold TaskHistory.mutate
    cases found : history.tasksById.get? mutated with
    | none => exact read
    | some other =>
        have apart : other ≠ task := by
          rintro rfl
          exact different (own mutated found)
        show (history.records.modify other change)[task]? = some record
        rw [List.getElem?_modify, read]
        simp [apart]
  · intro other alsoRegistered
    rw [tasksById_mutate] at alsoRegistered
    exact own other alsoRegistered

end TaskHistory

end QuAIA.Orchestrator
