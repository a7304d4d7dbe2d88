import QuAIA.Library.BoundedDeque
import QuAIA.Library.ChangingPages
import QuAIA.Orchestrator.LogPages

/-!
Contract: reading the orchestrator's log in pages while it goes on being written.

Owns: the buffer after everything that was logged; and that a reader who asks for pages of the
dashboard's view until one is short misses no entry that is newer than those the full buffer has
dropped, whatever is logged between its requests.

Does not own: the logs of tasks and agents, which are not read in pages. Time stamps need not rise.
-/

set_option autoImplicit false

namespace QuAIA.Orchestrator

open QuAIA.Library
open QuAIA.Library.Paging
open QuAIA.Library.StableSort

namespace GrowingLog

/-! ## The log -/

section Log

variable (appended : Nat → List LogEntry)

/-- All that is logged before the request with a number, as `appended` is before each. -/
def logged : Nat → List LogEntry
  | 0 => appended 0
  | request + 1 => logged request ++ appended (request + 1)

/-- The handler at the request with a number. -/
def handlerAt : Nat → MemoryLogHandler
  | 0 => (appended 0).foldl MemoryLogHandler.append .empty
  | request + 1 => (appended (request + 1)).foldl MemoryLogHandler.append (handlerAt request)

/-- The entries that the full buffer has dropped by then. -/
def dropped (request : Nat) : List LogEntry :=
  (logged appended request).take ((logged appended request).length - memoryLogMaxSize)

theorem buffer_foldl_append {handler : MemoryLogHandler} {before : List LogEntry}
    (holds : handler.buffer = before.rtake memoryLogMaxSize) (entries : List LogEntry) :
    (entries.foldl MemoryLogHandler.append handler).buffer =
      (before ++ entries).rtake memoryLogMaxSize := by
  induction entries generalizing handler before with
  | nil => rw [List.append_nil, ← holds]; rfl
  | cons entry rest inductionHypothesis =>
      have next : (handler.append entry).buffer = (before ++ [entry]).rtake memoryLogMaxSize := by
        rw [← BoundedDeque.append_rtake (by decide) before entry, ← holds]
        rfl
      rw [List.foldl_cons, inductionHypothesis next, List.append_assoc, List.singleton_append]

/-- The buffer holds the last entries that were logged. -/
theorem buffer_handlerAt (request : Nat) :
    (handlerAt appended request).buffer = (logged appended request).rtake memoryLogMaxSize := by
  induction request with
  | zero =>
      have holds : MemoryLogHandler.empty.buffer =
          ([] : List LogEntry).rtake memoryLogMaxSize := rfl
      exact buffer_foldl_append holds (appended 0)
  | succ request inductionHypothesis => exact buffer_foldl_append inductionHypothesis _

theorem dropped_append_buffer (request : Nat) :
    dropped appended request ++ (handlerAt appended request).buffer =
      logged appended request := by
  rw [buffer_handlerAt, dropped, List.rtake]
  exact List.take_append_drop _ _

theorem dropped_grows (request : Nat) :
    dropped appended request <+: dropped appended (request + 1) := by
  rw [dropped, dropped]
  refine List.prefix_take_iff.mpr ⟨?_, ?_⟩
  · exact (List.take_prefix _ _).trans (List.prefix_append _ _)
  · rw [List.length_take, logged, List.length_append]
    omega

theorem dropped_mono {earlier later : Nat} (order : earlier ≤ later) :
    dropped appended earlier <+: dropped appended later := by
  induction later, order using Nat.le_induction with
  | base => exact List.prefix_rfl
  | succ later _ inductionHypothesis => exact inductionHypothesis.trans (dropped_grows _ later)

end Log

/-! ## The view -/

section View

variable (reading : LineReading) (level : Option String)

/-- What the dashboard shows of some entries, the newest one first. -/
def view (entries : List LogEntry) : List LogDict :=
  (sortBy LogEntry.timestamp (filterLevel reading.upper level entries).reverse).reverse.map
    LogEntry.toDict

def isNewer (bound : String) (entry : LogDict) : Bool := bound < entry.timestamp

variable {Usage : Type}

theorem getLogs_eq_view (service : DashboardService Usage) (limit offset : Nat) :
    service.getLogs reading limit offset level none none =
      ((view reading level service.memoryLogHandler.buffer).drop offset).take limit := by
  rw [getLogs_dashboard, collectEntries_orchestrator, MemoryLogHandler.newestFirst, view,
    List.map_take, List.map_drop]

theorem length_view (entries : List LogEntry) :
    (view reading level entries).length = (filterLevel reading.upper level entries).length := by
  rw [view, List.length_map, List.length_reverse, (sortBy_perm LogEntry.timestamp _).length_eq,
    List.length_reverse]

theorem length_view_le (handler : MemoryLogHandler) :
    (view reading level handler.buffer).length ≤ memoryLogMaxSize := by
  rw [length_view]
  exact (filterLevel_sublist level reading.upper _).length_le.trans handler.bounded

theorem falling_view (entries : List LogEntry) :
    Falling LogDict.timestamp (view reading level entries) :=
  List.pairwise_map.mpr (falling_reverse_sortBy LogEntry.timestamp _)

theorem filterLevel_filter (upper : String → String) (entries : List LogEntry)
    (keep : LogEntry → Bool) :
    filterLevel upper level (entries.filter keep) =
      (filterLevel upper level entries).filter keep := by
  rw [filterLevel, filterLevel]
  split
  · rfl
  · rw [List.filter_filter, List.filter_filter]
    simp only [Bool.and_comm]

/-- What is newer is viewed as if nothing else were there. -/
theorem filter_view (entries : List LogEntry) (bound : String) :
    (view reading level entries).filter (isNewer bound) =
      view reading level (entries.filter fun entry => bound < entry.timestamp) := by
  rw [view, view, List.filter_map, List.filter_reverse, ← sortBy_filter, List.filter_reverse,
    filterLevel_filter]
  rfl

theorem view_sublist_append (entries more : List LogEntry) :
    (view reading level entries).Sublist (view reading level (entries ++ more)) := by
  have split : filterLevel reading.upper level (entries ++ more) =
      filterLevel reading.upper level entries ++ filterLevel reading.upper level more := by
    rw [filterLevel, filterLevel, filterLevel]
    split
    · rfl
    · exact List.filter_append _ _
  rw [view, view, split, List.reverse_append]
  exact (sortBy_sublist_append _ _).reverse.map LogEntry.toDict

end View

/-! ## The reader -/

section Reader

variable {Usage : Type} (reading : LineReading) (level : Option String)
  (tasks : Nat → TaskHistory Usage) (appended : Nat → List LogEntry) (size : Nat)

/-- The service at the request with a number. -/
def serviceAt (request : Nat) : DashboardService Usage :=
  ⟨tasks request, handlerAt appended request⟩

/-- The page at an offset, which is asked for in its turn. -/
def fetch (offset : Nat) : List LogDict :=
  (serviceAt tasks appended (offset / size)).getLogs reading size offset level none none

/-- What a reader has who asked for these pages. -/
structure Promise (pages : List (List LogDict)) : Prop where
  requests : pages.length ≤ memoryLogMaxSize / size + 1
  atRequest : ∀ request page, pages[request]? = some page →
    page = (serviceAt tasks appended request).getLogs reading size (request * size) level none none
  /-- The entries of the first view that are newer than all that was dropped, in their order. -/
  noneMissed : ∀ bound, (∀ entry ∈ dropped appended (pages.length - 1), entry.timestamp ≤ bound) →
    (((serviceAt tasks appended 0).getLogs reading memoryLogMaxSize 0 level none none).filter
      (isNewer bound)).Sublist pages.flatten
  /-- What was logged in the meantime is made up for by entries that are read again. -/
  total : given level = none →
    pages.flatten.length = (handlerAt appended (pages.length - 1)).buffer.length

/-- What is newer than all dropped entries is in the buffer, if it was logged. -/
theorem filter_buffer {bound : String} {request : Nat}
    (older : ∀ entry ∈ dropped appended request, entry.timestamp ≤ bound) :
    ((handlerAt appended request).buffer.filter fun entry => bound < entry.timestamp) =
      (logged appended request).filter fun entry => bound < entry.timestamp := by
  have noneNewer : ((dropped appended request).filter fun entry => bound < entry.timestamp) = [] :=
    List.filter_eq_nil_iff.mpr fun entry member isNewer =>
      absurd (of_decide_eq_true isNewer) (not_lt_of_ge (older entry member))
  rw [← dropped_append_buffer, List.filter_append, noneNewer, List.nil_append]

/-- Between two requests no newer entry comes forward. -/
theorem moves {bound : String} {request : Nat}
    (older : ∀ entry ∈ dropped appended (request + 1), entry.timestamp ≤ bound) (place : Nat) :
    (((view reading level (handlerAt appended request).buffer).drop place).filter
      (isNewer bound)).Sublist
        ((view reading level (handlerAt appended (request + 1)).buffer).drop place) := by
  have olderBefore : ∀ entry ∈ dropped appended request, entry.timestamp ≤ bound :=
    fun entry member => older entry ((dropped_grows appended request).subset member)
  have grows : ((view reading level (handlerAt appended request).buffer).filter
      (isNewer bound)).Sublist
        ((view reading level (handlerAt appended (request + 1)).buffer).filter
          (isNewer bound)) := by
    rw [filter_view, filter_view, filter_buffer appended olderBefore, filter_buffer appended older,
      logged, List.filter_append]
    exact view_sublist_append reading level _ _
  calc ((view reading level (handlerAt appended request).buffer).drop place).filter (isNewer bound)
      = ((view reading level (handlerAt appended request).buffer).filter (isNewer bound)).drop
          place := (falling_view reading level _).filter_drop bound place
    List.Sublist _ (((view reading level (handlerAt appended (request + 1)).buffer).filter
          (isNewer bound)).drop place) := grows.drop place
    _ = ((view reading level (handlerAt appended (request + 1)).buffer).drop place).filter
          (isNewer bound) := ((falling_view reading level _).filter_drop bound place).symm
    List.Sublist _ _ := List.filter_sublist

variable {size}

theorem fetch_eq_page (positive : 1 ≤ size) (request : Nat) :
    fetch reading level tasks appended size (request * size) =
      ((view reading level (handlerAt appended request).buffer).drop (request * size)).take
        size := by
  rw [fetch, Nat.mul_div_cancel request positive, getLogs_eq_view]
  rfl

theorem promise_of_endsAt (positive : 1 ≤ size) {last : Nat}
    (inRange : last < memoryLogMaxSize / size + 1)
    (ends : EndsAt (fetch reading level tasks appended size) size last) :
    Promise reading level tasks appended size
      (pagesUpTo (fetch reading level tasks appended size) size last) := by
  have isPage := fetch_eq_page reading level tasks appended positive
  have count : (pagesUpTo (fetch reading level tasks appended size) size last).length =
      last + 1 := by
    rw [pagesUpTo, List.length_map, List.length_range]
  refine ⟨count ▸ inRange, ?_, ?_, ?_⟩
  · intro request page isRead
    rw [pagesUpTo, List.getElem?_map] at isRead
    obtain ⟨index, isIndex, rfl⟩ := Option.map_eq_some_iff.mp isRead
    obtain ⟨_, rfl⟩ := List.getElem?_eq_some_iff.mp isIndex
    rw [List.getElem_range, fetch, Nat.mul_div_cancel request positive]
  · rw [count, Nat.add_sub_cancel]
    intro bound older
    rw [getLogs_eq_view, List.drop_zero,
      List.take_of_length_le (length_view_le reading level (serviceAt tasks appended 0).2)]
    refine ends.filter_sublist isPage fun request before place => ?_
    refine moves reading level appended (fun entry member => older entry ?_) place
    exact (dropped_mono appended before).subset member
  · rw [count, Nat.add_sub_cancel]
    intro noLevel
    have whole : ∀ request, (view reading level (handlerAt appended request).buffer).length =
        (handlerAt appended request).buffer.length := by
      intro request
      rw [length_view, filterLevel, noLevel]
    rw [ends.length_flatten isPage positive, whole]
    intro request _
    rw [whole, whole, buffer_handlerAt, buffer_handlerAt, BoundedDeque.length_rtake,
      BoundedDeque.length_rtake, logged, List.length_append]
    omega

/-- **Reading a growing log.** Whatever is logged before and between the requests: a reader of the
dashboard's log who asks for page after page ends; each page is what the service returns at its
request; of the entries that the first request could see, none is missed that is newer than every
entry the buffer has dropped by the end; and without a level as many entries are read as the buffer
has then. -/
theorem growing_log_read (positive : 1 ≤ size) :
    ∃ pages, readPages (fetch reading level tasks appended size) size
        (memoryLogMaxSize / size + 1) [] = some pages ∧
      Promise reading level tasks appended size pages := by
  have short : ∃ request < memoryLogMaxSize / size + 1,
      (fetch reading level tasks appended size (request * size)).length ≠ size := by
    refine ⟨memoryLogMaxSize / size, Nat.lt_succ_self _, ?_⟩
    have fits := length_view_le reading level (handlerAt appended (memoryLogMaxSize / size))
    have parts := Nat.div_add_mod memoryLogMaxSize size
    have remainder := Nat.mod_lt memoryLogMaxSize positive
    rw [fetch_eq_page reading level tasks appended positive, List.length_take, List.length_drop]
    rw [Nat.mul_comm] at parts
    omega
  obtain ⟨last, inRange, ends, read⟩ := readPages_endsAt short
  exact ⟨_, read, promise_of_endsAt reading level tasks appended positive inRange ends⟩

end Reader

/-- Three entries before the first request, and one more before each of the next two. -/
def polled : Nat → List LogEntry
  | 0 => [orchestratorEntry "1" "started", orchestratorEntry "2" "connected",
      orchestratorEntry "3" "polled"]
  | 1 => [orchestratorEntry "4" "polled"]
  | 2 => [orchestratorEntry "5" "stopped"]
  | _ => []

def noTasks (_ : Nat) : TaskHistory Unit := TaskHistory.create 100 one_le_hundred

theorem length_fetch_polled (request : Nat) :
    (fetch plainReading none noTasks polled 2 (request * 2)).length =
      min 2 ((handlerAt polled request).buffer.length - request * 2) := by
  rw [fetch_eq_page plainReading none noTasks polled (by decide) request, List.length_take,
    List.length_drop, length_view]
  rfl

/-- In pages of two the reader needs three requests, and reads five entries. -/
theorem growing_log_read_polled :
    ∃ pages, readPages (fetch plainReading none noTasks polled 2) 2 25001 [] = some pages ∧
      pages.map List.length = [2, 2, 1] ∧ Promise plainReading none noTasks polled 2 pages := by
  obtain ⟨pages, read, promise⟩ :=
    growing_log_read plainReading none noTasks polled (by decide : 1 ≤ 2)
  refine ⟨pages, read, ?_, promise⟩
  have ends : EndsAt (fetch plainReading none noTasks polled 2) 2 2 := by
    refine ⟨?_, ?_⟩
    · simp only [length_fetch_polled]
      decide +kernel
    · rw [length_fetch_polled]
      decide +kernel
  rw [ends.readPages_eq (by decide)] at read
  obtain rfl := Option.some.inj read
  rw [pagesUpTo, List.map_map]
  simp only [Function.comp_def, length_fetch_polled]
  decide +kernel

end GrowingLog

end QuAIA.Orchestrator
