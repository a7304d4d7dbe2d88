import QuAIA.Orchestrator.LogViews

/-!
Contract: the pages of the log views.

Owns: when the dashboard's view of the orchestrator log agrees with that of the in-memory
handler, and what a reader gets who asks either of them for page after page.

Does not own: a log that changes while it is read.
-/

set_option autoImplicit false

namespace QuAIA.Orchestrator

open QuAIA.Library
open QuAIA.Library.Paging
open QuAIA.Library.StableSort

/-! ## Agreement -/

section Agreement

/-- Every entry of a page says what the entry opposite to it among those of its time stamp says. -/
def MirrorsAlike (newestFirst : List LogEntry) (limit offset : Nat) : Prop :=
  ∀ (place : Nat) (entry : LogEntry), offset ≤ place → place < offset + limit →
    newestFirst[place]? = some entry →
      newestFirst[mirror LogEntry.timestamp entry.timestamp newestFirst place]?.map
        LogEntry.toDict = some entry.toDict

variable {Usage : Type} (reading : LineReading) (service : DashboardService Usage)
  (level : Option String)

/-- The entries of a level, the last one that was appended first. -/
def MemoryLogHandler.newestFirst (upper : String → String) (handler : MemoryLogHandler)
    (level : Option String) : List LogEntry :=
  (filterLevel upper level handler.buffer).reverse

theorem filterLevel_sublist (upper : String → String) (logs : List LogEntry) :
    (filterLevel upper level logs).Sublist logs := by
  rw [filterLevel]
  split
  · exact List.Sublist.refl logs
  · exact List.filter_sublist

theorem getLogs_handler (upper : String → String) (handler : MemoryLogHandler)
    (limit offset : Nat) :
    handler.getLogs upper limit offset level =
      ((handler.newestFirst upper level).drop offset).take limit :=
  sliceFromEnd_eq limit offset _

/-- The dashboard asks for more entries than the buffer can hold. -/
theorem collectEntries_orchestrator :
    service.collectEntries reading level none none =
      service.memoryLogHandler.newestFirst reading.upper level := by
  have fits : (filterLevel reading.upper level service.memoryLogHandler.buffer).length ≤
      100000 := by
    have size : memoryLogMaxSize ≤ 100000 := by decide
    exact ((filterLevel_sublist level _ _).length_le.trans
      service.memoryLogHandler.bounded).trans size
  exact sliceFromEnd_all fits

theorem getLogs_dashboard (limit offset : Nat) (taskId agentId : Option String) :
    service.getLogs reading limit offset level taskId agentId =
      ((((sortBy LogEntry.timestamp
        (service.collectEntries reading level taskId agentId)).reverse.drop offset).take
          limit)).map LogEntry.toDict := by
  rw [DashboardService.getLogs, sliceFromEnd_eq]

theorem falling_newestFirst {handler : MemoryLogHandler} (upper : String → String)
    (rises : (handler.buffer.map LogEntry.timestamp).Pairwise (· ≤ ·)) :
    Falling LogEntry.timestamp (handler.newestFirst upper level) := by
  have matching := (List.pairwise_map.mp rises).sublist (filterLevel_sublist level upper _)
  exact List.pairwise_reverse.mpr matching

/-- **Agreement of the log views.** For a buffer whose time stamps do not fall, the dashboard
returns the page that the handler returns exactly when every entry of the page says the same as
the entry opposite to it among those of its time stamp. -/
theorem views_agree_iff
    (rises : (service.memoryLogHandler.buffer.map LogEntry.timestamp).Pairwise (· ≤ ·))
    (limit offset : Nat) :
    service.getLogs reading limit offset level none none =
        (service.memoryLogHandler.getLogs reading.upper limit offset level).map
          LogEntry.toDict ↔
      MirrorsAlike (service.memoryLogHandler.newestFirst reading.upper level) limit offset := by
  have falling := falling_newestFirst level reading.upper rises
  rw [getLogs_dashboard, collectEntries_orchestrator, getLogs_handler, map_page_eq_iff]
  constructor
  · intro same place entry notBefore before isEntry
    have here := same place notBefore before
    rw [falling.getElem?_reverse_sortBy isEntry, isEntry] at here
    exact here
  · intro alike place notBefore before
    cases isEntry : (service.memoryLogHandler.newestFirst reading.upper level)[place]? with
    | none =>
        rw [List.getElem?_eq_none_iff] at isEntry
        rw [List.getElem?_eq_none (by
          rwa [List.length_reverse, (sortBy_perm LogEntry.timestamp _).length_eq])]
    | some entry =>
        rw [falling.getElem?_reverse_sortBy isEntry]
        exact alike place entry notBefore before isEntry

end Agreement

/-- An entry of the orchestrator's own log. -/
def orchestratorEntry (timestamp message : String) : LogEntry :=
  ⟨timestamp, "INFO", "orchestrator", message, none, none, none⟩

/-- A dashboard over two entries. -/
def dashboardOver (first second : LogEntry) : DashboardService Unit :=
  ⟨TaskHistory.create 100 one_le_hundred, (MemoryLogHandler.empty.append first).append second⟩

theorem views_agree_iff_seconds :
    (dashboardOver (orchestratorEntry "10:00:01" "started")
        (orchestratorEntry "10:00:02" "ready")).getLogs plainReading 10 0 none none none =
      ((dashboardOver (orchestratorEntry "10:00:01" "started")
        (orchestratorEntry "10:00:02" "ready")).memoryLogHandler.getLogs plainReading.upper 10 0
          none).map LogEntry.toDict ↔
      MirrorsAlike ((dashboardOver (orchestratorEntry "10:00:01" "started")
        (orchestratorEntry "10:00:02" "ready")).memoryLogHandler.newestFirst plainReading.upper
          none) 10 0 :=
  views_agree_iff plainReading _ none (by decide) 10 0

/-- Two entries of one moment come in opposite orders. -/
theorem tied_views_differ :
    ¬∀ (reading : LineReading) (service : DashboardService Unit) (level : Option String)
      (limit offset : Nat),
      (service.memoryLogHandler.buffer.map LogEntry.timestamp).Pairwise (· ≤ ·) →
      service.getLogs reading limit offset level none none =
        (service.memoryLogHandler.getLogs reading.upper limit offset level).map
          LogEntry.toDict := by
  intro agree
  have same := agree plainReading (dashboardOver (orchestratorEntry "10:00:01" "started")
    (orchestratorEntry "10:00:01" "ready")) none 10 0 (by decide)
  have entries : (dashboardOver (orchestratorEntry "10:00:01" "started")
      (orchestratorEntry "10:00:01" "ready")).memoryLogHandler.newestFirst plainReading.upper none =
      [orchestratorEntry "10:00:01" "ready", orchestratorEntry "10:00:01" "started"] := rfl
  rw [getLogs_dashboard, collectEntries_orchestrator, getLogs_handler, entries,
    sortBy_of_pairwise (by decide)] at same
  exact absurd same (by decide)

/-! ## Reading in pages -/

/-- A reader who asks for pages of a size until one is shorter ends after as many requests as it
takes, with what is wanted. -/
def ReadsInPages {α : Type} (getLogs : Nat → List α) (size total : Nat)
    (isWanted : List α → Prop) : Prop :=
  ∃ pages, readPages getLogs size (total / size + 1) [] = some pages ∧
    pages.length = total / size + 1 ∧ isWanted pages.flatten

theorem readsInPages_iff {α : Type} {getLogs : Nat → List α} {size : Nat} {list : List α}
    (positive : 1 ≤ size) (paged : ∀ offset, getLogs offset = (list.drop offset).take size)
    (isWanted : List α → Prop) :
    ReadsInPages getLogs size list.length isWanted ↔ isWanted list := by
  have enough : list.length / size < list.length / size + 1 := Nat.lt_succ_self _
  obtain ⟨pages, read, flat, count⟩ := readPages_eq positive paged enough
  rw [← flat] at read count ⊢
  constructor
  · rintro ⟨found, isRead, -, wanted⟩
    rw [read, Option.some.injEq] at isRead
    exact isRead ▸ wanted
  · intro wanted
    exact ⟨pages, read, count, wanted⟩

section Pages

variable {Usage : Type} {size : Nat}

theorem readsInPages_handler (positive : 1 ≤ size) (upper : String → String)
    (handler : MemoryLogHandler) (level : Option String) (isWanted : List LogEntry → Prop) :
    ReadsInPages (fun offset => handler.getLogs upper size offset level) size
        (handler.newestFirst upper level).length isWanted ↔
      isWanted (handler.newestFirst upper level) :=
  readsInPages_iff positive (fun offset => getLogs_handler level upper handler size offset) isWanted

theorem readsInPages_dashboard (positive : 1 ≤ size) (reading : LineReading)
    (service : DashboardService Usage) (level taskId agentId : Option String)
    (isWanted : List LogDict → Prop) :
    ReadsInPages (fun offset => service.getLogs reading size offset level taskId agentId) size
        (service.collectEntries reading level taskId agentId).length isWanted ↔
      isWanted ((sortBy LogEntry.timestamp
        (service.collectEntries reading level taskId agentId)).reverse.map LogEntry.toDict) := by
  have count : ((sortBy LogEntry.timestamp
      (service.collectEntries reading level taskId agentId)).reverse.map LogEntry.toDict).length =
      (service.collectEntries reading level taskId agentId).length := by
    rw [List.length_map, List.length_reverse, (sortBy_perm LogEntry.timestamp _).length_eq]
  rw [← count]
  refine readsInPages_iff positive (fun offset => ?_) isWanted
  rw [getLogs_dashboard, List.map_take, List.map_drop]

/-- **Pages of the logs.** Whoever asks for pages until one is short gets, after finitely many
requests, every matching entry once: from the handler those that were appended last first, from
the dashboard those with the greatest time stamps first. -/
theorem pages_partition (positive : 1 ≤ size) :
    (∀ (upper : String → String) (handler : MemoryLogHandler) (level : Option String),
      ReadsInPages (fun offset => handler.getLogs upper size offset level) size
        (handler.newestFirst upper level).length
        fun read => read = (filterLevel upper level handler.buffer).reverse) ∧
    ∀ (reading : LineReading) (service : DashboardService Usage)
      (level taskId agentId : Option String),
      ReadsInPages (fun offset => service.getLogs reading size offset level taskId agentId) size
        (service.collectEntries reading level taskId agentId).length
        fun read =>
          read.Perm ((service.collectEntries reading level taskId agentId).map LogEntry.toDict) ∧
            Falling LogDict.timestamp read := by
  constructor
  · intro upper handler level
    exact (readsInPages_handler positive upper handler level _).mpr rfl
  · intro reading service level taskId agentId
    refine (readsInPages_dashboard positive reading service level taskId agentId _).mpr ⟨?_, ?_⟩
    · exact ((List.reverse_perm _).trans (sortBy_perm LogEntry.timestamp _)).map LogEntry.toDict
    · exact List.pairwise_map.mpr (falling_reverse_sortBy LogEntry.timestamp _)

end Pages

/-- With pages of a hundred entries, as the interface asks for them. -/
theorem pages_partition_hundred :
    (∀ (upper : String → String) (handler : MemoryLogHandler) (level : Option String),
      ReadsInPages (fun offset => handler.getLogs upper 100 offset level) 100
        (handler.newestFirst upper level).length
        fun read => read = (filterLevel upper level handler.buffer).reverse) ∧
    ∀ (reading : LineReading) (service : DashboardService Unit)
      (level taskId agentId : Option String),
      ReadsInPages (fun offset => service.getLogs reading 100 offset level taskId agentId) 100
        (service.collectEntries reading level taskId agentId).length
        fun read =>
          read.Perm ((service.collectEntries reading level taskId agentId).map LogEntry.toDict) ∧
            Falling LogDict.timestamp read :=
  pages_partition (by decide)

/-- No order of the entries of a buffer is that of both: they list entries that were appended
against the order of their time stamps in opposite orders. -/
theorem pages_in_two_orders :
    ¬∃ newestFirst : List LogEntry → List LogEntry,
      ∀ (reading : LineReading) (service : DashboardService Unit) (size : Nat), 1 ≤ size →
        ReadsInPages
            (fun offset => service.memoryLogHandler.getLogs reading.upper size offset none) size
            service.memoryLogHandler.buffer.length
            (fun read => read = newestFirst service.memoryLogHandler.buffer) ∧
          ReadsInPages (fun offset => service.getLogs reading size offset none none none) size
            service.memoryLogHandler.buffer.length
            fun read => read =
              (newestFirst service.memoryLogHandler.buffer).map LogEntry.toDict := by
  rintro ⟨newestFirst, inOrder⟩
  obtain ⟨handler, dashboard⟩ := inOrder plainReading
    (dashboardOver (orchestratorEntry "10:00:02" "ready")
      (orchestratorEntry "10:00:01" "started")) 100 (by decide)
  have entries : (dashboardOver (orchestratorEntry "10:00:02" "ready")
      (orchestratorEntry "10:00:01" "started")).memoryLogHandler.newestFirst plainReading.upper
        none = [orchestratorEntry "10:00:01" "started", orchestratorEntry "10:00:02" "ready"] := rfl
  have fromHandler := (readsInPages_handler (by decide) plainReading.upper _ none _).mp handler
  have fromDashboard := (readsInPages_dashboard (by decide) plainReading _ none none none _).mp
    dashboard
  rw [← fromHandler, collectEntries_orchestrator, entries, sortBy_of_pairwise (by decide)]
    at fromDashboard
  exact absurd fromDashboard (by decide)

end QuAIA.Orchestrator
