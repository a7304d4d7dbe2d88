import Mathlib.Algebra.GroupWithZero.Nat
import Mathlib.Data.List.Basic
import Mathlib.Data.List.Induction

/-!
Contract: a log file that is rotated by its size, as `RotatingFileHandler` does it.

Owns: the file and its numbered backups; when they get new numbers; and that the files, read from
the oldest to the newest, hold the last lines that were written, how large a file can be, and what
is full before a line is dropped.

Does not own: the text of a line, which has a number of bytes and a number of characters.
-/

set_option autoImplicit false

namespace QuAIA.Library

/-- The file, and its backups by their numbers, of which some can be missing. -/
structure RotatingFile (Line : Type) where
  file : List Line
  backups : List (Option (List Line))

/-- The limit, and the two lengths of a line with its line break. -/
structure FileLimits (Line : Type) where
  maxBytes : Nat
  bytes : Line → Nat
  characters : Line → Nat
  limited : 0 < maxBytes
  positive : ∀ line, 0 < bytes line

namespace RotatingFile

variable {Line : Type} (limits : FileLimits Line)

/-- No file has been written. -/
def empty (backupCount : Nat) : RotatingFile Line := ⟨[], List.replicate backupCount none⟩

def size (lines : List Line) : Nat := (lines.map limits.bytes).sum

/-- `shouldRollover` for a line of so many characters. An empty file stays. -/
def shouldRollover (log : RotatingFile Line) (characters : Nat) : Bool :=
  size limits log.file ≠ 0 ∧ limits.maxBytes ≤ size limits log.file + characters

/-- Each backup but the last gets the next number. The last one is overwritten, unless the one
before it is missing. -/
def shifted {File : Type} : List (Option File) → List (Option File)
  | [] => []
  | [_] => []
  | [newer, last] => [newer.or last]
  | newer :: next :: rest => newer :: shifted (next :: rest)

/-- `doRollover`. Without backups the file is opened again as it is. -/
def doRollover (log : RotatingFile Line) : RotatingFile Line :=
  match log.backups with
  | [] => log
  | backups => ⟨[], some log.file :: shifted backups⟩

/-- `lost` is a line whose writing fails after the rollover. -/
inductive Call (Line : Type) where
  | emit (line : Line)
  | lost (characters : Nat)

def Call.characters : Call Line → Nat
  | .emit line => limits.characters line
  | .lost characters => characters

def makeRoom (log : RotatingFile Line) (characters : Nat) : RotatingFile Line :=
  if log.shouldRollover limits characters then log.doRollover else log

def call (log : RotatingFile Line) : Call Line → RotatingFile Line
  | .emit line =>
      let log := log.makeRoom limits (limits.characters line)
      { log with file := log.file ++ [line] }
  | .lost characters => log.makeRoom limits characters

def run (log : RotatingFile Line) (calls : List (Call Line)) : RotatingFile Line :=
  calls.foldl (call limits) log

def emitted (calls : List (Call Line)) : List Line :=
  calls.filterMap fun
    | .emit line => some line
    | .lost _ => none

/-- What the backups hold, from the oldest on. -/
def backedUp (backups : List (Option (List Line))) : List Line :=
  (backups.reverse.map fun backup => backup.getD []).flatten

/-- What all files hold, from the oldest line on. -/
def history (log : RotatingFile Line) : List Line := backedUp log.backups ++ log.file

/-- The files that exist. -/
def files (log : RotatingFile Line) : List (List Line) := log.file :: log.backups.filterMap id

/-! ## Rollovers -/

/-- The backups without gaps: so many files, and the numbers that no file has yet. -/
def filled (full : List (List Line)) (missing : Nat) : List (Option (List Line)) :=
  full.map some ++ List.replicate missing none

theorem shifted_append {File : Type} (front : List (Option File)) (newer last : Option File) :
    shifted (front ++ [newer, last]) = front ++ [newer.or last] := by
  induction front with
  | nil => rfl
  | cons first others inductionHypothesis =>
      obtain ⟨second, third, rest, isLong⟩ : ∃ second third rest,
          others ++ [newer, last] = second :: third :: rest := by
        cases others with
        | nil => exact ⟨newer, last, [], rfl⟩
        | cons second others =>
            cases others with
            | nil => exact ⟨second, newer, [last], rfl⟩
            | cons third others => exact ⟨second, third, others ++ [newer, last], rfl⟩
      rw [List.cons_append, isLong, shifted, ← isLong, inductionHypothesis]
      · rfl
      · nofun

theorem shifted_filled_succ (full : List (List Line)) (missing : Nat) :
    shifted (filled full (missing + 1)) = filled full missing := by
  cases missing with
  | zero =>
      rcases List.eq_nil_or_concat full with rfl | ⟨front, last, rfl⟩
      · rfl
      · have split : filled (front.concat last) 1 = front.map some ++ [some last, none] := by
          simp [filled]
        rw [split, shifted_append]
        simp [filled]
  | succ missing =>
      have split : filled full (missing + 1 + 1) =
          (full.map some ++ List.replicate missing none) ++ [none, none] := by
        simp [filled, List.replicate_succ', List.append_assoc]
      rw [split, shifted_append]
      simp [filled, List.replicate_succ', List.append_assoc]

theorem shifted_filled_zero (front : List (List Line)) (last : List Line) :
    shifted (filled (front ++ [last]) 0) = filled front 0 := by
  rcases List.eq_nil_or_concat front with rfl | ⟨others, newer, rfl⟩
  · rfl
  · have split : filled (others.concat newer ++ [last]) 0 =
        others.map some ++ [some newer, some last] := by
      simp [filled]
    rw [split, shifted_append]
    simp [filled]

theorem doRollover_of_ne_nil {log : RotatingFile Line} (hasBackups : log.backups ≠ []) :
    log.doRollover = ⟨[], some log.file :: shifted log.backups⟩ := by
  unfold doRollover
  split
  · rename_i none
    exact absurd none hasBackups
  · rfl

theorem backedUp_filled (full : List (List Line)) (missing : Nat) :
    backedUp (filled full missing) = full.reverse.flatten := by
  simp [backedUp, filled, Function.comp_def]

theorem history_of_filled {log : RotatingFile Line} {full : List (List Line)} {missing : Nat}
    (areBackups : log.backups = filled full missing) :
    log.history = full.reverse.flatten ++ log.file := by
  rw [history, areBackups, backedUp_filled]

/-! ## What is kept -/

/-- A file is a single line, or there was room for its last line. -/
def Bounded (lines : List Line) : Prop :=
  lines.length ≤ 1 ∨ ∃ front last, lines = front ++ [last] ∧
    size limits front + limits.characters last < limits.maxBytes

/-- At some call the lines were the last ones that had been written, and there was no room for
more. -/
def WasFull (calls : List (Call Line)) (lines : List Line) : Prop :=
  ∃ before next after, calls = before ++ next :: after ∧ lines <:+ emitted before ∧
    limits.maxBytes ≤ size limits lines + next.characters limits

/-- The files hold the last lines. One is dropped only when there are all backups. Each backup was
full. -/
def Kept (backupCount : Nat) (calls : List (Call Line)) (lines : List Line)
    (log : RotatingFile Line) : Prop :=
  ∃ full missing, log.backups = filled full missing ∧ full.length + missing = backupCount ∧
    (∀ backup ∈ full, WasFull limits calls backup) ∧
    ∃ dropped, dropped ++ log.history = lines ∧ (dropped = [] ∨ missing = 0)

section Kept

variable {limits} {backupCount : Nat} {calls : List (Call Line)} {lines : List Line}
  {log : RotatingFile Line}

theorem WasFull.append (wasFull : WasFull limits calls lines) (later : List (Call Line)) :
    WasFull limits (calls ++ later) lines := by
  obtain ⟨before, next, after, rfl, isSuffix, noRoom⟩ := wasFull
  exact ⟨before, next, after ++ later, by simp, isSuffix, noRoom⟩

theorem kept_empty (limits : FileLimits Line) (backupCount : Nat) :
    Kept limits backupCount [] [] (empty backupCount) := by
  have areBackups : (empty backupCount : RotatingFile Line).backups = filled [] backupCount := rfl
  refine ⟨[], backupCount, areBackups, Nat.zero_add _, ?_, [], ?_, Or.inl rfl⟩
  · intro backup member
    cases member
  · rw [history_of_filled areBackups]
    rfl

theorem Kept.later (kept : Kept limits backupCount calls lines log) (later : List (Call Line)) :
    Kept limits backupCount (calls ++ later) lines log := by
  obtain ⟨full, missing, areBackups, count, eachFull, dropped⟩ := kept
  exact ⟨full, missing, areBackups, count,
    fun backup member => (eachFull backup member).append later, dropped⟩

theorem Kept.file_suffix (kept : Kept limits backupCount calls lines log) :
    log.file <:+ lines := by
  obtain ⟨-, -, -, -, -, dropped, isSuffix, -⟩ := kept
  have inHistory : log.file <:+ log.history := List.suffix_append _ _
  exact inHistory.trans ⟨dropped, isSuffix⟩

theorem Kept.doRollover (kept : Kept limits backupCount calls lines log)
    (isFull : WasFull limits calls log.file) :
    Kept limits backupCount calls lines log.doRollover := by
  obtain ⟨full, missing, areBackups, count, eachFull, dropped, isSuffix, isKept⟩ := kept
  have allFull : ∀ backup ∈ log.file :: full, WasFull limits calls backup := by
    intro backup member
    rcases List.mem_cons.mp member with rfl | earlier
    · exact isFull
    · exact eachFull backup earlier
  rw [history_of_filled areBackups] at isSuffix
  cases missing with
  | succ missing =>
      have renamed : log.doRollover = ⟨[], filled (log.file :: full) missing⟩ := by
        have hasBackups : log.backups ≠ [] := by
          rw [areBackups]
          simp [filled, List.replicate_succ]
        rw [doRollover_of_ne_nil hasBackups, areBackups, shifted_filled_succ]
        rfl
      rw [renamed]
      refine ⟨log.file :: full, missing, rfl, ?_, allFull, dropped, ?_, Or.inl ?_⟩
      · rw [List.length_cons]
        omega
      · rw [history_of_filled rfl, ← isSuffix]
        simp
      · exact isKept.resolve_right (Nat.succ_ne_zero missing)
  | zero =>
      rcases List.eq_nil_or_concat full with rfl | ⟨front, last, isConcat⟩
      · have same : log.doRollover = log := by
          unfold RotatingFile.doRollover
          rw [areBackups]
          rfl
        rw [same]
        exact ⟨[], 0, areBackups, count, eachFull, dropped,
          by rw [history_of_filled areBackups]; exact isSuffix, isKept⟩
      · rw [List.concat_eq_append] at isConcat
        subst isConcat
        have renamed : log.doRollover = ⟨[], filled (log.file :: front) 0⟩ := by
          have hasBackups : log.backups ≠ [] := by
            rw [areBackups]
            simp [filled]
          rw [doRollover_of_ne_nil hasBackups, areBackups, shifted_filled_zero]
          rfl
        rw [renamed]
        refine ⟨log.file :: front, 0, rfl, ?_, ?_, dropped ++ last, ?_, Or.inr rfl⟩
        · rw [List.length_append, List.length_singleton] at count
          rw [List.length_cons]
          omega
        · intro backup member
          apply allFull
          rcases List.mem_cons.mp member with rfl | inFront
          · exact List.mem_cons_self
          · exact List.mem_cons_of_mem _ (List.mem_append_left _ inFront)
        · rw [history_of_filled rfl, ← isSuffix]
          simp

/-- A file that is rolled over for a line has no room for it. -/
theorem Kept.makeRoom (kept : Kept limits backupCount calls (emitted calls) log)
    (next : Call Line) :
    Kept limits backupCount (calls ++ [next]) (emitted calls)
      (log.makeRoom limits (next.characters limits)) := by
  have keptLater := kept.later [next]
  unfold RotatingFile.makeRoom
  split
  · rename_i rolls
    obtain ⟨-, noRoom⟩ := of_decide_eq_true rolls
    exact keptLater.doRollover ⟨calls, next, [], rfl, kept.file_suffix, noRoom⟩
  · exact keptLater

theorem Kept.append (kept : Kept limits backupCount calls lines log) (line : Line) :
    Kept limits backupCount calls (lines ++ [line]) { log with file := log.file ++ [line] } := by
  obtain ⟨full, missing, areBackups, count, eachFull, dropped, isSuffix, isKept⟩ := kept
  refine ⟨full, missing, areBackups, count, eachFull, dropped, ?_, isKept⟩
  rw [← isSuffix, history, history, List.append_assoc, List.append_assoc]

theorem Kept.call (kept : Kept limits backupCount calls (emitted calls) log) (next : Call Line) :
    Kept limits backupCount (calls ++ [next]) (emitted (calls ++ [next]))
      (log.call limits next) := by
  have isEmitted : emitted (calls ++ [next]) = emitted calls ++ emitted [next] :=
    List.filterMap_append
  rw [isEmitted]
  cases next with
  | emit line => exact (kept.makeRoom (.emit line)).append line
  | lost characters =>
      rw [show emitted [Call.lost characters] = ([] : List Line) from rfl, List.append_nil]
      exact kept.makeRoom (.lost characters)

/-- All lines are there, or all backups are, each of which was full. -/
theorem Kept.dropped_or_full (kept : Kept limits backupCount calls lines log) :
    ∃ dropped, dropped ++ log.history = lines ∧ (dropped = [] ∨
      ∃ full : List (List Line), log.backups = full.map some ∧ full.length = backupCount ∧
        ∀ backup ∈ full, WasFull limits calls backup) := by
  obtain ⟨full, missing, areBackups, count, eachFull, dropped, isSuffix, isKept⟩ := kept
  refine ⟨dropped, isSuffix, isKept.imp_right ?_⟩
  rintro rfl
  exact ⟨full, by rw [areBackups, filled, List.replicate_zero, List.append_nil], count, eachFull⟩

theorem size_eq_zero_iff (limits : FileLimits Line) (lines : List Line) :
    size limits lines = 0 ↔ lines = [] := by
  constructor
  · intro isZero
    cases lines with
    | nil => rfl
    | cons first others =>
        have positive := limits.positive first
        rw [size, List.map_cons, List.sum_cons] at isZero
        omega
  · rintro rfl
    rfl

theorem files_doRollover {lines : List Line} (member : lines ∈ log.doRollover.files) :
    lines = [] ∨ lines ∈ log.files := by
  have fromShifted : ∀ backups : List (Option (List Line)),
      some lines ∈ shifted backups → some lines ∈ backups := by
    intro backups
    induction backups using shifted.induct with
    | case1 => exact id
    | case2 => exact fun inNone => absurd inNone List.not_mem_nil
    | case3 newer last =>
        intro inLast
        rw [shifted, List.mem_singleton] at inLast
        rcases Option.or_eq_some_iff.mp inLast.symm with isNewer | ⟨-, isLast⟩
        · rw [isNewer]
          exact List.mem_cons_self
        · rw [isLast]
          exact List.mem_cons_of_mem _ (List.mem_singleton_self _)
    | case4 newer next rest isLong inductionHypothesis =>
        intro inShifted
        rw [shifted] at inShifted
        · rcases List.mem_cons.mp inShifted with isNewer | later
          · rw [isNewer]
            exact List.mem_cons_self
          · exact List.mem_cons_of_mem _ (inductionHypothesis later)
        · exact isLong
  by_cases hasBackups : log.backups = []
  · have same : log.doRollover = log := by
      unfold RotatingFile.doRollover
      rw [hasBackups]
    rw [same] at member
    exact Or.inr member
  · rw [doRollover_of_ne_nil hasBackups] at member
    rcases List.mem_cons.mp member with isNew | isBackup
    · exact Or.inl isNew
    · obtain ⟨backup, inBackups, isLines⟩ := List.mem_filterMap.mp isBackup
      rw [id_eq] at isLines
      subst isLines
      rcases List.mem_cons.mp inBackups with isFile | inShifted
      · rw [Option.some.inj isFile]
        exact Or.inr List.mem_cons_self
      · exact Or.inr (List.mem_cons_of_mem _
          (List.mem_filterMap.mpr ⟨some lines, fromShifted _ inShifted, rfl⟩))

/-- There is room for the line, or the file is empty. -/
theorem file_makeRoom (limits : FileLimits Line) (hasBackups : log.backups ≠ [])
    (characters : Nat) :
    (log.makeRoom limits characters).file = [] ∨
      size limits (log.makeRoom limits characters).file + characters < limits.maxBytes := by
  unfold RotatingFile.makeRoom
  split
  · rw [doRollover_of_ne_nil hasBackups]
    exact Or.inl rfl
  · rename_i stays
    rw [shouldRollover, decide_eq_true_eq, not_and_or] at stays
    rcases stays with isEmpty | fits
    · exact Or.inl ((size_eq_zero_iff limits log.file).mp (Decidable.not_not.mp isEmpty))
    · exact Or.inr (Nat.lt_of_not_le fits)

theorem bounded_call (hasBackups : log.backups ≠ [])
    (bounded : ∀ lines ∈ log.files, Bounded limits lines) (next : Call Line) :
    ∀ lines ∈ (log.call limits next).files, Bounded limits lines := by
  have roomBounded : ∀ characters, ∀ lines ∈ (log.makeRoom limits characters).files,
      Bounded limits lines := by
    intro characters lines member
    unfold RotatingFile.makeRoom at member
    split at member
    · rcases files_doRollover member with rfl | earlier
      · exact Or.inl (Nat.zero_le 1)
      · exact bounded lines earlier
    · exact bounded lines member
  cases next with
  | lost characters => exact roomBounded characters
  | emit line =>
      intro lines member
      rcases List.mem_cons.mp member with rfl | isBackup
      · have room := file_makeRoom limits hasBackups (limits.characters line)
        rcases room with isEmpty | fits
        · left
          rw [RotatingFile.call]
          dsimp only
          rw [isEmpty]
          exact Nat.le_refl 1
        · exact Or.inr ⟨_, line, rfl, fits⟩
      · exact roomBounded _ lines (List.mem_cons_of_mem _ isBackup)

end Kept

/-- **Rotation.** From no files on, with at least one backup: the files hold the last lines that were
written; before one is dropped there are all backups, each of which was full; and no file goes
further beyond the limit than its last line. -/
theorem run_spec {backupCount : Nat} (hasBackups : 0 < backupCount) (calls : List (Call Line)) :
    Kept limits backupCount calls (emitted calls) ((empty backupCount).run limits calls) ∧
      ∀ lines ∈ ((empty backupCount).run limits calls).files, Bounded limits lines := by
  induction calls using List.reverseRecOn with
  | nil =>
      refine ⟨kept_empty limits backupCount, ?_⟩
      intro lines member
      rcases List.mem_cons.mp member with rfl | isBackup
      · exact Or.inl (Nat.zero_le 1)
      · obtain ⟨backup, inBackups, isLines⟩ := List.mem_filterMap.mp isBackup
        rw [List.eq_of_mem_replicate inBackups] at isLines
        cases isLines
  | append_singleton earlier next inductionHypothesis =>
      obtain ⟨kept, bounded⟩ := inductionHypothesis
      have written : (empty backupCount).run limits (earlier ++ [next]) =
          ((empty backupCount).run limits earlier).call limits next := by
        rw [run, List.foldl_append]
        rfl
      have stillBackups : ((empty backupCount).run limits earlier).backups ≠ [] := by
        obtain ⟨full, missing, areBackups, count, -⟩ := kept
        rw [areBackups]
        intro none
        have noLength := congrArg List.length none
        simp only [filled, List.length_append, List.length_map, List.length_replicate,
          List.length_nil] at noLength
        omega
      rw [written]
      exact ⟨kept.call next, bounded_call stillBackups bounded next⟩

end RotatingFile

end QuAIA.Library
