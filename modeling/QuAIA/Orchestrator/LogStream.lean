import QuAIA.Common.Models
import QuAIA.Library.Text

/-!
Contract: the artifact chunks of a streamed task, as the orchestrator sorts them
into log lines and collected artifacts (`_handle_stream_chunk`).

Owns: identification of the log stream, its accumulator, the consolidated log
artifact, and what a whole sequence of chunks collects and forwards.

Does not own: what the task history and the streaming hub do with a forwarded batch.
-/

set_option autoImplicit false

namespace QuAIA.Orchestrator

open QuAIA.Common
open QuAIA.Library

/-! ## The code -/

/-- `TaskArtifactUpdateEvent`. -/
structure TaskArtifactUpdate where
  artifact : Artifact
  lastChunk : Bool
deriving DecidableEq, Repr

/-- `_LogStreamState`. -/
structure LogStreamState where
  artifactId : Option String
  lines : List String
deriving DecidableEq, Repr

/-- What the handler changes: the collected artifacts, the accumulator, and the
batches it gives to the task history and to the streaming hub. -/
structure StreamState where
  collected : List Artifact
  log : LogStreamState
  forwarded : List (List String)
deriving DecidableEq, Repr

def StreamState.initial : StreamState := ⟨[], ⟨none, []⟩, []⟩

/-- `_build_logs_artifact`. -/
def buildLogsArtifact (logLines : List String) : Artifact :=
  { artifactId := ""
    name := ArtifactName.logs
    parts := [⟨.raw (Text.encode ("\n".intercalate logLines)), "text/plain",
      "execution_logs.txt"⟩] }

/-- `part.HasField("raw") and part.media_type == "text/plain"`. -/
def isPlainTextFile (part : Part) : Bool :=
  part.raw?.isSome && part.mediaType == "text/plain"

/-- The fallback by content type: some part, and no part but plain-text files. -/
def onlyPlainTextFiles (artifact : Artifact) : Bool :=
  !artifact.parts.isEmpty && artifact.parts.all isPlainTextFile

/-- `_is_logs_chunk`. -/
def isLogsChunk (artifact : Artifact) (logState : LogStreamState) : Bool :=
  if artifact.name = ArtifactName.logs then true
  else if logState.artifactId = some artifact.artifactId then true
  else onlyPlainTextFiles artifact

/-- The lines of the plain-text files of an artifact. -/
def newLines (artifact : Artifact) : List String :=
  artifact.parts.flatMap fun part =>
    match part.raw? with
    | some raw =>
        if part.mediaType = "text/plain" then Text.splitLines (Text.decodeReplacing raw)
        else []
    | none => []

/-- The accumulator after a log chunk: the first one anchors the stream. -/
def LogStreamState.receive (logState : LogStreamState) (artifact : Artifact) :
    LogStreamState :=
  ⟨some (logState.artifactId.getD artifact.artifactId), logState.lines ++ newLines artifact⟩

/-- `_handle_stream_chunk`. -/
def handleStreamChunk (state : StreamState) (update : TaskArtifactUpdate) : StreamState :=
  if isLogsChunk update.artifact state.log then
    let log := state.log.receive update.artifact
    { log := log
      forwarded :=
        if (newLines update.artifact).isEmpty then state.forwarded
        else state.forwarded ++ [newLines update.artifact]
      collected :=
        if update.lastChunk && !log.lines.isEmpty then
          state.collected ++ [buildLogsArtifact log.lines]
        else state.collected }
  else { state with collected := state.collected ++ [update.artifact] }

def handleStreamChunks (state : StreamState) (updates : List TaskArtifactUpdate) :
    StreamState :=
  updates.foldl handleStreamChunk state

@[simp] theorem handleStreamChunks_nil (state : StreamState) :
    handleStreamChunks state [] = state := rfl

@[simp] theorem handleStreamChunks_cons (state : StreamState) (update : TaskArtifactUpdate)
    (rest : List TaskArtifactUpdate) :
    handleStreamChunks state (update :: rest) =
      handleStreamChunks (handleStreamChunk state update) rest := rfl

/-! ## One chunk -/

theorem handleStreamChunk_log {state : StreamState} {update : TaskArtifactUpdate}
    (isLog : isLogsChunk update.artifact state.log = true) :
    (handleStreamChunk state update).log = state.log.receive update.artifact := by
  simp [handleStreamChunk, isLog]

theorem handleStreamChunk_other {state : StreamState} {update : TaskArtifactUpdate}
    (notLog : isLogsChunk update.artifact state.log = false) :
    handleStreamChunk state update =
      { state with collected := state.collected ++ [update.artifact] } := by
  simp [handleStreamChunk, notLog]

theorem name_ne_of_not_isLogsChunk {artifact : Artifact} {logState : LogStreamState}
    (notLog : isLogsChunk artifact logState = false) :
    artifact.name ≠ ArtifactName.logs := by
  intro named
  simp [isLogsChunk, named] at notLog

/-- The lines a chunk adds to the stream. -/
def streamedBy (state : StreamState) (update : TaskArtifactUpdate) : List String :=
  if isLogsChunk update.artifact state.log then newLines update.artifact else []

theorem handleStreamChunk_lines (state : StreamState) (update : TaskArtifactUpdate) :
    (handleStreamChunk state update).log.lines =
      state.log.lines ++ streamedBy state update := by
  unfold streamedBy
  cases isLog : isLogsChunk update.artifact state.log with
  | true => rw [handleStreamChunk_log isLog]; rfl
  | false => rw [handleStreamChunk_other isLog]; simp

/-! ## Anchoring -/

/-- The stream is anchored, and the artifact has neither its name nor its id. -/
def Unrelated (logState : LogStreamState) (artifact : Artifact) : Prop :=
  artifact.name ≠ ArtifactName.logs ∧ logState.artifactId ≠ none ∧
    logState.artifactId ≠ some artifact.artifactId

instance (logState : LogStreamState) (artifact : Artifact) :
    Decidable (Unrelated logState artifact) :=
  inferInstanceAs (Decidable (_ ∧ _ ∧ _))

/-- The artifact is appended as it is, and the log buffer stays. -/
def PassedOn (state : StreamState) (update : TaskArtifactUpdate) : Prop :=
  (handleStreamChunk state update).collected = state.collected ++ [update.artifact] ∧
    (handleStreamChunk state update).log.lines = state.log.lines

theorem isLogsChunk_unrelated {logState : LogStreamState} {artifact : Artifact}
    (unrelated : Unrelated logState artifact) :
    isLogsChunk artifact logState = onlyPlainTextFiles artifact := by
  obtain ⟨otherName, -, otherId⟩ := unrelated
  simp [isLogsChunk, otherName, otherId]

theorem passedOn_iff_of_unrelated {state : StreamState} {update : TaskArtifactUpdate}
    (unrelated : Unrelated state.log update.artifact) :
    PassedOn state update ↔ onlyPlainTextFiles update.artifact = false := by
  have identified := isLogsChunk_unrelated unrelated
  cases plain : onlyPlainTextFiles update.artifact with
  | false =>
      rw [plain] at identified
      simp [PassedOn, handleStreamChunk_other identified]
  | true =>
      rw [plain] at identified
      simp only [PassedOn, reduceCtorEq, iff_false, not_and]
      intro appended
      -- What is appended here carries the name of the logs.
      have sameName : update.artifact.name = ArtifactName.logs := by
        simp only [handleStreamChunk, identified, if_true] at appended
        split at appended
        · rw [List.append_cancel_left_eq, List.cons.injEq] at appended
          exact appended.1 ▸ rfl
        · simp at appended
      exact absurd sameName unrelated.1

/-- In a sequence of chunks every unrelated artifact after the anchoring is passed on
exactly if none of them consists of plain-text files only. -/
theorem unrelated_passedOn_iff (updates : List TaskArtifactUpdate) :
    (∀ before update after, updates = before ++ update :: after →
        Unrelated (handleStreamChunks .initial before).log update.artifact →
        PassedOn (handleStreamChunks .initial before) update) ↔
      ∀ before update after, updates = before ++ update :: after →
        Unrelated (handleStreamChunks .initial before).log update.artifact →
        onlyPlainTextFiles update.artifact = false := by
  constructor
  · intro passed before update after split unrelated
    exact (passedOn_iff_of_unrelated unrelated).mp
      (passed before update after split unrelated)
  · intro mixed before update after split unrelated
    exact (passedOn_iff_of_unrelated unrelated).mpr
      (mixed before update after split unrelated)

/-- A chunk of logs without a line yet. -/
def firstLogs : TaskArtifactUpdate := ⟨⟨"logs-1", ArtifactName.logs, []⟩, false⟩

/-- A report that an agent returns as a plain-text file. -/
def plainReport : TaskArtifactUpdate :=
  ⟨⟨"report-1", "report", [⟨.raw [0x6F, 0x6B], "text/plain", "report.txt"⟩]⟩, false⟩

/-- The report is read as logs, and not collected. -/
theorem unrelated_not_passedOn :
    ¬ ∀ updates before update after, updates = before ++ update :: after →
        Unrelated (handleStreamChunks .initial before).log update.artifact →
        PassedOn (handleStreamChunks .initial before) update := by
  intro passed
  have unrelated :
      Unrelated (handleStreamChunks .initial [firstLogs]).log plainReport.artifact := by
    decide
  have kept := passed [firstLogs, plainReport] [firstLogs] plainReport [] rfl unrelated
  have mixed := (passedOn_iff_of_unrelated unrelated).mp kept
  exact absurd mixed (by decide)

/-! ## Consolidation -/

/-- The lines of a consolidated log artifact. -/
def artifactLines (artifact : Artifact) : List String :=
  artifact.parts.flatMap fun part =>
    match part.raw? with
    | some raw => Text.fieldsOfLines (Text.decodeReplacing raw)
    | none => []

/-- The lines of all collected log artifacts, in order. -/
def consolidatedLines (collected : List Artifact) : List String :=
  collected.flatMap fun artifact =>
    if artifact.name = ArtifactName.logs then artifactLines artifact else []

/-- The log lines of a sequence of chunks, in order. -/
def streamedLines (state : StreamState) : List TaskArtifactUpdate → List String
  | [] => []
  | update :: rest =>
      streamedBy state update ++ streamedLines (handleStreamChunk state update) rest

/-- A log chunk that is flagged as the last. -/
def closesLogs (state : StreamState) (update : TaskArtifactUpdate) : Bool :=
  isLogsChunk update.artifact state.log && update.lastChunk

/-- The chunks up to and including the last log chunk flagged as the last; none if no
log chunk is flagged. -/
def throughLastFlag (state : StreamState) : List TaskArtifactUpdate → List TaskArtifactUpdate
  | [] => []
  | update :: rest =>
      let tail := throughLastFlag (handleStreamChunk state update) rest
      if tail.isEmpty && !closesLogs state update then [] else update :: tail

/-- The lines that all flagged log chunks but the last one collect. -/
def earlierLines (state : StreamState) : List TaskArtifactUpdate → List String
  | [] => []
  | update :: rest =>
      let next := handleStreamChunk state update
      (if closesLogs state update && !(throughLastFlag next rest).isEmpty then
        next.log.lines else []) ++ earlierLines next rest

/-- No line is streamed up to a flagged log chunk that another flagged one follows. -/
def LinesFlaggedOnce (updates : List TaskArtifactUpdate) : Prop :=
  ∀ before update between last after,
    updates = before ++ update :: (between ++ last :: after) →
    closesLogs (handleStreamChunks .initial before) update = true →
    closesLogs (handleStreamChunks .initial (before ++ update :: between)) last = true →
    streamedLines .initial (before ++ [update]) = []

/-- Lines as the splitting leaves them. -/
def LogStreamState.Clean (logState : LogStreamState) : Prop :=
  ∀ line ∈ logState.lines, '\n' ∉ line.toList

theorem unbroken_of_mem_newLines {artifact : Artifact} {line : String}
    (member : line ∈ newLines artifact) : Text.Unbroken line.toList := by
  obtain ⟨part, -, inside⟩ := List.mem_flatMap.mp member
  cases raw : part.raw? with
  | none => simp [raw] at inside
  | some bytes =>
      simp only [raw] at inside
      split at inside
      · exact Text.unbroken_of_mem_splitLines inside
      · cases inside

theorem LogStreamState.Clean.step {state : StreamState} (clean : state.log.Clean)
    (update : TaskArtifactUpdate) : (handleStreamChunk state update).log.Clean := by
  intro line member
  rw [handleStreamChunk_lines, List.mem_append] at member
  rcases member with old | added
  · exact clean line old
  · unfold streamedBy at added
    split at added
    · exact (unbroken_of_mem_newLines added).notNewline
    · cases added

/-- The consolidated artifact gives its lines back. -/
theorem artifactLines_buildLogsArtifact {logState : LogStreamState}
    (clean : logState.Clean) (nonempty : logState.lines ≠ []) :
    artifactLines (buildLogsArtifact logState.lines) = logState.lines := by
  simp [artifactLines, buildLogsArtifact, Part.raw?, Text.decodeReplacing_encode,
    Text.fieldsOfLines_intercalate nonempty clean]

/-- A flagged log chunk collects all lines so far, and no other chunk collects lines. -/
theorem consolidatedLines_step {state : StreamState} (clean : state.log.Clean)
    (update : TaskArtifactUpdate) :
    consolidatedLines (handleStreamChunk state update).collected =
      consolidatedLines state.collected ++
        (if closesLogs state update then (handleStreamChunk state update).log.lines
          else []) := by
  cases isLog : isLogsChunk update.artifact state.log with
  | false =>
      rw [handleStreamChunk_other isLog]
      have otherName := name_ne_of_not_isLogsChunk isLog
      simp [consolidatedLines, closesLogs, isLog, otherName]
  | true =>
      have nextClean := clean.step update
      rw [handleStreamChunk_log isLog] at nextClean ⊢
      simp only [handleStreamChunk, isLog, if_true, closesLogs, Bool.true_and]
      cases flagged : update.lastChunk with
      | false => simp
      | true =>
          by_cases empty : (state.log.receive update.artifact).lines = []
          · simp [empty]
          · have readBack := artifactLines_buildLogsArtifact nextClean empty
            have named : (buildLogsArtifact
                (state.log.receive update.artifact).lines).name = ArtifactName.logs := rfl
            simp [empty, consolidatedLines, readBack, named]

theorem throughLastFlag_cons (state : StreamState) (update : TaskArtifactUpdate)
    (rest : List TaskArtifactUpdate) :
    throughLastFlag state (update :: rest) =
      if throughLastFlag (handleStreamChunk state update) rest = [] ∧
          closesLogs state update = false then []
      else update :: throughLastFlag (handleStreamChunk state update) rest := by
  simp only [throughLastFlag, Bool.and_eq_true, List.isEmpty_iff, Bool.not_eq_true']

theorem throughLastFlag_ne_nil_iff (state : StreamState)
    (updates : List TaskArtifactUpdate) :
    throughLastFlag state updates ≠ [] ↔
      ∃ before last after, updates = before ++ last :: after ∧
        closesLogs (handleStreamChunks state before) last = true := by
  induction updates generalizing state with
  | nil => simp [throughLastFlag]
  | cons update rest inductionHypothesis =>
      rw [throughLastFlag_cons]
      constructor
      · intro nonempty
        cases closes : closesLogs state update with
        | true => exact ⟨[], update, rest, rfl, closes⟩
        | false =>
            have tailNonempty :
                throughLastFlag (handleStreamChunk state update) rest ≠ [] := by
              intro empty
              simp [empty, closes] at nonempty
            obtain ⟨before, last, after, split, flagged⟩ :=
              (inductionHypothesis _).mp tailNonempty
            exact ⟨update :: before, last, after, by rw [split]; rfl, flagged⟩
      · rintro ⟨before, last, after, split, flagged⟩
        cases before with
        | nil =>
            rw [List.nil_append, List.cons.injEq] at split
            obtain ⟨rfl, rfl⟩ := split
            rw [handleStreamChunks_nil] at flagged
            simp [flagged]
        | cons first others =>
            rw [List.cons_append, List.cons.injEq] at split
            obtain ⟨rfl, rfl⟩ := split
            have tailNonempty := (inductionHypothesis (handleStreamChunk state update)).mpr
              ⟨others, last, after, rfl, flagged⟩
            simp [tailNonempty]

/-- Nothing is flagged early where nothing is flagged. -/
theorem earlierLines_of_throughLastFlag_nil {state : StreamState}
    {updates : List TaskArtifactUpdate} (none : throughLastFlag state updates = []) :
    earlierLines state updates = [] := by
  induction updates generalizing state with
  | nil => rfl
  | cons update rest inductionHypothesis =>
      rw [throughLastFlag_cons] at none
      split at none
      · rename_i quiet
        simp [earlierLines, quiet.1, inductionHypothesis quiet.1]
      · cases none

/-- What a sequence collects: the lines of the earlier flags, then everything streamed
up to the last one. -/
theorem consolidatedLines_handleStreamChunks {state : StreamState}
    (clean : state.log.Clean) (updates : List TaskArtifactUpdate) :
    consolidatedLines (handleStreamChunks state updates).collected =
      consolidatedLines state.collected ++ earlierLines state updates ++
        (if throughLastFlag state updates = [] then []
          else state.log.lines ++ streamedLines state (throughLastFlag state updates)) := by
  induction updates generalizing state with
  | nil => simp [throughLastFlag, earlierLines]
  | cons update rest inductionHypothesis =>
      have lines := handleStreamChunk_lines state update
      rw [handleStreamChunks_cons, inductionHypothesis (clean.step update),
        consolidatedLines_step clean, throughLastFlag_cons]
      simp only [earlierLines]
      by_cases tail : throughLastFlag (handleStreamChunk state update) rest = []
      · rw [earlierLines_of_throughLastFlag_nil tail]
        cases closes : closesLogs state update with
        | false => simp [tail]
        | true => simp [tail, streamedLines, lines]
      · cases closes : closesLogs state update with
        | false => simp [tail, streamedLines, lines]
        | true => simp [tail, streamedLines, lines]

theorem earlierLines_cons_eq_nil_iff (state : StreamState) (update : TaskArtifactUpdate)
    (rest : List TaskArtifactUpdate) :
    earlierLines state (update :: rest) = [] ↔
      (closesLogs state update = true →
        throughLastFlag (handleStreamChunk state update) rest ≠ [] →
        (handleStreamChunk state update).log.lines = []) ∧
      earlierLines (handleStreamChunk state update) rest = [] := by
  simp only [earlierLines]
  rw [List.append_eq_nil_iff]
  cases closes : closesLogs state update with
  | false => simp
  | true =>
      by_cases tail : throughLastFlag (handleStreamChunk state update) rest = []
      · simp [tail]
      · simp [tail]

theorem earlierLines_eq_nil_iff (state : StreamState) (updates : List TaskArtifactUpdate) :
    earlierLines state updates = [] ↔
      ∀ before update between last after,
        updates = before ++ update :: (between ++ last :: after) →
        closesLogs (handleStreamChunks state before) update = true →
        closesLogs (handleStreamChunks state (before ++ update :: between)) last = true →
        state.log.lines ++ streamedLines state (before ++ [update]) = [] := by
  induction updates generalizing state with
  | nil => simp [earlierLines]
  | cons first rest inductionHypothesis =>
      have lines := handleStreamChunk_lines state first
      have shift : ∀ others, state.log.lines ++ streamedLines state (first :: others) =
          (handleStreamChunk state first).log.lines ++
            streamedLines (handleStreamChunk state first) others := by
        intro others
        rw [lines, List.append_assoc]
        rfl
      rw [earlierLines_cons_eq_nil_iff, inductionHypothesis]
      constructor
      · rintro ⟨head, tail⟩ before update between last after split closes lastCloses
        cases before with
        | nil =>
            rw [List.nil_append, List.cons.injEq] at split
            obtain ⟨rfl, rfl⟩ := split
            have followed := (throughLastFlag_ne_nil_iff (handleStreamChunk state first)
              (between ++ last :: after)).mpr ⟨between, last, after, rfl, lastCloses⟩
            have empty := head closes followed
            rw [List.nil_append, shift, empty]
            rfl
        | cons other others =>
            rw [List.cons_append, List.cons.injEq] at split
            obtain ⟨rfl, rfl⟩ := split
            rw [List.cons_append, shift]
            exact tail others update between last after rfl closes lastCloses
      · intro early
        constructor
        · intro closes followed
          obtain ⟨before, last, after, split, lastCloses⟩ :=
            (throughLastFlag_ne_nil_iff _ _).mp followed
          have empty := early [] first before last after (by rw [split]; rfl) closes
            lastCloses
          rw [List.nil_append, shift, List.append_eq_nil_iff] at empty
          exact empty.1
        · intro before update between last after split closes lastCloses
          have empty := early (first :: before) update between last after
            (by rw [split]; rfl) closes lastCloses
          rwa [List.cons_append, shift] at empty

theorem consolidatedLines_initial (updates : List TaskArtifactUpdate) :
    consolidatedLines (handleStreamChunks .initial updates).collected =
      earlierLines .initial updates ++
        streamedLines .initial (throughLastFlag .initial updates) := by
  have clean : StreamState.initial.log.Clean := by
    intro line member
    cases member
  rw [consolidatedLines_handleStreamChunks clean]
  have nothing : consolidatedLines StreamState.initial.collected = [] := rfl
  rw [nothing, List.nil_append]
  congr 1
  split
  · rename_i empty
    rw [empty]
    rfl
  · exact List.nil_append _

/-- The lines of the consolidated artifacts are the log lines up to the last flagged
chunk, each once, exactly if no line is streamed up to an earlier flagged one. -/
theorem consolidatedLines_eq_iff (updates : List TaskArtifactUpdate) :
    consolidatedLines (handleStreamChunks .initial updates).collected =
        streamedLines .initial (throughLastFlag .initial updates) ↔
      LinesFlaggedOnce updates := by
  rw [consolidatedLines_initial, List.append_left_eq_self, earlierLines_eq_nil_iff]
  rfl

/-- The last chunk of a log artifact of one line. -/
def closingLogs (line : String) : TaskArtifactUpdate :=
  ⟨⟨"logs-1", ArtifactName.logs, [⟨.raw (Text.encode line), "text/plain", ""⟩]⟩, true⟩

/-- With two such chunks the line of the first is collected twice. -/
theorem consolidatedLines_repeats :
    ¬ ∀ updates, consolidatedLines (handleStreamChunks .initial updates).collected =
      streamedLines .initial (throughLastFlag .initial updates) := by
  intro once
  have collected := once [closingLogs "start", closingLogs "stop"]
  rw [consolidatedLines_initial, List.append_left_eq_self, earlierLines_cons_eq_nil_iff]
    at collected
  have followed : throughLastFlag
      (handleStreamChunk .initial (closingLogs "start")) [closingLogs "stop"] ≠ [] := by
    rw [throughLastFlag_ne_nil_iff]
    exact ⟨[], closingLogs "stop", [], rfl, rfl⟩
  have noLines := collected.1 rfl followed
  have added : newLines (closingLogs "start").artifact = ["start"] := by
    simp [newLines, closingLogs, Part.raw?, Text.decodeReplacing_encode]
    decide
  rw [handleStreamChunk_lines, List.append_eq_nil_iff] at noLines
  exact absurd (added.symm.trans noLines.2) (by decide)

end QuAIA.Orchestrator
