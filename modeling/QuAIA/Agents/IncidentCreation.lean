import QuAIA.Common.AgentBase
import QuAIA.Library.ListReplace
import QuAIA.Library.StepSystem

/-!
Contract: the concurrent runs of one `IncidentCreationAgent` and their calls of the
tool `_save_artifacts`.

Owns: the tool, the steps of the runs, and the condition under which every call
of the tool saves the files of the message that its own run received.

Does not own: the other tools and the language model, which decides when the
tool is called. The tool reads the shared message once; what it does before and
after is invisible to other runs, so a call is one step.
-/

set_option autoImplicit false

namespace QuAIA.Agents

open QuAIA.Common
open QuAIA.Library

/-! ## Saving files -/

/-- `ATTACHMENTS_LOCAL_DESTINATION_FOLDER_PATH` and `MCP_SERVER_ATTACHMENTS_FOLDER_PATH`. -/
structure AttachmentFolders where
  localFolder : String
  mcpFolder : String

/-- The names and bytes of the raw parts, in order. -/
def files (message : Message) : List (String × List UInt8) :=
  message.parts.filterMap fun part => part.raw?.map fun raw => (part.filename, raw)

/-- `posixpath.join` of two components. -/
def posixJoin (folder name : String) : String :=
  if name.toList.head? = some '/' then name
  else if folder = "" ∨ folder.toList.getLast? = some '/' then folder ++ name
  else folder ++ "/" ++ name

def safeFilename (uniqueId filename : String) : String :=
  uniqueId ++ "_" ++ if filename = "" then "attachment" else filename

/-- One pass of the loop body: the id drawn, and whether the file could be written.
An exception in the body is logged and the loop goes on. -/
structure FileAttempt where
  uniqueId : String
  written : Bool
deriving DecidableEq, Repr

/-- The ids drawn for the files, the files written, by their local path, and the paths
returned. -/
structure SavedArtifacts where
  uniqueIds : List String
  written : List (String × List UInt8)
  paths : List String
deriving DecidableEq, Repr

def saveFiles (folders : AttachmentFolders) (attempts : Nat → FileAttempt) :
    Nat → List (String × List UInt8) → SavedArtifacts
  | _, [] => ⟨[], [], []⟩
  | count, (filename, raw) :: rest =>
      let others := saveFiles folders attempts (count + 1) rest
      let uniqueId := (attempts count).uniqueId
      let name := safeFilename uniqueId filename
      if (attempts count).written then
        ⟨uniqueId :: others.uniqueIds, (posixJoin folders.localFolder name, raw) :: others.written,
          posixJoin folders.mcpFolder name :: others.paths⟩
      else { others with uniqueIds := uniqueId :: others.uniqueIds }

/-- `_save_artifacts`. Nothing is returned when the folder cannot be created. -/
def saveArtifacts (folders : AttachmentFolders) (latestReceivedMessage : Option Message)
    (folderCreated : Bool) (attempts : Nat → FileAttempt) : Except String SavedArtifacts :=
  if folderCreated then
    match latestReceivedMessage with
    | none => .error "'NoneType' object has no attribute 'parts'"
    | some message => .ok (saveFiles folders attempts 0 (files message))
  else .error "the folder cannot be created"

/-! ### Names -/

/-- The first characters of a UUID, which is hexadecimal. -/
def IsUniqueId (uniqueId : String) : Prop := uniqueId.length = 8 ∧ '/' ∉ uniqueId.toList

theorem toList_safeFilename (uniqueId filename : String) :
    ∃ rest, (safeFilename uniqueId filename).toList = uniqueId.toList ++ '_' :: rest := by
  refine ⟨(if filename = "" then "attachment" else filename).toList, ?_⟩
  rw [safeFilename, String.toList_append, String.toList_append, List.append_assoc]
  rfl

theorem head?_safeFilename {uniqueId : String} (isId : IsUniqueId uniqueId) (filename : String) :
    (safeFilename uniqueId filename).toList.head? ≠ some '/' := by
  obtain ⟨rest, named⟩ := toList_safeFilename uniqueId filename
  rw [named, List.head?_append]
  intro absolute
  cases first : uniqueId.toList.head? with
  | none => simp [first] at absolute
  | some character =>
      obtain rfl : character = '/' := by simpa [first] using absolute
      exact isId.2 (List.mem_of_mem_head? first)

theorem safeFilename_injective {uniqueId uniqueId' filename filename' : String}
    (isId : IsUniqueId uniqueId) (isId' : IsUniqueId uniqueId')
    (same : safeFilename uniqueId filename = safeFilename uniqueId' filename') :
    uniqueId = uniqueId' := by
  obtain ⟨rest, named⟩ := toList_safeFilename uniqueId filename
  obtain ⟨rest', named'⟩ := toList_safeFilename uniqueId' filename'
  rw [same, named'] at named
  have sameLength : uniqueId'.toList.length = uniqueId.toList.length := by
    rw [String.length_toList, String.length_toList, isId.1, isId'.1]
  exact String.toList_injective (List.append_inj_left named sameLength).symm

/-- A relative name is put behind the folder, whatever the name is. -/
theorem posixJoin_injective {folder first second : String}
    (relative : first.toList.head? ≠ some '/') (relative' : second.toList.head? ≠ some '/')
    (same : posixJoin folder first = posixJoin folder second) : first = second := by
  rw [posixJoin, posixJoin, if_neg relative, if_neg relative'] at same
  split at same
  · exact (String.append_right_inj folder).mp same
  · exact (String.append_right_inj _).mp same

/-- The paths of files in a folder, each under the id drawn for it. -/
def pathsIn (folder : String) (uniqueIds : List String) (saved : List (String × List UInt8)) :
    List String :=
  uniqueIds.zipWith (fun uniqueId file => posixJoin folder (safeFilename uniqueId file.1)) saved

/-- Under distinct ids every file has a path of its own. -/
theorem nodup_pathsIn {uniqueIds : List String} (distinct : uniqueIds.Nodup)
    (areIds : ∀ uniqueId ∈ uniqueIds, IsUniqueId uniqueId) (folder : String)
    {saved : List (String × List UInt8)} (sameLength : uniqueIds.length = saved.length) :
    (pathsIn folder uniqueIds saved).Nodup := by
  rw [pathsIn, ← List.map_uncurry_zip_eq_zipWith]
  have drawn : ((uniqueIds.zip saved).map Prod.fst).Nodup := by
    rw [List.map_fst_zip sameLength.le]
    exact distinct
  apply List.Nodup.map_on
  · rintro ⟨uniqueId, file⟩ isSaved ⟨uniqueId', file'⟩ isSaved' same
    have isId := areIds _ (List.of_mem_zip isSaved).1
    have isId' := areIds _ (List.of_mem_zip isSaved').1
    have sameName := posixJoin_injective (head?_safeFilename isId file.1)
      (head?_safeFilename isId' file'.1) same
    exact List.inj_on_of_nodup_map drawn isSaved isSaved'
      (safeFilename_injective isId isId' sameName)
  · exact List.Nodup.of_map Prod.fst drawn

/-- A call saved exactly the files of a message, in order, each under the id drawn for it, and
returned their paths. When the ids drawn are distinct, so are the names. -/
structure SavedArtifacts.SaveMessage (folders : AttachmentFolders) (message : Message)
    (saved : SavedArtifacts) : Prop where
  drawn : saved.uniqueIds.length = (files message).length
  written : saved.written =
    (pathsIn folders.localFolder saved.uniqueIds (files message)).zip
      ((files message).map Prod.snd)
  paths : saved.paths = pathsIn folders.mcpFolder saved.uniqueIds (files message)
  distinct : saved.uniqueIds.Nodup → (∀ uniqueId ∈ saved.uniqueIds, IsUniqueId uniqueId) →
    (saved.written.map Prod.fst).Nodup ∧ saved.paths.Nodup

def SavesMessage (folders : AttachmentFolders) (message : Message)
    (outcome : Except String SavedArtifacts) : Prop :=
  ∃ saved : SavedArtifacts, outcome = .ok saved ∧ saved.SaveMessage folders message

/-- When every file can be written, all are saved, under the ids that were drawn. -/
theorem saveFiles_of_written {folders : AttachmentFolders} {attempts : Nat → FileAttempt}
    {saved : List (String × List UInt8)} {count : Nat}
    (written : ∀ position < saved.length, (attempts (count + position)).written = true) :
    ∃ uniqueIds : List String, uniqueIds.length = saved.length ∧
      saveFiles folders attempts count saved = {
        uniqueIds
        written := (pathsIn folders.localFolder uniqueIds saved).zip (saved.map Prod.snd)
        paths := pathsIn folders.mcpFolder uniqueIds saved } := by
  induction saved generalizing count with
  | nil => exact ⟨[], rfl, rfl⟩
  | cons file rest inductionHypothesis =>
      have first : (attempts count).written = true := written 0 (Nat.succ_pos _)
      have others : ∀ position < rest.length,
          (attempts (count + 1 + position)).written = true := by
        intro position within
        have later := written (position + 1) (Nat.succ_lt_succ within)
        rw [show count + 1 + position = count + (position + 1) by omega]
        exact later
      obtain ⟨uniqueIds, sameLength, isSaved⟩ := inductionHypothesis others
      refine ⟨(attempts count).uniqueId :: uniqueIds, ?_, ?_⟩
      · rw [List.length_cons, List.length_cons, sameLength]
      · show (if (attempts count).written then _ else _) = _
        rw [if_pos first, isSaved]
        rfl

theorem saveMessage_of_written {folders : AttachmentFolders} {attempts : Nat → FileAttempt}
    {message : Message}
    (written : ∀ position < (files message).length, (attempts position).written = true) :
    (saveFiles folders attempts 0 (files message)).SaveMessage folders message := by
  have fromStart : ∀ position < (files message).length,
      (attempts (0 + position)).written = true := by
    intro position within
    rw [Nat.zero_add]
    exact written position within
  obtain ⟨uniqueIds, sameLength, isSaved⟩ :=
    @saveFiles_of_written folders attempts (files message) 0 fromStart
  rw [isSaved]
  refine ⟨sameLength, rfl, rfl, fun distinct areIds => ⟨?_, ?_⟩⟩
  · rw [List.map_fst_zip]
    · exact nodup_pathsIn distinct areIds folders.localFolder sameLength
    · rw [pathsIn, List.length_zipWith, List.length_map]
      exact Nat.min_le_right _ _
  · exact nodup_pathsIn distinct areIds folders.mcpFolder sameLength

/-! ## Runs -/

structure IncidentRun where
  receivedMessage : Message
  active : Bool
  saves : List (Except String SavedArtifacts)
deriving DecidableEq

structure IncidentCreationAgent (Usage Trace : Type) where
  agent : AgentBase Usage Trace
  runs : List IncidentRun
deriving DecidableEq

/-- A new call of `run`, or what happens in one of the runs. -/
inductive IncidentEvent (Usage Trace : Type) where
  | runStarted (receivedMessage : Message)
  | saveArtifacts (index : Nat) (folderCreated : Bool) (attempts : Nat → FileAttempt)
  | runFinished (index : Nat) (result : ExecutionResult Usage Trace)
  | runCancelled (index : Nat)

section Steps

variable {Usage Trace : Type} (folders : AttachmentFolders)

def IncidentCreationAgent.initial : IncidentCreationAgent Usage Trace := ⟨AgentBase.initial, []⟩

def IncidentCreationAgent.step (state : IncidentCreationAgent Usage Trace) :
    IncidentEvent Usage Trace → Option (IncidentCreationAgent Usage Trace)
  | .runStarted receivedMessage =>
      some ⟨state.agent.receive receivedMessage, state.runs ++ [⟨receivedMessage, true, []⟩]⟩
  | .saveArtifacts index folderCreated attempts => do
      let run ← state.runs[index]?
      guard run.active
      let outcome := saveArtifacts folders state.agent.latestReceivedMessage folderCreated attempts
      let saves := run.saves ++ [outcome]
      return { state with runs := state.runs.set index { run with saves } }
  | .runFinished index result => do
      let run ← state.runs[index]?
      guard run.active
      return ⟨(state.agent.finish result).1, state.runs.set index { run with active := false }⟩
  | .runCancelled index => do
      let run ← state.runs[index]?
      guard run.active
      return { state with runs := state.runs.set index { run with active := false } }

/-- Every call of the tool in the run saved the files of the run's message. -/
def IncidentRun.SavesOwn (run : IncidentRun) : Prop :=
  ∀ outcome ∈ run.saves, SavesMessage folders run.receivedMessage outcome

def IncidentCreationAgent.SavesOwn (state : IncidentCreationAgent Usage Trace) : Prop :=
  ∀ run ∈ state.runs, run.SavesOwn folders

/-- Where the tool is called, the message received last has the files of the caller's
message, the folder can be created, and every file can be written. -/
def IncidentCreationAgent.ReadsOwn (state : IncidentCreationAgent Usage Trace) :
    IncidentEvent Usage Trace → Prop
  | .saveArtifacts index folderCreated attempts =>
      ∀ run ∈ state.runs[index]?,
        (∃ latest ∈ state.agent.latestReceivedMessage,
          files latest = files run.receivedMessage) ∧
        folderCreated = true ∧
        ∀ position < (files run.receivedMessage).length, (attempts position).written = true
  | _ => True

variable {folders}

theorem savesMessage_of_readsOwn {message : Message} {latestReceivedMessage : Option Message}
    {folderCreated : Bool} {attempts : Nat → FileAttempt}
    (reads : ∃ latest ∈ latestReceivedMessage, files latest = files message)
    (created : folderCreated = true)
    (written : ∀ position < (files message).length, (attempts position).written = true) :
    SavesMessage folders message
      (saveArtifacts folders latestReceivedMessage folderCreated attempts) := by
  obtain ⟨latest, isLatest, sameFiles⟩ := reads
  obtain rfl : latestReceivedMessage = some latest := isLatest
  rw [saveArtifacts, if_pos created, sameFiles]
  exact ⟨_, rfl, saveMessage_of_written written⟩

/-- **Step lemma.** A call that reads the files of its own run's message saves
these. -/
theorem IncidentCreationAgent.savesOwn_step (state : IncidentCreationAgent Usage Trace)
    (event : IncidentEvent Usage Trace) (next : IncidentCreationAgent Usage Trace)
    (own : state.SavesOwn folders) (reads : state.ReadsOwn event)
    (step : state.step folders event = some next) : next.SavesOwn folders := by
  cases event with
  | runStarted receivedMessage =>
      cases step
      exact forall_mem_concat own nofun
  | saveArtifacts index folderCreated attempts =>
      simp only [IncidentCreationAgent.step, Option.bind_eq_bind, Option.bind_eq_some_iff,
        Option.guard_eq_some', exists_const, Option.pure_def, Option.some.injEq] at step
      obtain ⟨run, found, -, rfl⟩ := step
      obtain ⟨sameFiles, created, written⟩ := reads run found
      have runOwn : run.SavesOwn folders := own run (List.mem_of_getElem? found)
      apply forall_mem_set own
      apply forall_mem_concat runOwn
      exact savesMessage_of_readsOwn sameFiles created written
  | runFinished index result =>
      simp only [IncidentCreationAgent.step, Option.bind_eq_bind, Option.bind_eq_some_iff,
        Option.guard_eq_some', exists_const, Option.pure_def, Option.some.injEq] at step
      obtain ⟨run, found, -, rfl⟩ := step
      have runOwn : run.SavesOwn folders := own run (List.mem_of_getElem? found)
      exact forall_mem_set own runOwn
  | runCancelled index =>
      simp only [IncidentCreationAgent.step, Option.bind_eq_bind, Option.bind_eq_some_iff,
        Option.guard_eq_some', exists_const, Option.pure_def, Option.some.injEq] at step
      obtain ⟨run, found, -, rfl⟩ := step
      have runOwn : run.SavesOwn folders := own run (List.mem_of_getElem? found)
      exact forall_mem_set own runOwn

/-- **Isolation of attachments.** In every run of the instance in which each call of
the tool reads the files of the caller's message and can write them, every call
saves exactly these. -/
theorem attachments_isolated {events : List (IncidentEvent Usage Trace)}
    (along : StepSystem.Along (IncidentCreationAgent.step folders)
      IncidentCreationAgent.ReadsOwn IncidentCreationAgent.initial events) :
    StepSystem.Throughout (IncidentCreationAgent.step folders)
      (IncidentCreationAgent.SavesOwn folders) IncidentCreationAgent.initial events :=
  StepSystem.throughout_of_along IncidentCreationAgent.savesOwn_step nofun along

instance (state : IncidentCreationAgent Usage Trace) : DecidablePred state.ReadsOwn
  | .saveArtifacts index folderCreated attempts =>
      inferInstanceAs (Decidable (∀ run ∈ state.runs[index]?,
        (∃ latest ∈ state.agent.latestReceivedMessage,
          files latest = files run.receivedMessage) ∧
        folderCreated = true ∧
        ∀ position < (files run.receivedMessage).length, (attempts position).written = true))
  | .runStarted _ => instDecidableTrue
  | .runFinished _ _ => instDecidableTrue
  | .runCancelled _ => instDecidableTrue

end Steps

/-! ### Two incidents -/

/-- A message with one file. -/
def Message.withFile (filename : String) (byte : UInt8) : Message :=
  ⟨[⟨.text "incident", "text/plain", ""⟩, ⟨.raw [byte], "image/png", filename⟩]⟩

def sameId : Nat → FileAttempt := fun _ => ⟨"0a1b2c3d", true⟩

def tmpFolders : AttachmentFolders := ⟨"/tmp/local", "/tmp/mcp"⟩

/-- A second run starts before the first one calls the tool: the first run saves the
file of the second. -/
theorem attachment_of_other_run :
    ∃ final ∈ StepSystem.run (IncidentCreationAgent.step tmpFolders)
        (IncidentCreationAgent.initial : IncidentCreationAgent Nat String)
        [.runStarted (Message.withFile "first.png" 1),
          .runStarted (Message.withFile "second.png" 2), .saveArtifacts 0 true sameId],
      (∃ run ∈ final.runs[0]?, run.receivedMessage = Message.withFile "first.png" 1 ∧
        run.saves = [.ok ⟨["0a1b2c3d"], [("/tmp/local/0a1b2c3d_second.png", [2])],
          ["/tmp/mcp/0a1b2c3d_second.png"]⟩]) ∧
      ¬final.SavesOwn tmpFolders := by
  have ends : ∃ final ∈ StepSystem.run (IncidentCreationAgent.step tmpFolders)
        (IncidentCreationAgent.initial : IncidentCreationAgent Nat String)
        [.runStarted (Message.withFile "first.png" 1),
          .runStarted (Message.withFile "second.png" 2), .saveArtifacts 0 true sameId],
      ∃ run ∈ final.runs[0]?, run.receivedMessage = Message.withFile "first.png" 1 ∧
        run.saves = [.ok ⟨["0a1b2c3d"], [("/tmp/local/0a1b2c3d_second.png", [2])],
          ["/tmp/mcp/0a1b2c3d_second.png"]⟩] := by
    decide
  obtain ⟨final, ran, run, found, received, saved⟩ := ends
  refine ⟨final, ran, ⟨run, found, received, saved⟩, ?_⟩
  intro own
  obtain ⟨saves, same, saving⟩ :=
    own run (List.mem_of_getElem? found) _ (by rw [saved]; exact List.mem_singleton.mpr rfl)
  cases same
  have sameBytes : [([2] : List UInt8)] = [[1]] := by
    have written := congrArg (List.map Prod.snd) saving.written
    rw [received] at written
    exact written
  exact absurd sameBytes (by decide)

/-- The runs follow each other: each saves its own file. -/
theorem attachments_isolated_sequential :
    StepSystem.Throughout (IncidentCreationAgent.step tmpFolders)
      (IncidentCreationAgent.SavesOwn tmpFolders)
      (IncidentCreationAgent.initial : IncidentCreationAgent Nat String)
      [.runStarted (Message.withFile "first.png" 1), .saveArtifacts 0 true sameId,
        .runStarted (Message.withFile "second.png" 2), .saveArtifacts 1 true sameId] :=
  attachments_isolated (by decide)

end QuAIA.Agents
