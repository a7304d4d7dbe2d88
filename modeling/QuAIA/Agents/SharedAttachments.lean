import QuAIA.Agents.IncidentCreation
import QuAIA.Common.AttachmentHandler

/-!
Contract: the folder that the agents share with the MCP server, over whole runs.

Owns: the passes of `_save_artifacts` against a tree of files, what other processes may do to the
tree, and what both sides find under the returned paths.

Does not own: which ids are drawn. The condition on an id is that no entry of the folder begins
with it.
-/

set_option autoImplicit false

namespace QuAIA.Agents.SharedAttachments

open QuAIA.Common QuAIA.Library QuAIA.Common.AttachmentHandler
open PosixPath PosixPath.FileTree

/-- A file that a pass saved, with the path that it returned. -/
structure SavedFile where
  path : List Char
  filename : Component
  raw : Bytes

structure SharedFolder where
  tree : FileTree Bytes
  saved : List SavedFile

/-- A pass of the loop of `_save_artifacts`, or anything that another process does. -/
inductive FolderEvent where
  | passed (uniqueId filename : String) (raw : Bytes) (outcome : WriteOutcome Bytes)
  | changed (tree : FileTree Bytes)

/-- The local folder as a directory, and the path of the same folder at the MCP server. -/
structure SharedConfig where
  handler : AttachmentConfig
  mcpFolder : String

section Steps

variable (config : SharedConfig)

def savedName (uniqueId filename : String) : Component := (safeFilename uniqueId filename).toList

/-- A pass. What raises in it is logged, and then nothing is returned. -/
def SharedFolder.pass (shared : SharedFolder) (uniqueId filename : String) (raw : Bytes)
    (outcome : WriteOutcome Bytes) : SharedFolder :=
  match shared.tree.attempt config.handler.folder (savedName uniqueId filename) raw outcome with
  | (tree, false) => { shared with tree }
  | (tree, true) =>
      { tree
        saved := shared.saved ++
          [⟨(posixJoin config.mcpFolder (safeFilename uniqueId filename)).toList,
            savedName uniqueId filename, raw⟩] }

def SharedFolder.step (shared : SharedFolder) : FolderEvent → Option SharedFolder
  | .passed uniqueId filename raw outcome => some (shared.pass config uniqueId filename raw outcome)
  | .changed tree => some { shared with tree }

/-- An id without a slash with which no entry of the folder begins. -/
def NewId (tree : FileTree Bytes) (uniqueId : String) : Prop :=
  tree.NewFront config.handler.folder (uniqueId.toList ++ ['_'])

/-- Ids are new, and other processes leave the folder and the saved files. -/
def WellBehaved (shared : SharedFolder) : FolderEvent → Prop
  | .passed uniqueId _ _ _ => NewId config shared.tree uniqueId
  | .changed tree =>
      tree.isDirectory config.handler.folder = true ∧
        ∀ file ∈ shared.saved, tree.entryAt (config.handler.folder ++ [file.filename]) =
          shared.tree.entryAt (config.handler.folder ++ [file.filename])

end Steps

/-! ## Passes -/

section Passes

variable {config : SharedConfig} {tree next : FileTree Bytes} {uniqueId filename : String}

theorem begins_savedName (uniqueId filename : String) :
    uniqueId.toList ++ ['_'] <+: savedName uniqueId filename := by
  refine ⟨(if filename = "" then "attachment" else filename).toList, ?_⟩
  simp [savedName, safeFilename, String.toList_append]

theorem bar_mem (uniqueId : String) : '_' ∈ uniqueId.toList ++ ['_'] :=
  List.mem_append_right _ (List.mem_singleton_self _)

/-- **A pass with a new id** creates a file directly in the folder, if anything, and changes
nothing else. -/
theorem attempt_of_newId (newId : NewId config tree uniqueId) {content : Bytes}
    {outcome : WriteOutcome Bytes} {succeeded : Bool}
    (attempted : tree.attempt config.handler.folder (savedName uniqueId filename) content outcome =
      (next, succeeded)) :
    (succeeded = false ∧ next = tree) ∨
      Plain (savedName uniqueId filename) ∧
        tree.entryAt (config.handler.folder ++ [savedName uniqueId filename]) = none ∧
        ∃ written, (succeeded = true → written = content) ∧ ∀ other, next.entryAt other =
          if other = config.handler.folder ++ [savedName uniqueId filename] then
            some (.file written)
          else tree.entryAt other :=
  tree.attempt_of_newFront newId (bar_mem uniqueId) (by decide)
    (begins_savedName uniqueId filename) attempted

/-- The returned path names the saved file below the folder of the MCP server. -/
theorem components_posixJoin (folder : String) {name : String} (plain : Plain name.toList) :
    components (posixJoin folder name).toList = components folder.toList ++ [name.toList] := by
  have relative : ¬name.toList.head? = some '/' := by
    intro absolute
    exact plain.1 (List.mem_of_mem_head? absolute)
  unfold posixJoin
  rw [if_neg relative, ← components_of_plain plain]
  split
  · rename_i noSeparator
    rcases noSeparator with rfl | separated
    · rfl
    · obtain ⟨front, isFolder⟩ := List.getLast?_eq_some_iff.mp separated
      have joined := components_join front name.toList
      have alone := components_join front []
      rw [← isFolder] at alone
      rw [String.toList_append, isFolder, List.append_assoc, List.singleton_append, joined,
        ← isFolder, alone]
      rw [show components [] = [] from rfl, List.append_nil]
  · rw [String.toList_append, String.toList_append, List.append_assoc]
    exact components_join folder.toList name.toList

end Passes

/-! ## What both sides find -/

section Runs

variable (config : SharedConfig)

/-- Where a path of the MCP server lies, whose folder is the same one. -/
def mcpLocation (path : List Char) : Option (List Component) :=
  let mcp := components config.mcpFolder.toList
  if mcp <+: components path then
    some (config.handler.folder ++ (components path).drop mcp.length)
  else none

structure FolderInvariant (shared : SharedFolder) : Prop where
  isDirectory : shared.tree.isDirectory config.handler.folder = true
  returned : ∀ file ∈ shared.saved, Plain file.filename ∧
    components file.path = components config.mcpFolder.toList ++ [file.filename]
  kept : ∀ file ∈ shared.saved,
    shared.tree.entryAt (config.handler.folder ++ [file.filename]) = some (.file file.raw)
  distinct : (shared.saved.map SavedFile.filename).Nodup

/-- What holds of the folder at any time. -/
structure FolderPromise (shared : SharedFolder) : Prop where
  /-- The MCP server finds the saved bytes under a returned path. -/
  returned : ∀ file ∈ shared.saved,
    (mcpLocation config file.path).bind shared.tree.readBytes = some file.raw
  /-- So do the agents. -/
  fetched : ∀ file ∈ shared.saved,
    fetchFileBytes config.handler shared.tree file.path = .ok (file.raw, file.filename)
  distinct : (shared.saved.map SavedFile.filename).Nodup
  /-- A pass only creates, and only directly in the folder. -/
  creates : ∀ uniqueId filename content outcome next succeeded, NewId config shared.tree uniqueId →
    shared.tree.attempt config.handler.folder (savedName uniqueId filename) content outcome =
      (next, succeeded) →
    next = shared.tree ∨ ∃ component, shared.tree.entryAt (config.handler.folder ++ [component]) =
      none ∧ ∀ other, other ≠ config.handler.folder ++ [component] →
        next.entryAt other = shared.tree.entryAt other
  /-- No attachment is read from elsewhere. -/
  confined : ∀ paths filename content,
    (fetchAllAttachments config.handler shared.tree paths).get? filename = some content →
    shared.tree.entryAt (config.handler.folder ++ [filename]) = some (.file content.data) ∧
      shouldSkipAttachment config.handler filename = false ∧
      isSupportedMimeType config.handler (some content.mediaType) = true ∧
      ∃ path ∈ paths, name path = filename ∧
        getMimeType config.handler path = some content.mediaType
  /-- An attachment that is read is returned. -/
  complete : ∀ paths, ∀ path ∈ paths, ∀ content,
    attachment? config.handler shared.tree path = some content →
    ∃ mediaType, (fetchAllAttachments config.handler shared.tree paths).get? (name path) =
      some ⟨content.data, mediaType⟩

variable {config} {shared : SharedFolder}

theorem name_of_components {path folder : List Char} {filename : Component}
    (isPath : components path = components folder ++ [filename]) : name path = filename := by
  rw [name, isPath, List.getLast?_concat]
  rfl

theorem FolderInvariant.promise (invariant : FolderInvariant config shared) :
    FolderPromise config shared where
  returned file member := by
    obtain ⟨-, isPath⟩ := invariant.returned file member
    unfold mcpLocation
    rw [if_pos (by rw [isPath]; exact List.prefix_append _ _), isPath, List.drop_left,
      Option.bind_some]
    exact (shared.tree.readBytes_eq_some_iff _ _).mpr (invariant.kept file member)
  fetched file member := by
    obtain ⟨plain, isPath⟩ := invariant.returned file member
    exact (fetchFileBytes_eq_ok_iff invariant.isDirectory file.path file.raw file.filename).mpr
      ⟨name_of_components isPath, plain, invariant.kept file member⟩
  distinct := invariant.distinct
  creates uniqueId filename content outcome next succeeded newId attempted := by
    rcases attempt_of_newId newId attempted with ⟨-, same⟩ | ⟨-, absent, written, -, others⟩
    · exact Or.inl same
    · refine Or.inr ⟨_, absent, ?_⟩
      intro other elsewhere
      rw [others, if_neg elsewhere]
  confined paths filename content found := by
    rw [get?_fetchAllAttachments] at found
    obtain ⟨path, member, isAttachment⟩ := List.exists_of_findSome?_eq_some found
    obtain ⟨inPaths, isName⟩ := List.mem_filter.mp member
    obtain rfl := of_decide_eq_true isName
    obtain ⟨kept, -, isFile, guessed, supported⟩ :=
      (attachment?_eq_some_iff invariant.isDirectory path content).mp isAttachment
    exact ⟨isFile, kept, supported, path, List.mem_reverse.mp inPaths, rfl, guessed⟩
  complete paths path inPaths content isAttachment := by
    have some_found : ((fetchAllAttachments config.handler shared.tree paths).get?
        (name path)).isSome = true := by
      rw [get?_fetchAllAttachments, List.findSome?_isSome_iff]
      refine ⟨path, List.mem_filter.mpr ⟨List.mem_reverse.mpr inPaths, decide_eq_true rfl⟩, ?_⟩
      rw [isAttachment]
      rfl
    obtain ⟨other, found⟩ := Option.isSome_iff_exists.mp some_found
    refine ⟨other.mediaType, ?_⟩
    have sameFile : other.data = content.data := by
      rw [get?_fetchAllAttachments] at found
      obtain ⟨otherPath, member, isOther⟩ := List.exists_of_findSome?_eq_some found
      have sameName := of_decide_eq_true (List.mem_filter.mp member).2
      obtain ⟨-, -, otherFile, -⟩ :=
        (attachment?_eq_some_iff invariant.isDirectory otherPath other).mp isOther
      obtain ⟨-, -, isFile, -⟩ :=
        (attachment?_eq_some_iff invariant.isDirectory path content).mp isAttachment
      rw [sameName, isFile] at otherFile
      exact (Entry.file.inj (Option.some.inj otherFile)).symm
    rw [found, ← sameFile]

/-- A file that comes into the folder leaves what the invariant says of the others. -/
theorem FolderInvariant.created (invariant : FolderInvariant config shared)
    {next : FileTree Bytes} {component : Component} {content : Bytes}
    (absent : shared.tree.entryAt (config.handler.folder ++ [component]) = none)
    (others : ∀ other, next.entryAt other =
      if other = config.handler.folder ++ [component] then some (.file content)
      else shared.tree.entryAt other) :
    FolderInvariant config { shared with tree := next } ∧
      component ∉ shared.saved.map SavedFile.filename := by
  have elsewhere : ∀ path, shared.tree.entryAt path ≠ none →
      next.entryAt path = shared.tree.entryAt path := by
    intro path present
    rw [others, if_neg]
    rintro rfl
    exact present absent
  refine ⟨⟨?_, invariant.returned, ?_, invariant.distinct⟩, ?_⟩
  · have isDirectory := (shared.tree.isDirectory_iff _).mp invariant.isDirectory
    rw [next.isDirectory_iff, elsewhere _ (by rw [isDirectory]; exact Option.some_ne_none _)]
    exact isDirectory
  · intro file member
    have isFile := invariant.kept file member
    rw [elsewhere _ (by rw [isFile]; exact Option.some_ne_none _)]
    exact isFile
  · intro isSaved
    obtain ⟨file, member, rfl⟩ := List.mem_map.mp isSaved
    rw [invariant.kept file member] at absent
    cases absent

theorem FolderInvariant.passed (invariant : FolderInvariant config shared) {uniqueId : String}
    (newId : NewId config shared.tree uniqueId) (filename : String) (raw : Bytes)
    (outcome : WriteOutcome Bytes) :
    FolderInvariant config (shared.pass config uniqueId filename raw outcome) := by
  unfold SharedFolder.pass
  split
  · rename_i next attempted
    rcases attempt_of_newId newId attempted with ⟨-, rfl⟩ | ⟨-, absent, written, -, others⟩
    · exact invariant
    · exact (invariant.created absent others).1
  · rename_i next attempted
    rcases attempt_of_newId newId attempted with
      ⟨failed, -⟩ | ⟨plain, absent, written, whole, others⟩
    · cases failed
    obtain rfl := whole rfl
    obtain ⟨created, isNew⟩ := invariant.created absent others
    refine ⟨created.isDirectory, ?_, ?_, ?_⟩
    · intro file member
      rcases List.mem_append.mp member with earlier | isLast
      · exact created.returned file earlier
      · obtain rfl := List.mem_singleton.mp isLast
        exact ⟨plain, components_posixJoin config.mcpFolder plain⟩
    · intro file member
      rcases List.mem_append.mp member with earlier | isLast
      · exact created.kept file earlier
      · obtain rfl := List.mem_singleton.mp isLast
        exact (others _).trans (if_pos rfl)
    · rw [List.map_append, List.nodup_append]
      refine ⟨created.distinct, List.nodup_singleton _, ?_⟩
      intro earlier isSaved last isLast same
      obtain rfl := List.mem_singleton.mp isLast
      rw [same] at isSaved
      exact isNew isSaved

theorem FolderInvariant.step {event : FolderEvent} {next : SharedFolder}
    (invariant : FolderInvariant config shared) (behaved : WellBehaved config shared event)
    (isStep : shared.step config event = some next) : FolderInvariant config next := by
  cases event with
  | passed uniqueId filename raw outcome =>
      obtain rfl := Option.some.inj isStep
      exact invariant.passed behaved filename raw outcome
  | changed tree =>
      obtain rfl := Option.some.inj isStep
      obtain ⟨isDirectory, same⟩ := behaved
      refine ⟨isDirectory, invariant.returned, ?_, invariant.distinct⟩
      intro file member
      exact (same file member).trans (invariant.kept file member)

/-- **One folder for both sides.** In every run in which ids are new and other processes leave the
saved files alone, whatever the names of the received files and whoever passes when: a returned path
gives the saved bytes to the MCP server and to the agents, no pass changes anything but a new file
directly in the folder, and what is read as attachments lies there too. -/
theorem folder_shared {tree : FileTree Bytes} {events : List FolderEvent}
    (isDirectory : tree.isDirectory config.handler.folder = true)
    (wellBehaved : StepSystem.Along (SharedFolder.step config) (WellBehaved config) ⟨tree, []⟩
      events) :
    StepSystem.Throughout (SharedFolder.step config) (FolderPromise config) ⟨tree, []⟩ events := by
  have initially : FolderInvariant config ⟨tree, []⟩ :=
    ⟨isDirectory, fun _ member => absurd member List.not_mem_nil,
      fun _ member => absurd member List.not_mem_nil, List.nodup_nil⟩
  have invariant : StepSystem.Throughout (SharedFolder.step config) (FolderInvariant config)
      ⟨tree, []⟩ events :=
    StepSystem.throughout_of_along
      (fun _ _ _ (holds : FolderInvariant config _) behaved isStep => holds.step behaved isStep)
      initially wellBehaved
  exact StepSystem.throughout_mono (fun _ holds => holds.promise) invariant

end Runs

/-! ### A name that climbs -/

def dataFolder : List Component := ["data".toList]

/-- An empty folder. -/
def emptyFolder : FileTree Bytes := .ofDirectory "data".toList

def dataConfig : SharedConfig :=
  ⟨⟨dataFolder, "_SKIP".toList, id, fun _ => some "image/png", none, ["image/png"]⟩, "/tmp"⟩

theorem newId_emptyFolder {uniqueId : String} (noSlash : '/' ∉ uniqueId.toList ++ ['_'])
    (other : ¬uniqueId.toList ++ ['_'] <+: "data".toList) : NewId dataConfig emptyFolder uniqueId :=
  newFront_of_keys noSlash fun _ member => by rw [List.mem_singleton.mp member]; exact other

def twoPasses : List FolderEvent :=
  [.passed "0a1b2c3d" "../../etc/passwd" [1] .complete, .passed "4e5f6071" "a.png" [2] .complete]

/-- Only the second name gives a file. -/
theorem folder_shared_twoPasses :
    StepSystem.Throughout (SharedFolder.step dataConfig) (FolderPromise dataConfig)
        ⟨emptyFolder, []⟩ twoPasses ∧
      (StepSystem.run (SharedFolder.step dataConfig) ⟨emptyFolder, []⟩ twoPasses).map
        (fun shared => shared.saved.map fun file => (file.path, file.raw)) =
        some [("/tmp/4e5f6071_a.png".toList, [2])] := by
  have refused : SharedFolder.step dataConfig ⟨emptyFolder, []⟩
      (.passed "0a1b2c3d" "../../etc/passwd" [1] .complete) = some ⟨emptyFolder, []⟩ := by
    rfl
  refine ⟨folder_shared (by decide) ⟨newId_emptyFolder (by decide) (by decide), ?_⟩,
    by decide +kernel⟩
  rw [refused]
  exact ⟨newId_emptyFolder (by decide) (by decide), trivial⟩

end QuAIA.Agents.SharedAttachments
