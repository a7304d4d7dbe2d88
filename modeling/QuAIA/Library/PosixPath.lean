import QuAIA.Library.Dict

/-!
Contract: POSIX path texts and the trees of files that they lead through.

Owns: the components and the name of a path, trees whose entries lie in directories, the emptying
of a directory, and what opening a path for writing does; in particular that a path which begins as
no entry of the directory does can only name a file that is new.

Does not own: symbolic links, permissions and limits.
-/

set_option autoImplicit false

namespace QuAIA.Library.PosixPath

abbrev Component := List Char

/-- What stands between the slashes. -/
def segments (path : List Char) : List Component := path.splitOn '/'

/-- A component that names an entry of a directory, or its parent. -/
def isNamed (segment : Component) : Bool := segment ≠ [] ∧ segment ≠ ['.']

/-- The parts of `Path(path)`, without the root. -/
def components (path : List Char) : List Component := (segments path).filter isNamed

/-- `Path(path).name`. -/
def name (path : List Char) : Component := (components path).getLast?.getD []

def parent : Component := ['.', '.']

/-- The component of a file, when it is no way through the tree. -/
def Plain (component : Component) : Prop :=
  '/' ∉ component ∧ isNamed component = true ∧ component ≠ parent

theorem segments_of_plain {component : Component} (noSlash : '/' ∉ component) :
    segments component = [component] := List.splitOn_eq_singleton noSlash

theorem eq_of_segments_singleton {path : List Char} {segment : Component}
    (single : segments path = [segment]) : path = segment := by
  have whole : ['/'].intercalate (path.splitOn '/') = path := List.intercalate_splitOn '/'
  rw [segments] at single
  rw [single, List.intercalate_singleton] at whole
  exact whole.symm

/-- Characters in front that are no slashes belong to the first segment. -/
theorem segments_append_of_not_mem {front path : List Char} {first : Component}
    {rest : List Component} (noSlash : '/' ∉ front) (split : path.splitOn '/' = first :: rest) :
    segments (front ++ path) = (front ++ first) :: rest := by
  induction front with
  | nil => exact split
  | cons char front inductionHypothesis =>
      rw [List.mem_cons, not_or] at noSlash
      have later := inductionHypothesis noSlash.2
      unfold segments at later ⊢
      rw [List.cons_append, List.splitOn_cons_eq_if_modifyHead, later,
        if_neg (by simpa using Ne.symm noSlash.1)]
      rfl

theorem isNamed_of_mem {component : Component} {char : Char} (member : char ∈ component)
    (notDot : char ≠ '.') : isNamed component = true := by
  unfold isNamed
  rw [decide_eq_true_eq]
  constructor
  · rintro rfl
    cases member
  · rintro rfl
    exact notDot (List.mem_singleton.mp member)

theorem components_join (folder path : List Char) :
    components (folder ++ '/' :: path) = components folder ++ components path := by
  rw [components, segments, List.splitOn_append_cons_self, List.filter_append]
  rfl

theorem components_of_plain {component : Component} (plain : Plain component) :
    components component = [component] := by
  rw [components, segments_of_plain plain.1, List.filter_singleton, plain.2.1]
  rfl

theorem not_mem_of_mem_segments {path : List Char} {segment : Component}
    (member : segment ∈ segments path) : '/' ∉ segment := by
  unfold segments at member
  induction path generalizing segment with
  | nil =>
      rw [List.splitOn_nil, List.mem_singleton] at member
      rw [member]
      exact List.not_mem_nil
  | cons char path inductionHypothesis =>
      rw [List.splitOn_cons_eq_if_modifyHead] at member
      split at member
      · rcases List.mem_cons.mp member with rfl | later
        · exact List.not_mem_nil
        · exact inductionHypothesis later
      · rename_i noSlash
        cases split : path.splitOn '/' with
        | nil => exact absurd split (List.splitOn_ne_nil '/' path)
        | cons first rest =>
            rw [split] at member inductionHypothesis
            rcases List.mem_cons.mp member with rfl | later
            · intro slash
              rcases List.mem_cons.mp slash with rfl | inFirst
              · exact noSlash (beq_self_eq_true '/')
              · exact inductionHypothesis List.mem_cons_self inFirst
            · exact inductionHypothesis (List.mem_cons_of_mem first later)

/-- The name of a path has no slash and is neither empty nor a dot, if there is one. -/
theorem name_eq_nil_or (path : List Char) :
    name path = [] ∨ name path = parent ∨ Plain (name path) := by
  unfold name
  cases isLast : (components path).getLast? with
  | none => exact Or.inl rfl
  | some last =>
      obtain ⟨inSegments, named⟩ := List.mem_filter.mp (List.mem_of_getLast? isLast)
      by_cases isParent : last = parent
      · exact Or.inr (Or.inl isParent)
      · refine Or.inr (Or.inr ⟨?_, named, isParent⟩)
        exact not_mem_of_mem_segments inSegments

/-! ## Trees -/

inductive Entry (β : Type) where
  | directory
  | file (content : β)
deriving DecidableEq

/-- The entries below the root by their paths. Every entry lies in a directory. -/
structure FileTree (β : Type) where
  entries : Dict (List Component) (Entry β)
  inDirectory : ∀ path component, (entries.get? (path ++ [component])).isSome = true →
    path = [] ∨ entries.get? path = some .directory

namespace FileTree

variable {β : Type}

def entryAt (tree : FileTree β) (path : List Component) : Option (Entry β) :=
  if path = [] then some .directory else tree.entries.get? path

def isDirectory (tree : FileTree β) (path : List Component) : Bool :=
  match tree.entryAt path with
  | some .directory => true
  | _ => false

/-- The bytes of a path for which `is_file` holds. -/
def readBytes (tree : FileTree β) (path : List Component) : Option β :=
  match tree.entryAt path with
  | some (.file content) => some content
  | _ => none

theorem isDirectory_iff (tree : FileTree β) (path : List Component) :
    tree.isDirectory path = true ↔ tree.entryAt path = some .directory := by
  unfold isDirectory
  split
  · rename_i found
    simp [found]
  · rename_i other
    simpa using other

theorem readBytes_eq_some_iff (tree : FileTree β) (path : List Component) (content : β) :
    tree.readBytes path = some content ↔ tree.entryAt path = some (.file content) := by
  unfold readBytes
  split
  · rename_i found
    simp [found]
  · rename_i other
    simpa using other content

theorem isDirectory_of_entryAt (tree : FileTree β) {path : List Component} {component : Component}
    (found : tree.entryAt (path ++ [component]) ≠ none) : tree.isDirectory path = true := by
  rw [isDirectory_iff]
  unfold entryAt at found ⊢
  rw [if_neg (by simp)] at found
  split
  · rfl
  · rename_i nonempty
    exact (tree.inDirectory path component (Option.isSome_iff_ne_none.mpr found)).resolve_left
      nonempty

/-- The parent of a directory is a directory. -/
theorem isDirectory_dropLast (tree : FileTree β) {path : List Component}
    (isDir : tree.isDirectory path = true) : tree.isDirectory path.dropLast = true := by
  rcases List.eq_nil_or_concat path with rfl | ⟨folder, component, rfl⟩
  · exact isDir
  · rw [List.concat_eq_append] at isDir ⊢
    rw [List.dropLast_concat]
    apply tree.isDirectory_of_entryAt
    rw [(tree.isDirectory_iff _).mp isDir]
    exact Option.some_ne_none _

theorem readBytes_of_isDirectory (tree : FileTree β) {path : List Component}
    (isDir : tree.isDirectory path = true) : tree.readBytes path = none := by
  unfold readBytes
  rw [(tree.isDirectory_iff path).mp isDir]

/-- A file under a name in a directory, in place of what was there. -/
def writeFile (tree : FileTree β) (folder : List Component) (component : Component) (content : β)
    (isDir : tree.isDirectory folder = true)
    (notDir : tree.isDirectory (folder ++ [component]) = false) : FileTree β where
  entries := tree.entries.set (folder ++ [component]) (.file content)
  inDirectory := by
    intro path other found
    rw [Dict.get?_set] at found
    have isFolder : tree.isDirectory path = true := by
      split at found
      · rename_i same
        obtain ⟨rfl, -⟩ := List.append_inj' same rfl
        exact isDir
      · apply tree.isDirectory_of_entryAt
        unfold entryAt
        rw [if_neg (by simp)]
        exact Option.isSome_iff_ne_none.mp found
    have directory := (tree.isDirectory_iff path).mp isFolder
    unfold entryAt at directory
    split at directory
    · rename_i isRoot
      exact Or.inl isRoot
    · refine Or.inr ?_
      rw [Dict.get?_set_other _ _ ?_]
      · exact directory
      · intro same
        rw [← same, isFolder] at notDir
        cases notDir

theorem entryAt_writeFile (tree : FileTree β) {folder : List Component} {component : Component}
    {content : β} (isDir : tree.isDirectory folder = true)
    (notDir : tree.isDirectory (folder ++ [component]) = false) (path : List Component) :
    (tree.writeFile folder component content isDir notDir).entryAt path =
      if path = folder ++ [component] then some (.file content) else tree.entryAt path := by
  unfold entryAt writeFile
  rw [Dict.get?_set]
  split
  · rename_i isRoot
    rw [if_neg (by simp [isRoot])]
  · rfl

/-- An empty directory below the root. -/
def ofDirectory (component : Component) : FileTree β where
  entries := Dict.empty.set [component] .directory
  inDirectory := by
    intro path other found
    rw [Dict.get?_set] at found
    split at found
    · rename_i same
      have atRoot : path ++ [other] = [] ++ [component] := same
      exact Or.inl (List.append_inj' atRoot rfl).1
    · cases found

/-! ## Emptying -/

/-- A path strictly below a folder. -/
def Below (folder path : List Component) : Prop := folder <+: path ∧ path ≠ folder

instance (folder path : List Component) : Decidable (Below folder path) :=
  inferInstanceAs (Decidable (_ ∧ _))

theorem below_append (folder : List Component) (component : Component) :
    Below folder (folder ++ [component]) :=
  ⟨List.prefix_append folder [component], by simp⟩

theorem Below.append {folder path : List Component} (below : Below folder path)
    (component : Component) : Below folder (path ++ [component]) := by
  refine ⟨below.1.trans (List.prefix_append path [component]), ?_⟩
  intro same
  have longer := below.1.length_le
  rw [← same, List.length_append, List.length_singleton] at longer
  omega

/-- Everything below a folder is removed. -/
def clear (tree : FileTree β) (folder : List Component) : FileTree β where
  entries := tree.entries.popAll (tree.entries.keys.filter fun path => Below folder path)
  inDirectory := by
    intro path component found
    rw [Dict.get?_popAll] at found ⊢
    split at found
    · cases found
    · rename_i kept
      have present : path ++ [component] ∈ tree.entries.keys :=
        (Dict.mem_keys_iff _ _).mpr found
      have outside : ¬Below folder path := by
        intro below
        exact kept (List.mem_filter.mpr ⟨present, decide_eq_true (below.append component)⟩)
      rw [if_neg]
      · exact tree.inDirectory path component found
      · exact fun member => outside (of_decide_eq_true (List.mem_filter.mp member).2)

theorem entryAt_clear (tree : FileTree β) (folder path : List Component) :
    (tree.clear folder).entryAt path = if Below folder path then none else tree.entryAt path := by
  unfold entryAt clear
  by_cases isRoot : path = []
  · have outside : ¬Below folder path := by
      rintro ⟨isPrefix, different⟩
      rw [isRoot, List.prefix_nil] at isPrefix
      exact different (isRoot.trans isPrefix.symm)
    rw [if_pos isRoot, if_neg outside, if_pos isRoot]
  · rw [if_neg isRoot, if_neg isRoot, Dict.get?_popAll]
    by_cases below : Below folder path
    · rw [if_pos below]
      split
      · rfl
      · rename_i missing
        cases found : tree.entries.get? path with
        | none => rfl
        | some entry =>
            have present : path ∈ tree.entries.keys := by
              rw [Dict.mem_keys_iff, Dict.contains, found]
              rfl
            exact absurd (List.mem_filter.mpr ⟨present, decide_eq_true below⟩) missing
    · rw [if_neg below, if_neg]
      exact fun member => below (of_decide_eq_true (List.mem_filter.mp member).2)

/-- Exactly these files lie below the folder, and no directories. -/
structure Holds (tree : FileTree β) (folder : List Component) (files : List (Component × β)) :
    Prop where
  entry_iff : ∀ path, Below folder path → ∀ entry, tree.entryAt path = some entry ↔
    ∃ file ∈ files, path = folder ++ [file.1] ∧ entry = .file file.2
  distinct : (files.map Prod.fst).Nodup

theorem holds_clear (tree : FileTree β) (folder : List Component) :
    (tree.clear folder).Holds folder [] := by
  refine ⟨?_, List.nodup_nil⟩
  intro path below entry
  rw [entryAt_clear, if_pos below]
  constructor
  · intro found
    cases found
  · rintro ⟨file, member, -⟩
    cases member

theorem Holds.congr {tree next : FileTree β} {folder : List Component}
    {files : List (Component × β)} (holds : tree.Holds folder files)
    (same : ∀ path, Below folder path → next.entryAt path = tree.entryAt path) :
    next.Holds folder files := by
  refine ⟨?_, holds.distinct⟩
  intro path below entry
  rw [same path below]
  exact holds.entry_iff path below entry

/-- A file that comes into the folder is one more, under a new name. -/
theorem Holds.create {tree next : FileTree β} {folder : List Component}
    {files : List (Component × β)} {component : Component} {content : β}
    (holds : tree.Holds folder files) (absent : tree.entryAt (folder ++ [component]) = none)
    (others : ∀ other, next.entryAt other =
      if other = folder ++ [component] then some (.file content) else tree.entryAt other) :
    next.Holds folder (files ++ [(component, content)]) := by
  have isNew : component ∉ files.map Prod.fst := by
    intro listed
    obtain ⟨file, member, rfl⟩ := List.mem_map.mp listed
    have present := (holds.entry_iff _ (below_append folder file.1) (.file file.2)).mpr
      ⟨file, member, rfl, rfl⟩
    rw [absent] at present
    cases present
  constructor
  · intro path below entry
    rw [others]
    by_cases isCreated : path = folder ++ [component]
    · rw [if_pos isCreated]
      constructor
      · intro same
        exact ⟨_, List.mem_append_right _ (List.mem_singleton_self _), isCreated,
          (Option.some.inj same).symm⟩
      · rintro ⟨file, member, isPath, rfl⟩
        rcases List.mem_append.mp member with earlier | isLast
        · obtain ⟨-, sameName⟩ := List.append_inj' (isCreated.symm.trans isPath) rfl
          rw [List.singleton_inj.mp sameName] at isNew
          exact absurd (List.mem_map_of_mem earlier) isNew
        · rw [List.mem_singleton.mp isLast]
    · rw [if_neg isCreated, holds.entry_iff path below entry]
      constructor
      · rintro ⟨file, member, isFile⟩
        exact ⟨file, List.mem_append_left _ member, isFile⟩
      · rintro ⟨file, member, isPath, isEntry⟩
        rcases List.mem_append.mp member with earlier | isLast
        · exact ⟨file, earlier, isPath, isEntry⟩
        · rw [List.mem_singleton.mp isLast] at isPath
          exact absurd isPath isCreated
  · rw [List.map_append, List.nodup_append]
    refine ⟨holds.distinct, List.nodup_singleton _, ?_⟩
    intro earlier listed last isLast same
    rw [same, List.mem_singleton.mp isLast] at listed
    exact isNew listed

/-! ## Opening -/

/-- The directory that a path leads to, component by component. -/
def walk (tree : FileTree β) (folder : List Component) : List Component → Option (List Component)
  | [] => some folder
  | segment :: rest =>
      if isNamed segment = false then walk tree folder rest
      else if segment = parent then walk tree folder.dropLast rest
      else if tree.isDirectory (folder ++ [segment]) then walk tree (folder ++ [segment]) rest
      else none

/-- Opening a component of a folder for writing, and a write. -/
def openIn (tree : FileTree β) (folder : List Component) (last : Component) (content : β) :
    Option (FileTree β) :=
  if allowed : isNamed last = true ∧ last ≠ parent ∧ tree.isDirectory folder = true ∧
      tree.isDirectory (folder ++ [last]) = false then
    some (tree.writeFile folder last content allowed.2.2.1 allowed.2.2.2)
  else none

theorem entryAt_of_openIn {tree next : FileTree β} {folder : List Component} {last : Component}
    {content : β} (opened : tree.openIn folder last content = some next)
    (path : List Component) :
    next.entryAt path = if path = folder ++ [last] then some (.file content)
      else tree.entryAt path := by
  unfold openIn at opened
  split at opened
  · rename_i allowed
    obtain rfl := Option.some.inj opened
    exact tree.entryAt_writeFile allowed.2.2.1 allowed.2.2.2 path
  · cases opened

/-- `open(path, "wb")` and a write, for the segments of a path that starts in a folder. -/
def openSegments (tree : FileTree β) (start : List Component) (path : List Component)
    (content : β) : Option (FileTree β) :=
  (tree.walk start path.dropLast).bind fun folder =>
    tree.openIn folder (path.getLast?.getD []) content

def openAndWrite (tree : FileTree β) (start : List Component) (path : List Char) (content : β) :
    Option (FileTree β) :=
  tree.openSegments start (segments path) content

/-- A path whose first component is not in the folder is opened only if it is that component, and
then nothing else changes. -/
theorem openAndWrite_of_new {tree next : FileTree β} {start : List Component} {path : List Char}
    {content : β} {first : Component} {rest : List Component}
    (split : segments path = first :: rest) (named : isNamed first = true)
    (notParent : first ≠ parent) (absent : tree.entryAt (start ++ [first]) = none)
    (opened : tree.openAndWrite start path content = some next) :
    rest = [] ∧ ∀ other, next.entryAt other =
      if other = start ++ [first] then some (.file content) else tree.entryAt other := by
  have noDirectory : tree.isDirectory (start ++ [first]) = false := by
    unfold isDirectory
    rw [absent]
  rw [openAndWrite, split] at opened
  cases rest with
  | cons second rest =>
      rw [openSegments, List.dropLast_cons_cons, walk,
        if_neg (by rw [named]; exact Bool.noConfusion), if_neg notParent,
        if_neg (by rw [noDirectory]; exact Bool.noConfusion)] at opened
      cases opened
  | nil => exact ⟨rfl, entryAt_of_openIn opened⟩

/-! ## New names -/

/-- A text without a slash with which no entry of the folder begins. -/
structure NewFront (tree : FileTree β) (folder : List Component) (front : List Char) : Prop where
  noSlash : '/' ∉ front
  absent : ∀ component, front <+: component → tree.entryAt (folder ++ [component]) = none

/-- It is enough that no name in the tree begins with the text. -/
theorem newFront_of_keys {tree : FileTree β} {folder : List Component} {front : List Char}
    (noSlash : '/' ∉ front)
    (new : ∀ path ∈ tree.entries.keys, ¬front <+: path.getLast?.getD []) :
    tree.NewFront folder front := by
  refine ⟨noSlash, ?_⟩
  intro component begins
  unfold entryAt
  rw [if_neg (by simp)]
  cases found : tree.entries.get? (folder ++ [component]) with
  | none => rfl
  | some entry =>
      have listed : folder ++ [component] ∈ tree.entries.keys := by
        rw [Dict.mem_keys_iff, Dict.contains, found]
        rfl
      have isOld := new _ listed
      rw [List.getLast?_concat] at isOld
      exact absurd begins isOld

/-- **New names.** A path that begins with such a text creates a file directly in the folder, if
anything, and changes nothing else. -/
theorem openAndWrite_of_newFront {tree next : FileTree β} {folder : List Component}
    {front path : List Char} {content : β} (new : tree.NewFront folder front)
    {char : Char} (inFront : char ∈ front) (notDot : char ≠ '.') (begins : front <+: path)
    (opened : tree.openAndWrite folder path content = some next) :
    Plain path ∧ tree.entryAt (folder ++ [path]) = none ∧ ∀ other, next.entryAt other =
      if other = folder ++ [path] then some (.file content) else tree.entryAt other := by
  obtain ⟨original, rfl⟩ := begins
  obtain ⟨first, rest, split⟩ := List.exists_cons_of_ne_nil (List.splitOn_ne_nil '/' original)
  have segmented : segments (front ++ original) = (front ++ first) :: rest :=
    segments_append_of_not_mem new.noSlash split
  have inFirst : char ∈ front ++ first := List.mem_append_left first inFront
  have named : isNamed (front ++ first) = true := isNamed_of_mem inFirst notDot
  have notParent : front ++ first ≠ parent := by
    intro same
    rw [same] at inFirst
    rcases List.mem_cons.mp inFirst with isDot | isDot
    · exact notDot isDot
    · exact notDot (List.mem_singleton.mp isDot)
  have isNew := new.absent _ (List.prefix_append front first)
  obtain ⟨rfl, others⟩ := openAndWrite_of_new segmented named notParent isNew opened
  have whole : front ++ original = front ++ first := eq_of_segments_singleton segmented
  have onlySegment : front ++ first ∈ segments (front ++ original) := by
    rw [segmented]
    exact List.mem_singleton_self _
  rw [whole]
  exact ⟨⟨not_mem_of_mem_segments onlySegment, named, notParent⟩, isNew, others⟩

/-- What `open` and `write` do: both succeed, the write ends early, or `open` raises for a reason
that does not lie in the tree. -/
inductive WriteOutcome (β : Type) where
  | complete
  | cut (content : β)
  | refused

/-- A write with its outcome: the tree after it, and whether it has succeeded. -/
def attempt (tree : FileTree β) (folder : List Component) (path : List Char) (content : β) :
    WriteOutcome β → FileTree β × Bool
  | .refused => (tree, false)
  | .cut written => ((tree.openAndWrite folder path written).getD tree, false)
  | .complete =>
      match tree.openAndWrite folder path content with
      | none => (tree, false)
      | some next => (next, true)

/-- An attempt with a new name changes nothing, or creates one file, which has the content if the
attempt has succeeded. -/
theorem attempt_of_newFront {tree next : FileTree β} {folder : List Component}
    {front path : List Char} {content : β} {outcome : WriteOutcome β} {succeeded : Bool}
    (new : tree.NewFront folder front) {char : Char} (inFront : char ∈ front)
    (notDot : char ≠ '.') (begins : front <+: path)
    (attempted : tree.attempt folder path content outcome = (next, succeeded)) :
    (succeeded = false ∧ next = tree) ∨
      Plain path ∧ tree.entryAt (folder ++ [path]) = none ∧
        ∃ written, (succeeded = true → written = content) ∧ ∀ other, next.entryAt other =
          if other = folder ++ [path] then some (.file written) else tree.entryAt other := by
  cases outcome with
  | refused =>
      cases attempted
      exact Or.inl ⟨rfl, rfl⟩
  | cut written =>
      cases opened : tree.openAndWrite folder path written with
      | none =>
          rw [attempt, opened] at attempted
          cases attempted
          exact Or.inl ⟨rfl, rfl⟩
      | some other =>
          rw [attempt, opened] at attempted
          cases attempted
          obtain ⟨plain, absent, others⟩ :=
            openAndWrite_of_newFront new inFront notDot begins opened
          exact Or.inr ⟨plain, absent, written, (nomatch ·), others⟩
  | complete =>
      cases opened : tree.openAndWrite folder path content with
      | none =>
          rw [attempt, opened] at attempted
          cases attempted
          exact Or.inl ⟨rfl, rfl⟩
      | some other =>
          rw [attempt, opened] at attempted
          cases attempted
          obtain ⟨plain, absent, others⟩ :=
            openAndWrite_of_newFront new inFront notDot begins opened
          exact Or.inr ⟨plain, absent, content, fun _ => rfl, others⟩

end FileTree

end QuAIA.Library.PosixPath
