import Mathlib.Data.List.Induction
import QuAIA.Library.PosixPath

/-!
Contract: the attachments that the agents read from their local folder.

Owns: which paths are skipped, which file a path stands for, which attachments are returned under
which names; that nothing outside the folder is read.

Does not own: the detection of media types, the supported types and `str.lower`, which are
arguments. The folder is given by the directory that its configured path names.
-/

set_option autoImplicit false

namespace QuAIA.Common.AttachmentHandler

open QuAIA.Library PosixPath

abbrev Bytes := List UInt8

/-- The `BinaryContent` of an attachment, whose identifier is its name. -/
structure BinaryContent where
  data : Bytes
  mediaType : String
deriving DecidableEq

structure AttachmentConfig where
  folder : List Component
  skipPostfix : List Char
  lower : List Char → List Char
  guessFileType : List Char → Option String
  magic : Option (List Char → Except String String)
  supportedMimeTypes : List String

/-- An absent value and an empty text are falsy. -/
def isTruthy (text : String) : Bool := text ≠ ""

def getMimeType (config : AttachmentConfig) (filePath : List Char) : Option String :=
  match (config.guessFileType filePath).filter isTruthy with
  | some mimeType => some mimeType
  | none => config.magic.bind fun fromFile => (fromFile filePath).toOption

/-- `PurePath.stem`: what stands before the last dot, unless that is nothing but dots. -/
def stem (path : List Char) : List Char :=
  let fileName := name path
  let before := ((fileName.reverse.dropWhile (· ≠ '.')).drop 1).reverse
  if before.any (· ≠ '.') then before else fileName

def shouldSkipAttachment (config : AttachmentConfig) (filename : List Char) : Bool :=
  config.skipPostfix ≠ [] ∧ config.lower config.skipPostfix <:+ config.lower (stem filename)

def isSupportedMimeType (config : AttachmentConfig) (mimeType : Option String) : Bool :=
  match mimeType with
  | none => false
  | some mimeType => isTruthy mimeType && config.supportedMimeTypes.contains mimeType

/-- `(Path(folder) / name).resolve()`. -/
def localFilePath (config : AttachmentConfig) (fileName : Component) : List Component :=
  if fileName = [] then config.folder
  else if fileName = parent then config.folder.dropLast
  else config.folder ++ [fileName]

def fetchFileBytes (config : AttachmentConfig) (tree : FileTree Bytes) (filePath : List Char) :
    Except String (Bytes × Component) :=
  let fileName := name filePath
  match tree.readBytes (localFilePath config fileName) with
  | none => .error "File does not exist."
  | some bytes => .ok (bytes, fileName)

/-- The body of the loop of `fetch_all_attachments`: what it adds for a path. -/
def attachment? (config : AttachmentConfig) (tree : FileTree Bytes) (filePath : List Char) :
    Option BinaryContent :=
  if shouldSkipAttachment config (name filePath) then none
  else
    match fetchFileBytes config tree filePath with
    | .error _ => none
    | .ok (bytes, _) =>
        let mimeType := getMimeType config filePath
        if isSupportedMimeType config mimeType then
          mimeType.map fun mediaType => ⟨bytes, mediaType⟩
        else none

def fetchAllAttachments (config : AttachmentConfig) (tree : FileTree Bytes)
    (attachmentPaths : List (List Char)) : Dict Component BinaryContent :=
  attachmentPaths.foldl (fun attachments filePath =>
    match attachment? config tree filePath with
    | some content => attachments.set (name filePath) content
    | none => attachments) .empty

/-! ## Confinement -/

section Tree

variable {config : AttachmentConfig} {tree : FileTree Bytes}

/-- Only files that lie directly in the folder are read, under their own names. -/
theorem fetchFileBytes_eq_ok_iff (isDirectory : tree.isDirectory config.folder = true)
    (filePath : List Char) (bytes : Bytes) (fileName : Component) :
    fetchFileBytes config tree filePath = .ok (bytes, fileName) ↔
      name filePath = fileName ∧ Plain fileName ∧
        tree.entryAt (config.folder ++ [fileName]) = some (.file bytes) := by
  have read : fetchFileBytes config tree filePath = .ok (bytes, fileName) ↔
      name filePath = fileName ∧
        tree.readBytes (localFilePath config (name filePath)) = some bytes := by
    unfold fetchFileBytes
    dsimp only
    split
    · rename_i absent
      simp [absent]
    · rename_i found
      rw [found, Except.ok.injEq, Prod.mk.injEq, Option.some.injEq]
      exact and_comm
  refine read.trans (and_congr_right ?_)
  rintro rfl
  unfold localFilePath
  rcases name_eq_nil_or filePath with isEmpty | isParent | plain
  · rw [if_pos isEmpty, tree.readBytes_of_isDirectory isDirectory]
    constructor
    · intro found
      cases found
    · rintro ⟨⟨-, named, -⟩, -⟩
      rw [isEmpty] at named
      cases named
  · rw [if_neg (by rw [isParent]; decide), if_pos isParent,
      tree.readBytes_of_isDirectory (tree.isDirectory_dropLast isDirectory)]
    constructor
    · intro found
      cases found
    · rintro ⟨⟨-, -, notParent⟩, -⟩
      exact absurd isParent notParent
  · have nonempty : name filePath ≠ [] := by
      intro isEmpty
      have named := plain.2.1
      rw [isEmpty] at named
      cases named
    rw [if_neg nonempty, if_neg plain.2.2, tree.readBytes_eq_some_iff]
    exact (and_iff_right plain).symm

/-- **Attachments.** The last path with a name that gives an attachment gives the attachment of
that name. -/
theorem get?_fetchAllAttachments (attachmentPaths : List (List Char)) (filename : Component) :
    (fetchAllAttachments config tree attachmentPaths).get? filename =
      (attachmentPaths.reverse.filter fun filePath => name filePath = filename).findSome?
        (attachment? config tree) := by
  unfold fetchAllAttachments
  induction attachmentPaths using List.reverseRecOn with
  | nil => rfl
  | append_singleton earlier filePath inductionHypothesis =>
      rw [List.foldl_append, List.reverse_append, List.reverse_singleton, List.singleton_append,
        List.filter_cons]
      simp only [List.foldl_cons, List.foldl_nil]
      by_cases same : name filePath = filename
      · rw [if_pos (decide_eq_true same), List.findSome?_cons]
        cases attachment? config tree filePath with
        | none => exact inductionHypothesis
        | some content =>
            dsimp only
            rw [same]
            exact Dict.get?_set_self _ _ _
      · rw [if_neg (by simpa using same), ← inductionHypothesis]
        cases attachment? config tree filePath with
        | none => rfl
        | some content => exact Dict.get?_set_other _ _ (Ne.symm same)

/-- What an attachment says of the file that it is made from. -/
theorem attachment?_eq_some_iff (isDirectory : tree.isDirectory config.folder = true)
    (filePath : List Char) (content : BinaryContent) :
    attachment? config tree filePath = some content ↔
      shouldSkipAttachment config (name filePath) = false ∧ Plain (name filePath) ∧
        tree.entryAt (config.folder ++ [name filePath]) = some (.file content.data) ∧
        getMimeType config filePath = some content.mediaType ∧
        isSupportedMimeType config (some content.mediaType) = true := by
  have fetched := fetchFileBytes_eq_ok_iff isDirectory filePath
  unfold attachment?
  cases skipped : shouldSkipAttachment config (name filePath) with
  | true => simp
  | false =>
      rw [if_neg Bool.false_ne_true]
      cases read : fetchFileBytes config tree filePath with
      | error reason =>
          rw [read] at fetched
          have notFound : ∀ bytes, ¬(Plain (name filePath) ∧
              tree.entryAt (config.folder ++ [name filePath]) = some (.file bytes)) := by
            intro bytes found
            cases (fetched bytes _).mpr ⟨rfl, found⟩
          constructor
          · intro ended
            cases ended
          · rintro ⟨-, plain, found, -⟩
            exact absurd ⟨plain, found⟩ (notFound content.data)
      | ok outcome =>
          obtain ⟨bytes, fileName⟩ := outcome
          obtain ⟨rfl, plain, found⟩ := (fetched bytes fileName).mp read
          dsimp only
          cases guessed : getMimeType config filePath with
          | none => simp
          | some mimeType =>
              cases supported : isSupportedMimeType config (some mimeType) with
              | false =>
                  rw [if_neg Bool.false_ne_true]
                  constructor
                  · intro ended
                    cases ended
                  · rintro ⟨-, -, -, same, isSupported⟩
                    rw [← Option.some.inj same, supported] at isSupported
                    cases isSupported
              | true =>
                  rw [if_pos rfl, Option.map_some, Option.some.injEq]
                  constructor
                  · rintro rfl
                    exact ⟨rfl, plain, found, rfl, supported⟩
                  · rintro ⟨-, -, isFile, same, -⟩
                    obtain ⟨data, mediaType⟩ := content
                    rw [found] at isFile
                    cases isFile
                    cases same
                    rfl

end Tree

end QuAIA.Common.AttachmentHandler
