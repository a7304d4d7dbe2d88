import QuAIA.Library.Scanning
import QuAIA.Library.Text

/-!
Contract: the requirement chunks of a document, as the test case generation agent gets them
(`_classify_prd`, `_chunk_by_sections`, the routing of `_generate_test_cases`).

Owns: the patterns for section numbers, headings, numbered titles and tags, the sections of
a document, the merging of short and the splitting of long ones, and when a document that
is classified as functional has any chunk.

Does not own: the extraction of acceptance criteria by a model, which takes the other
documents, and what is generated from the chunks. A text is the list of its characters.
-/

set_option autoImplicit false

namespace QuAIA.Agents

open QuAIA.Library
open QuAIA.Library.Text (Blank isSpace strip)

/-! ## Patterns -/

/-- The characters of value zero among the decimal digits; the digits of one script follow
each other (Unicode 16). -/
def digitZeros : List Nat :=
  [0x30, 0x660, 0x6F0, 0x7C0, 0x966, 0x9E6, 0xA66, 0xAE6, 0xB66, 0xBE6, 0xC66, 0xCE6, 0xD66,
    0xDE6, 0xE50, 0xED0, 0xF20, 0x1040, 0x1090, 0x17E0, 0x1810, 0x1946, 0x19D0, 0x1A80, 0x1A90,
    0x1B50, 0x1BB0, 0x1C40, 0x1C50, 0xA620, 0xA8D0, 0xA900, 0xA9D0, 0xA9F0, 0xAA50, 0xABF0,
    0xFF10, 0x104A0, 0x10D30, 0x10D40, 0x11066, 0x110F0, 0x11136, 0x111D0, 0x112F0, 0x11450,
    0x114D0, 0x11650, 0x116C0, 0x116D0, 0x116DA, 0x11730, 0x118E0, 0x11950, 0x11BF0, 0x11C50,
    0x11D50, 0x11DA0, 0x11F50, 0x16130, 0x16A60, 0x16AC0, 0x16B50, 0x16D70, 0x1CCF0, 0x1D7CE,
    0x1D7D8, 0x1D7E2, 0x1D7EC, 0x1D7F6, 0x1E140, 0x1E2F0, 0x1E4F0, 0x1E5F1, 0x1E950, 0x1FBF0]

/-- `\d`. -/
def isDigit (character : Char) : Bool :=
  digitZeros.any fun first => first ≤ character.toNat && character.toNat ≤ first + 9

/-- `\.\d+` at the start of a text. -/
def fraction : List Char → List Char
  | '.' :: rest =>
      let digits := rest.takeWhile isDigit
      if digits.isEmpty then [] else '.' :: digits
  | _ => []

/-- `_SECTION_NUMBER_RE`: two or three numbers joined by dots, with no digit around. Fewer
digits of a number would leave one to follow. -/
def sectionNumber : Pattern Char Unit := fun previous text =>
  let major := text.takeWhile isDigit
  let minor := fraction (text.drop major.length)
  let patch := fraction (text.drop (major.length + minor.length))
  if previous.any isDigit || major.isEmpty || minor.isEmpty then none
  else some ((), major.length + minor.length + patch.length)

/-- `\d+(?:\.\d+)*` from a digit on. A dot counts if a digit follows. -/
def dottedNumber : List Char → List Char
  | [] => []
  | character :: rest =>
      if isDigit character || character == '.' && rest.head?.any isDigit then
        character :: dottedNumber rest
      else []

/-- `\d+(?:\.\d+)*` at the start of a text. -/
def leadingNumber (text : List Char) : List Char :=
  if text.head?.any isDigit then dottedNumber text else []

/-- `\s+(.+)$` at the start of a text: the title, and the length of all. Where only white
space is left, its last character that is no line feed is the title. -/
def titleAfter (text : List Char) : Option (List Char × Nat) :=
  let space := text.takeWhile isSpace
  let line := (text.dropWhile isSpace).takeWhile (· ≠ '\n')
  if space.isEmpty then none
  else if line.isEmpty then
    match space.reverse.dropWhile (· = '\n') with
    | last :: other :: others => some ([last], (last :: other :: others).length)
    | _ => none
  else some (line, space.length + line.length)

/-- `_NUMBERED_TITLE_RE`: a number with a dot, at the start of a line, and a title. -/
def numberedTitle : Pattern Char (List Char × List Char) := fun previous text =>
  let number := leadingNumber text
  if previous.any (· ≠ '\n') || !number.contains '.' then none
  else
    (titleAfter (text.drop number.length)).map fun titled =>
      ((number, titled.1), number.length + titled.2)

/-- `h[23]`, in either case. -/
def isHeading (letter level : Char) : Bool :=
  (letter == 'h' || letter == 'H') && (level == '2' || level == '3')

/-- `</h[23]>` at the start of a text. -/
def closesHeading : List Char → Bool
  | '<' :: '/' :: letter :: level :: '>' :: _ => isHeading letter level
  | _ => false

/-- `(.*?)` up to the first closing tag. -/
def untilClosing : List Char → Option (List Char)
  | [] => none
  | character :: rest =>
      if closesHeading (character :: rest) then some []
      else (untilClosing rest).map (character :: ·)

/-- `_HTML_HEADING_RE`: the attributes end at the first `>`. -/
def htmlHeading : Pattern Char (List Char) := fun _ text =>
  match text with
  | '<' :: letter :: level :: rest =>
      if isHeading letter level then
        match rest.dropWhile (· ≠ '>') with
        | _ :: body =>
            (untilClosing body).map fun title =>
              (title, 3 + (rest.takeWhile (· ≠ '>')).length + 1 + title.length + 5)
        | [] => none
      else none
  | _ => none

/-- `_HTML_TAG_RE`. -/
def htmlTag : Pattern Char Unit := fun _ text =>
  match text with
  | '<' :: rest =>
      let inside := rest.takeWhile (· ≠ '>')
      if inside.isEmpty || (rest.dropWhile (· ≠ '>')).isEmpty then none
      else some ((), inside.length + 2)
  | _ => none

/-! ## The code -/

/-- `PrdClassifierConfig`. -/
structure PrdClassifierConfig where
  functionalSectionThreshold : Int
  sectionMinChars : Int
  sectionMaxChars : Int

def PrdClassifierConfig.default : PrdClassifierConfig := ⟨5, 300, 3000⟩

inductive PrdType where
  | acList
  | functional
  | narrative
deriving DecidableEq, Repr

/-- `_AC_SIGNALS`. -/
def acSignals : List (List Char) :=
  ["验收标准".toList, "Acceptance Criteria".toList, "acceptance criteria".toList]

def contains (text signal : List Char) : Bool := text.tails.any signal.isPrefixOf

/-- `_classify_prd`. -/
def classifyPrd (config : PrdClassifierConfig) (content : List Char) : PrdType :=
  if acSignals.any (contains content) then .acList
  else if (sectionNumber.parts content).length ≥ config.functionalSectionThreshold then
    .functional
  else .narrative

/-- `_Section`. -/
structure Section where
  sectionId : List Char
  title : List Char
  content : List Char
deriving DecidableEq

def Section.charCount (sec : Section) : Nat := sec.content.length

/-- `_strip_html`. -/
def stripHtml (text : List Char) : List Char := strip (htmlTag.replace [' '] text)

/-- `_parse_sections_from_html`. -/
def parseSectionsFromHtml (html : List Char) : List Section :=
  (htmlHeading.parts html).mapIdx fun index heading =>
    let rawTitle := stripHtml heading.1
    let number := leadingNumber rawTitle
    { sectionId := if number.isEmpty then s!"sec-{index + 1}".toList else number
      title := rawTitle
      content := stripHtml heading.2 }

/-- `_parse_sections_from_text`. -/
def parseSectionsFromText (text : List Char) : List Section :=
  (numberedTitle.parts text).map fun titled =>
    ⟨titled.1.1, strip titled.1.2, strip titled.2⟩

/-- The text that a short section adds to the one before it. -/
def appended (title content : List Char) : List Char :=
  "\n\n### ".toList ++ title ++ '\n' :: content

/-- The loop body of `_merge_short_sections`. The list merged so far is not empty. -/
def mergeSection (minChars : Int) (merged : List Section) (sec : Section) : List Section :=
  if sec.charCount < minChars then
    match merged.getLast? with
    | some prev =>
        merged.dropLast ++ [{ prev with content := prev.content ++ appended sec.title sec.content }]
    | none => merged
  else merged ++ [sec]

/-- `_merge_short_sections`. -/
def mergeShortSections (sections : List Section) (minChars : Int) : List Section :=
  match sections with
  | [] => []
  | first :: rest => rest.foldl (mergeSection minChars) [first]

/-- The loop body of `_split_long_sections`. -/
def splitLongSection (maxChars : Int) (sec : Section) : List Section :=
  if sec.charCount ≤ maxChars then [sec]
  else if (numberedTitle.parts sec.content).isEmpty then [sec]
  else
    let preamble := strip (numberedTitle.before sec.content)
    (if preamble.isEmpty then [] else [{ sec with content := preamble }]) ++
      parseSectionsFromText sec.content

/-- `_split_long_sections`. -/
def splitLongSections (sections : List Section) (maxChars : Int) : List Section :=
  sections.flatMap (splitLongSection maxChars)

structure AcceptanceCriteriaItem where
  id : String
  text : String
  attachmentInfo : String
  sourceType : String
deriving DecidableEq, Repr

/-- The chunk of a section. -/
def Section.toItem (sec : Section) : AcceptanceCriteriaItem where
  id := String.ofList sec.sectionId
  text := String.ofList (sec.title ++ '\n' :: '\n' :: sec.content)
  attachmentInfo := ""
  sourceType := "section"

/-- The sections before they are merged and split. -/
def parseSections (content : List Char) : List Section :=
  let sections := parseSectionsFromHtml content
  if sections.isEmpty then parseSectionsFromText content else sections

/-- `_chunk_by_sections`, the items of its list. -/
def chunkBySections (config : PrdClassifierConfig) (content : List Char) :
    List AcceptanceCriteriaItem :=
  let merged := mergeShortSections (parseSections content) config.sectionMinChars
  let sections := splitLongSections merged config.sectionMaxChars
  (sections.filter fun sec => !(strip sec.content).isEmpty).map Section.toItem

/-- The chunks that `_generate_test_cases` generates from. Only the functional route does
not extract them by a model. -/
def requirementChunks (config : PrdClassifierConfig)
    (extractAcceptanceCriteria : List Char → List AcceptanceCriteriaItem)
    (content : List Char) : List AcceptanceCriteriaItem :=
  match classifyPrd config content with
  | .functional => chunkBySections config content
  | _ => extractAcceptanceCriteria content

/-! ## The text of a document -/

/-- The titles and bodies of a document, divided at its headings, or else at its numbered
titles. -/
def divisions (content : List Char) : List (List Char × List Char) :=
  match htmlHeading.parts content with
  | [] => (numberedTitle.parts content).map fun titled => (strip titled.1.2, strip titled.2)
  | headings => headings.map fun heading => (stripHtml heading.1, stripHtml heading.2)

/-- The bodies of divisions, each with the shorter divisions that follow it; `body` is what
the first one has so far. -/
def gather (minChars : Int) (body : List Char) : List (List Char × List Char) → List (List Char)
  | [] => [body]
  | (title, next) :: rest =>
      if next.length < minChars then gather minChars (body ++ appended title next) rest
      else body :: gather minChars next rest

def gatheredBodies (minChars : Int) : List (List Char × List Char) → List (List Char)
  | [] => []
  | (_, body) :: rest => gather minChars body rest

/-- Some body has text and is not longer than a section may be, or has text outside of the
numbered titles in it. -/
def HasRequirementText (config : PrdClassifierConfig) (content : List Char) : Prop :=
  ∃ body ∈ gatheredBodies config.sectionMinChars (divisions content),
    (¬Blank body ∧ body.length ≤ config.sectionMaxChars) ∨ ¬Blank (numberedTitle.outside body)

/-! ## Sections -/

def Section.division (sec : Section) : List Char × List Char := (sec.title, sec.content)

theorem parseSectionsFromHtml_division (html : List Char) :
    (parseSectionsFromHtml html).map Section.division =
      (htmlHeading.parts html).map fun heading =>
        (stripHtml heading.1, stripHtml heading.2) := by
  unfold parseSectionsFromHtml
  apply List.ext_getElem
  · simp
  · intro index _ _
    simp [Section.division]

theorem parseSections_division (content : List Char) :
    (parseSections content).map Section.division = divisions content := by
  unfold parseSections divisions
  dsimp only
  cases headings : htmlHeading.parts content with
  | nil =>
      have noSections : parseSectionsFromHtml content = [] := by
        rw [parseSectionsFromHtml, headings]
        rfl
      rw [noSections, List.isEmpty_nil, if_pos rfl, parseSectionsFromText, List.map_map]
      rfl
  | cons heading rest =>
      have hasSections : (parseSectionsFromHtml content).isEmpty = false := by
        rw [parseSectionsFromHtml, headings, List.mapIdx_cons]
        rfl
      rw [hasSections, if_neg Bool.false_ne_true, parseSectionsFromHtml_division, headings]

/-- The loop of `_merge_short_sections` gathers the bodies after its last section. -/
theorem foldl_mergeSection (minChars : Int) (rest merged : List Section) (last : Section) :
    (rest.foldl (mergeSection minChars) (merged ++ [last])).map Section.content =
      merged.map Section.content ++ gather minChars last.content (rest.map Section.division) := by
  induction rest generalizing merged last with
  | nil => simp [gather]
  | cons sec rest inductionHypothesis =>
      rw [List.foldl_cons, List.map_cons]
      by_cases short : (sec.charCount : Int) < minChars
      · have step : mergeSection minChars (merged ++ [last]) sec =
            merged ++
              [{ last with content := last.content ++ appended sec.title sec.content }] := by
          simp [mergeSection, short]
        have gathered : gather minChars last.content (sec.division :: rest.map Section.division) =
            gather minChars (last.content ++ appended sec.title sec.content)
              (rest.map Section.division) := if_pos short
        rw [step, inductionHypothesis, gathered]
      · have step : mergeSection minChars (merged ++ [last]) sec = (merged ++ [last]) ++ [sec] := by
          simp [mergeSection, short]
        have gathered : gather minChars last.content (sec.division :: rest.map Section.division) =
            last.content :: gather minChars sec.content (rest.map Section.division) := if_neg short
        rw [step, inductionHypothesis, gathered, List.map_append, List.append_assoc]
        rfl

theorem mergeShortSections_content (sections : List Section) (minChars : Int) :
    (mergeShortSections sections minChars).map Section.content =
      gatheredBodies minChars (sections.map Section.division) := by
  cases sections with
  | nil => rfl
  | cons first rest => exact foldl_mergeSection minChars rest [] first

theorem exists_text_parseSectionsFromText (text : List Char) :
    (∃ part ∈ parseSectionsFromText text, ¬Blank part.content) ↔
      ¬Blank ((numberedTitle.parts text).flatMap Prod.snd) := by
  rw [Text.blank_flatMap_iff, parseSectionsFromText]
  constructor
  · rintro ⟨part, member, hasText⟩ blank
    obtain ⟨titled, inside, rfl⟩ := List.mem_map.mp member
    exact hasText ((Text.blank_strip_iff _).mpr (blank titled inside))
  · intro notBlank
    obtain ⟨titled, hasText⟩ := not_forall.mp notBlank
    obtain ⟨inside, text⟩ := Classical.not_imp.mp hasText
    exact ⟨_, List.mem_map_of_mem inside, fun blank => text ((Text.blank_strip_iff _).mp blank)⟩

/-- A section that is split has text in some part exactly when it has text outside of its
numbered titles. -/
theorem exists_text_splitLongSection {maxChars : Int} {sec : Section}
    (long : ¬sec.charCount ≤ maxChars) :
    (∃ part ∈ splitLongSection maxChars sec, ¬Blank part.content) ↔
      ¬Blank (numberedTitle.outside sec.content) := by
  rw [splitLongSection, if_neg long]
  cases titles : numberedTitle.parts sec.content with
  | nil =>
      rw [List.isEmpty_nil, if_pos rfl, Pattern.outside_of_parts titles]
      simp
  | cons titled others =>
      have outside : numberedTitle.outside sec.content =
          numberedTitle.before sec.content ++
            (numberedTitle.parts sec.content).flatMap Prod.snd := rfl
      have later := exists_text_parseSectionsFromText sec.content
      rw [outside, Text.blank_append_iff, not_and_or, ← later]
      rw [List.isEmpty_cons, if_neg Bool.false_ne_true]
      by_cases blank : Blank (numberedTitle.before sec.content)
      · have noPreamble := (Text.strip_eq_nil_iff _).mpr blank
        simp [noPreamble, blank]
      · have preamble : strip (numberedTitle.before sec.content) ≠ [] := by
          rw [ne_eq, Text.strip_eq_nil_iff]
          exact blank
        simp [preamble, blank, Text.blank_strip_iff]

/-- A section has text after the splitting exactly when it had text and was not split, or
has text outside of its numbered titles. -/
theorem exists_text_split_iff (maxChars : Int) (sec : Section) :
    (∃ part ∈ splitLongSection maxChars sec, ¬Blank part.content) ↔
      (¬Blank sec.content ∧ sec.content.length ≤ maxChars) ∨
        ¬Blank (numberedTitle.outside sec.content) := by
  by_cases short : (sec.charCount : Int) ≤ maxChars
  · have fits : (sec.content.length : Int) ≤ maxChars := short
    have inherits : ¬Blank (numberedTitle.outside sec.content) → ¬Blank sec.content := by
      intro text blank
      apply text
      intro character member
      exact blank character ((numberedTitle.outside_sublist sec.content).subset member)
    rw [splitLongSection, if_pos short]
    simp only [List.mem_singleton, exists_eq_left, fits, and_true]
    constructor
    · exact Or.inl
    · rintro (text | outside)
      · exact text
      · exact inherits outside
  · have long : ¬(sec.content.length : Int) ≤ maxChars := short
    rw [exists_text_splitLongSection short]
    simp only [long, and_false, false_or]

/-- There is a chunk exactly when some section has text after merging and splitting. -/
theorem chunkBySections_ne_nil_iff (config : PrdClassifierConfig) (content : List Char) :
    chunkBySections config content ≠ [] ↔
      ∃ sec ∈ mergeShortSections (parseSections content) config.sectionMinChars,
        ∃ part ∈ splitLongSection config.sectionMaxChars sec, ¬Blank part.content := by
  unfold chunkBySections splitLongSections
  dsimp only
  rw [ne_eq, List.map_eq_nil_iff, List.filter_eq_nil_iff]
  constructor
  · intro someText
    obtain ⟨part, hasText⟩ := not_forall.mp someText
    obtain ⟨member, text⟩ := Classical.not_imp.mp hasText
    obtain ⟨sec, inside, isPart⟩ := List.mem_flatMap.mp member
    refine ⟨sec, inside, part, isPart, ?_⟩
    intro blank
    apply text
    simp [(Text.strip_eq_nil_iff _).mpr blank]
  · rintro ⟨sec, inside, part, isPart, hasText⟩ noText
    have nothing := noText part (List.mem_flatMap.mpr ⟨sec, inside, isPart⟩)
    apply hasText
    rw [← Text.strip_eq_nil_iff]
    simpa using nothing

/-- **Classifier and chunker.** A document that is classified as functional gives a chunk
exactly when it has requirement text. -/
theorem functional_hasChunks_iff {config : PrdClassifierConfig}
    {extractAcceptanceCriteria : List Char → List AcceptanceCriteriaItem}
    {content : List Char} (functional : classifyPrd config content = .functional) :
    requirementChunks config extractAcceptanceCriteria content ≠ [] ↔
      HasRequirementText config content := by
  have routed : requirementChunks config extractAcceptanceCriteria content =
      chunkBySections config content := by
    rw [requirementChunks, functional]
  have bodies := mergeShortSections_content (parseSections content) config.sectionMinChars
  rw [parseSections_division] at bodies
  rw [routed, chunkBySections_ne_nil_iff, HasRequirementText, ← bodies]
  constructor
  · rintro ⟨sec, inside, hasText⟩
    exact ⟨sec.content, List.mem_map_of_mem inside, (exists_text_split_iff _ sec).mp hasText⟩
  · rintro ⟨body, inside, hasText⟩
    obtain ⟨sec, isSection, rfl⟩ := List.mem_map.mp inside
    exact ⟨sec, isSection, (exists_text_split_iff _ sec).mpr hasText⟩

/-- A document with a login requirement in its one numbered section. -/
def loginDocument : List Char := "1.1 Login\nAs in 2.1, 2.2, 2.3 and 2.4.".toList

theorem functional_hasChunks_iff_login :
    requirementChunks .default (fun _ => []) loginDocument ≠ [] ↔
      HasRequirementText .default loginDocument :=
  functional_hasChunks_iff (by decide)

/-- A document with versions in one sentence. -/
def releaseNote : List Char := "Works with v1.1, v1.2, v1.3, v1.4 and v1.5.".toList

/-- It is classified as functional, but has no section. -/
theorem releaseNote_hasNoChunks :
    classifyPrd .default releaseNote = .functional ∧
      requirementChunks .default (fun _ => []) releaseNote = [] := by
  decide

end QuAIA.Agents
