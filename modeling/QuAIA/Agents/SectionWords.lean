import Mathlib.Data.List.Perm.Basic
import QuAIA.Agents.TestCaseGeneration

/-!
Contract: which words of a document reach its requirement chunks.

Owns: the words of sections and of chunks, the pieces into which sections are merged and
split, the words of a text that is split at its numbered titles, where each word of the
sections is found, and which words are lost.

Does not own: how the sections are parsed.

The loops lose no word by themselves: what is merged keeps its title, and what is split keeps
its number and its title. Words are lost where a piece has a heading and no text, as it then
becomes no chunk.
-/

set_option autoImplicit false

namespace QuAIA.Agents

open QuAIA.Library
open QuAIA.Library.Text

/-! ## Words -/

/-- The words of a chunk: its id, then its text. -/
def AcceptanceCriteriaItem.words (item : AcceptanceCriteriaItem) : List (List Char) :=
  Text.words item.id.toList ++ Text.words item.text.toList

/-- The words of a section's title and content. -/
def Section.textWords (sec : Section) : List (List Char) :=
  Text.words sec.title ++ Text.words sec.content

def documentWords (sections : List Section) : List (List Char) :=
  sections.flatMap Section.textWords

def chunkWords (chunks : List AcceptanceCriteriaItem) : List (List Char) :=
  chunks.flatMap AcceptanceCriteriaItem.words

def Section.hasText (sec : Section) : Bool := !(strip sec.content).isEmpty

/-- The chunks of parsed sections. -/
def chunkSections (sections : List Section) (minChars maxChars : Int) :
    List AcceptanceCriteriaItem :=
  ((splitLongSections (mergeShortSections sections minChars) maxChars).filter
    Section.hasText).map Section.toItem

theorem chunkBySections_eq (config : PrdClassifierConfig) (content : List Char) :
    chunkBySections config content =
      chunkSections (parseSections content) config.sectionMinChars config.sectionMaxChars :=
  rfl

/-! ## The pieces of a document -/

/-- A section and the short ones that follow it. -/
structure SectionGroup where
  head : Section
  short : List Section

/-- The content of the section, then title and content of each short one. -/
def SectionGroup.body (group : SectionGroup) : List Char :=
  group.head.content ++ group.short.flatMap fun sec => appended sec.title sec.content

def groupsFrom (minChars : Int) (group : SectionGroup) : List Section → List SectionGroup
  | [] => [group]
  | sec :: rest =>
      if sec.charCount < minChars then
        groupsFrom minChars { group with short := group.short ++ [sec] } rest
      else group :: groupsFrom minChars ⟨sec, []⟩ rest

/-- Every section that is not short begins a group, and so does the first one. -/
def sectionGroups (minChars : Int) : List Section → List SectionGroup
  | [] => []
  | first :: rest => groupsFrom minChars ⟨first, []⟩ rest

/-- A group is one piece. If it is long and has numbered titles, what comes before the first
of them is a piece with the heading of the section, and each of them is one. -/
def SectionGroup.pieces (maxChars : Int) (group : SectionGroup) : List Section :=
  if group.body.length ≤ maxChars ∨ numberedTitle.parts group.body = [] then
    [{ group.head with content := group.body }]
  else
    { group.head with content := strip (numberedTitle.before group.body) } ::
      (numberedTitle.parts group.body).map fun titled =>
        ⟨titled.1.1, strip titled.1.2, strip titled.2⟩

def sectionPieces (minChars maxChars : Int) (sections : List Section) : List Section :=
  (sectionGroups minChars sections).flatMap (SectionGroup.pieces maxChars)

/-! ## Numbered titles -/

/-- A text falls apart at the end of a line. -/
theorem words_line (text : List Char) :
    words text = words (text.takeWhile (· ≠ '\n')) ++ words (text.dropWhile (· ≠ '\n')) := by
  have ends := List.head?_dropWhile_not (fun character => decide (character ≠ '\n')) text
  conv_lhs => rw [← List.takeWhile_append_dropWhile (p := (· ≠ '\n')) (l := text)]
  cases later : text.dropWhile (· ≠ '\n') with
  | nil => rw [List.append_nil, words_nil, List.append_nil]
  | cons character rest =>
      rw [later] at ends
      have feed : character = '\n' := by simpa using ends
      have space : isSpace character = true := by rw [feed]; decide
      rw [words_append_space space, words_space_cons space]

/-- A line feed is white space, so that nothing follows where the line is empty after it. -/
theorem blank_of_line_eq_nil {text : List Char}
    (noLine : (text.dropWhile isSpace).takeWhile (· ≠ '\n') = []) : Blank text := by
  have notSpace := List.head?_dropWhile_not isSpace text
  apply List.dropWhile_eq_nil_iff.mp
  cases after : text.dropWhile isSpace with
  | nil => rfl
  | cons character rest =>
      rw [after] at noLine notSpace
      by_cases feed : character = '\n'
      · have space : isSpace character = true := by rw [feed]; decide
        exact absurd space (Bool.eq_false_iff.mp notSpace)
      · simp [feed] at noLine

/-- Of white space only, any part may be taken away. -/
theorem words_drop_of_blank {text title : List Char} (blank : Blank text) (length : Nat)
    (inside : ∀ character ∈ title, character ∈ text) :
    words text = words title ++ words (text.drop length) := by
  have blankTitle : Blank title := fun character member => blank character (inside character member)
  have blankRest : Blank (text.drop length) :=
    fun character member => blank character (List.mem_of_mem_drop member)
  rw [words_of_blank blank, words_of_blank blankTitle, words_of_blank blankRest]
  rfl

/-- A title is preceded by white space, and ends with its line. -/
theorem words_titleAfter {text title : List Char} {length : Nat}
    (titled : titleAfter text = some (title, length)) :
    length ≤ text.length ∧ words text = words title ++ words (text.drop length) := by
  have whole := List.takeWhile_append_dropWhile (p := isSpace) (l := text)
  have wholeLength := congrArg List.length whole
  rw [List.length_append] at wholeLength
  rw [titleAfter] at titled
  split at titled
  · cases titled
  · split at titled
    · rename_i noLine
      split at titled
      · rename_i last other others ends
        cases titled
        have kept := List.dropWhile_sublist (· = '\n') (l := (text.takeWhile isSpace).reverse)
        rw [ends] at kept
        have bounded := kept.length_le
        rw [List.length_reverse] at bounded
        refine ⟨by omega, words_drop_of_blank (blank_of_line_eq_nil
          (List.isEmpty_iff.mp noLine)) _ ?_⟩
        intro character member
        rw [List.mem_singleton.mp member]
        have inSpace := List.mem_reverse.mp (kept.subset List.mem_cons_self)
        exact (List.takeWhile_sublist isSpace).subset inSpace
      · cases titled
    · cases titled
      have line := List.takeWhile_append_dropWhile (p := (· ≠ '\n')) (l := text.dropWhile isSpace)
      have lineLength := congrArg List.length line
      rw [List.length_append] at lineLength
      refine ⟨by omega, ?_⟩
      have apart : text = text.takeWhile isSpace ++ (text.dropWhile isSpace).takeWhile (· ≠ '\n') ++
          (text.dropWhile isSpace).dropWhile (· ≠ '\n') := by
        rw [List.append_assoc, line, whole]
      have dropped : text.drop ((text.takeWhile isSpace).length +
          ((text.dropWhile isSpace).takeWhile (· ≠ '\n')).length) =
          (text.dropWhile isSpace).dropWhile (· ≠ '\n') :=
        (congrArg (List.drop _) apart).trans (List.drop_left' List.length_append)
      rw [dropped, ← words_line]
      conv_lhs => rw [← whole]
      exact words_blank_append (blank_takeWhile text) _

theorem head?_of_titleAfter {text title : List Char} {length : Nat}
    (titled : titleAfter text = some (title, length)) :
    ∃ character rest, text = character :: rest ∧ isSpace character = true := by
  cases text with
  | nil => cases titled
  | cons character rest =>
      refine ⟨character, rest, rfl, ?_⟩
      by_contra noSpace
      rw [titleAfter, List.takeWhile_cons_of_neg noSpace] at titled
      cases titled

theorem dottedNumber_prefix (text : List Char) : dottedNumber text <+: text := by
  induction text with
  | nil => exact List.prefix_refl []
  | cons character rest inductionHypothesis =>
      rw [dottedNumber]
      split
      · exact List.cons_prefix_cons.mpr ⟨rfl, inductionHypothesis⟩
      · exact List.nil_prefix

theorem leadingNumber_prefix (text : List Char) : leadingNumber text <+: text := by
  unfold leadingNumber
  split
  · exact dottedNumber_prefix text
  · exact List.nil_prefix

/-- A numbered title begins a line; its words are those of the number and of the title. -/
theorem words_numberedTitle {previous : Option Char} {text number title : List Char}
    {length : Nat} (found : numberedTitle previous text = some ((number, title), length)) :
    previous.any (· ≠ '\n') = false ∧ 0 < length ∧ length ≤ text.length ∧
      words text = words number ++ (words title ++ words (text.drop length)) := by
  rw [numberedTitle] at found
  split at found
  · cases found
  · rename_i begins
    obtain ⟨⟨title', length'⟩, titled, same⟩ := Option.map_eq_some_iff.mp found
    cases same
    simp only [Bool.or_eq_true, not_or, Bool.not_eq_true, Bool.not_eq_eq_eq_not,
      Bool.not_true] at begins
    obtain ⟨atStart, dotted⟩ := begins
    obtain ⟨after, whole⟩ := leadingNumber_prefix text
    have dropped : text.drop (leadingNumber text).length = after :=
      (congrArg (List.drop _) whole.symm).trans List.drop_left
    rw [dropped] at titled
    obtain ⟨bounded, titleWords⟩ := words_titleAfter titled
    have lengths := congrArg List.length whole
    rw [List.length_append] at lengths
    have someNumber : 0 < (leadingNumber text).length := by
      rw [List.length_pos_iff]
      intro empty
      rw [empty] at dotted
      exact dotted rfl
    refine ⟨atStart, by dsimp only; omega, by dsimp only; omega, ?_⟩
    rw [← List.drop_drop, dropped, ← titleWords]
    obtain ⟨character, rest, afterEq, space⟩ := head?_of_titleAfter titled
    conv_lhs => rw [← whole, afterEq]
    rw [words_append_space space, afterEq, words_space_cons space]

theorem proper_numberedTitle : numberedTitle.Proper := by
  intro previous items captured length found
  obtain ⟨-, positive, bounded, -⟩ := words_numberedTitle found
  exact ⟨positive, bounded⟩

/-- The words of a numbered title and of what follows it. -/
def titledWords (titled : (List Char × List Char) × List Char) : List (List Char) :=
  words titled.1.1 ++ (words titled.1.2 ++ words titled.2)

/-- A text falls apart at the beginning of a line. -/
theorem words_append_line {previous : Option Char} {before after : List Char}
    (ends : after = [] ∨ (before.getLast?.or previous).any (· ≠ '\n') = false) :
    words (before ++ after) = words before ++ words after := by
  rcases ends with rfl | ends
  · rw [List.append_nil, words_nil, List.append_nil]
  · rcases List.eq_nil_or_concat before with rfl | ⟨first, last, rfl⟩
    · rw [words_nil]
      rfl
    · rw [List.concat_eq_append, List.getLast?_concat] at ends
      have feed : last = '\n' := by simpa using ends
      have space : isSpace last = true := by rw [feed]; decide
      rw [List.concat_eq_append, List.append_assoc, List.singleton_append,
        words_append_space space, words_append_space space, words_nil, List.append_nil]

/-- What comes before the first numbered title ends with a line, if there is one. -/
theorem words_division {previous : Option Char} {text before : List Char}
    {parts : List ((List Char × List Char) × List Char)}
    (division : numberedTitle.Division previous text before parts) :
    ∃ titled, text = before ++ titled ∧ words titled = parts.flatMap titledWords ∧
      (titled = [] ∨ (before.getLast?.or previous).any (· ≠ '\n') = false) := by
  induction division with
  | nil => exact ⟨[], rfl, words_nil, Or.inl rfl⟩
  | @skip previous item rest before parts noMatch later inductionHypothesis =>
      obtain ⟨titled, whole, titledEq, ends⟩ := inductionHypothesis
      refine ⟨titled, congrArg (item :: ·) whole, titledEq, ends.imp id fun atStart => ?_⟩
      cases before with
      | nil => exact atStart
      | cons second others => rw [List.getLast?_cons_cons]; exact atStart
  | @found previous matched rest before captured parts isMatch later inductionHypothesis =>
      obtain ⟨atStart, -, -, matchWords⟩ := words_numberedTitle isMatch
      obtain ⟨titled, whole, titledEq, ends⟩ := inductionHypothesis
      refine ⟨matched ++ rest, rfl, ?_, Or.inr atStart⟩
      have restWords : words rest = words before ++ parts.flatMap titledWords := by
        rw [whole, words_append_line ends, titledEq]
      rw [matchWords, List.drop_left, restWords, List.flatMap_cons, titledWords]
      simp only [List.append_assoc]

/-- No word is lost where a text is divided at its numbered titles. -/
theorem words_parts (text : List Char) :
    words text = words (numberedTitle.before text) ++
      (numberedTitle.parts text).flatMap titledWords := by
  obtain ⟨titled, whole, titledEq, ends⟩ :=
    words_division (Pattern.division proper_numberedTitle text)
  conv_lhs => rw [whole]
  rw [words_append_line ends, titledEq]

/-! ## Merging and splitting -/

theorem Section.toItem_words (sec : Section) :
    sec.toItem.words = Text.words sec.sectionId ++ sec.textWords := by
  have space : isSpace '\n' = true := by decide
  rw [AcceptanceCriteriaItem.words, toItem, String.toList_ofList, String.toList_ofList,
    words_append_space space, words_space_cons space, textWords]

/-- A short section adds the words of its title and of its content, and one mark. -/
theorem words_append_appended (content title next : List Char) :
    words (content ++ appended title next) =
      words content ++ "###".toList :: (words title ++ words next) := by
  have feed : isSpace '\n' = true := by decide
  have space : isSpace ' ' = true := by decide
  have mark : words "###".toList = ["###".toList] := by decide
  have shape : appended title next =
      '\n' :: '\n' :: ("###".toList ++ ' ' :: (title ++ '\n' :: next)) := rfl
  rw [shape, words_append_space feed, words_space_cons feed, words_append_space space,
    words_append_space feed, mark]
  rfl

/-- The short sections of a group leave their words in its body. -/
theorem words_sublist_body (content : List Char) (short : List Section) :
    (words content ++ documentWords short).Sublist
      (words (content ++ short.flatMap fun sec => appended sec.title sec.content)) := by
  induction short generalizing content with
  | nil =>
      simp only [documentWords, List.flatMap_nil, List.append_nil]
      exact List.Sublist.refl _
  | cons sec rest inductionHypothesis =>
      have later := inductionHypothesis (content ++ appended sec.title sec.content)
      rw [words_append_appended, List.append_assoc] at later
      rw [List.flatMap_cons, ← List.append_assoc]
      refine List.Sublist.trans ?_ later
      exact (List.sublist_cons_self _ _).append_left (words content)

/-- The sections of a group. -/
def SectionGroup.sections (group : SectionGroup) : List Section := group.head :: group.short

theorem groupsFrom_sections (minChars : Int) (group : SectionGroup) (rest : List Section) :
    (groupsFrom minChars group rest).flatMap SectionGroup.sections = group.sections ++ rest := by
  induction rest generalizing group with
  | nil => simp [groupsFrom]
  | cons sec rest inductionHypothesis =>
      rw [groupsFrom]
      split
      · rw [inductionHypothesis]
        simp [SectionGroup.sections]
      · rw [List.flatMap_cons, inductionHypothesis]
        simp [SectionGroup.sections]

/-- Each section is in one group, in the order of the sections. -/
theorem sectionGroups_sections (minChars : Int) (sections : List Section) :
    (sectionGroups minChars sections).flatMap SectionGroup.sections = sections := by
  cases sections with
  | nil => rfl
  | cons first rest => exact groupsFrom_sections minChars ⟨first, []⟩ rest

def SectionGroup.merged (group : SectionGroup) : Section :=
  { group.head with content := group.body }

theorem foldl_mergeSection_groups (minChars : Int) (rest merged : List Section)
    (group : SectionGroup) :
    rest.foldl (mergeSection minChars) (merged ++ [group.merged]) =
      merged ++ (groupsFrom minChars group rest).map SectionGroup.merged := by
  induction rest generalizing merged group with
  | nil => rfl
  | cons sec rest inductionHypothesis =>
      rw [List.foldl_cons, groupsFrom]
      by_cases short : (sec.charCount : Int) < minChars
      · have step : mergeSection minChars (merged ++ [group.merged]) sec =
            merged ++ [SectionGroup.merged { group with short := group.short ++ [sec] }] := by
          simp [mergeSection, short, SectionGroup.merged, SectionGroup.body]
        rw [step, inductionHypothesis, if_pos short]
      · have step : mergeSection minChars (merged ++ [group.merged]) sec =
            (merged ++ [group.merged]) ++ [SectionGroup.merged ⟨sec, []⟩] := by
          simp [mergeSection, short, SectionGroup.merged, SectionGroup.body]
        rw [step, inductionHypothesis, if_neg short, List.map_cons, List.append_assoc,
          List.singleton_append]

theorem mergeShortSections_eq (sections : List Section) (minChars : Int) :
    mergeShortSections sections minChars =
      (sectionGroups minChars sections).map SectionGroup.merged := by
  cases sections with
  | nil => rfl
  | cons first rest =>
      have begins : SectionGroup.merged ⟨first, []⟩ = first := by
        simp [SectionGroup.merged, SectionGroup.body]
      have merged := foldl_mergeSection_groups minChars rest [] ⟨first, []⟩
      rw [begins] at merged
      exact merged

/-- The words of a group are found in its pieces. -/
theorem words_sublist_pieces (maxChars : Int) (group : SectionGroup) :
    (documentWords group.sections).Sublist
      (chunkWords ((group.pieces maxChars).map Section.toItem)) := by
  have inBody : (documentWords group.sections).Sublist
      (words group.head.title ++ words group.body) := by
    rw [documentWords, SectionGroup.sections, List.flatMap_cons, Section.textWords,
      List.append_assoc]
    exact (words_sublist_body group.head.content group.short).append_left _
  refine inBody.trans ?_
  unfold SectionGroup.pieces
  split
  · rw [chunkWords, List.map_singleton, List.flatMap_singleton, Section.toItem_words]
    exact List.sublist_append_right _ _
  · have titles : chunkWords (((numberedTitle.parts group.body).map fun titled =>
        (⟨titled.1.1, strip titled.1.2, strip titled.2⟩ : Section)).map Section.toItem) =
        (numberedTitle.parts group.body).flatMap titledWords := by
      rw [chunkWords, List.map_map, List.flatMap_map]
      congr 1
      funext titled
      rw [Function.comp_apply, Section.toItem_words, Section.textWords, words_strip, words_strip,
        titledWords]
    rw [chunkWords] at titles ⊢
    rw [List.map_cons, List.flatMap_cons, titles, Section.toItem_words, Section.textWords,
      words_strip, words_parts group.body, List.append_assoc, List.append_assoc]
    exact List.sublist_append_right _ _

/-- The chunks of a group are its pieces that have text. -/
theorem filter_splitLongSection (maxChars : Int) (group : SectionGroup) :
    (splitLongSection maxChars group.merged).filter Section.hasText =
      (group.pieces maxChars).filter Section.hasText := by
  unfold splitLongSection SectionGroup.pieces
  by_cases short : (group.body.length : Int) ≤ maxChars
  · have fits : (group.merged.charCount : Int) ≤ maxChars := short
    rw [if_pos fits, if_pos (Or.inl short)]
    rfl
  · have long : ¬(group.merged.charCount : Int) ≤ maxChars := short
    have content : group.merged.content = group.body := rfl
    rw [if_neg long, content]
    cases titles : numberedTitle.parts group.body with
    | nil =>
        rw [List.isEmpty_nil, if_pos rfl, if_pos (Or.inr rfl)]
        rfl
    | cons titled others =>
        have split : ¬((group.body.length : Int) ≤ maxChars ∨ titled :: others = []) := by
          simp [short]
        have headPiece : (if (strip (numberedTitle.before group.body)).isEmpty then []
            else [{ group.merged with
              content := strip (numberedTitle.before group.body) }]).filter Section.hasText =
            [{ group.head with
              content := strip (numberedTitle.before group.body) }].filter Section.hasText := by
          cases strip (numberedTitle.before group.body) with
          | nil => rfl
          | cons character rest => rfl
        rw [List.isEmpty_cons, if_neg Bool.false_ne_true, if_neg split, List.filter_append,
          headPiece, ← List.filter_append, parseSectionsFromText, titles]
        rfl

/-- **Words of a document.** A document is divided into pieces which have all its words in their
order, and its chunks are the pieces that have text. -/
theorem words_kept (sections : List Section) (minChars maxChars : Int) :
    (documentWords sections).Sublist
        (chunkWords ((sectionPieces minChars maxChars sections).map Section.toItem)) ∧
      chunkSections sections minChars maxChars =
        ((sectionPieces minChars maxChars sections).filter Section.hasText).map Section.toItem := by
  constructor
  · conv_lhs => rw [← sectionGroups_sections minChars sections]
    unfold sectionPieces
    induction sectionGroups minChars sections with
    | nil => exact List.Sublist.refl []
    | cons group groups inductionHypothesis =>
        have first := words_sublist_pieces maxChars group
        unfold documentWords chunkWords at first inductionHypothesis ⊢
        rw [List.flatMap_cons, List.flatMap_cons, List.map_append, List.flatMap_append,
          List.flatMap_append]
        exact first.append inductionHypothesis
  · rw [chunkSections, mergeShortSections_eq, splitLongSections, sectionPieces, List.flatMap_map,
      List.filter_flatMap, List.filter_flatMap]
    congr 2
    funext group
    exact filter_splitLongSection maxChars group

/-! ## What is lost -/

/-- The words of a heading, where it has no text. -/
def lostHeading (heading : List (List Char)) (text : List Char) : List (List Char) :=
  if (strip text).isEmpty then heading else []

/-- The words of a heading and of its text, where it has one. -/
def keptHeading (heading : List (List Char)) (text : List Char) : List (List Char) :=
  if (strip text).isEmpty then [] else heading ++ words text

/-- The words of the headings in a group that have no text. The number of a numbered title is a
word of its heading, and the id of a section is none. -/
def SectionGroup.lostWords (maxChars : Int) (group : SectionGroup) : List (List Char) :=
  if group.body.length ≤ maxChars ∨ numberedTitle.parts group.body = [] then
    lostHeading (words group.head.title) group.body
  else
    lostHeading (words group.head.title) (numberedTitle.before group.body) ++
      (numberedTitle.parts group.body).flatMap fun titled =>
        lostHeading (words titled.1.1 ++ words titled.1.2) titled.2

def SectionGroup.keptWords (maxChars : Int) (group : SectionGroup) : List (List Char) :=
  if group.body.length ≤ maxChars ∨ numberedTitle.parts group.body = [] then
    keptHeading (words group.head.title) group.body
  else
    keptHeading (words group.head.title) (numberedTitle.before group.body) ++
      (numberedTitle.parts group.body).flatMap fun titled =>
        keptHeading (words titled.1.1 ++ words titled.1.2) titled.2

/-- The words that stand in no chunk. -/
def lostWords (sections : List Section) (minChars maxChars : Int) : List (List Char) :=
  (sectionGroups minChars sections).flatMap (SectionGroup.lostWords maxChars)

theorem keptHeading_sublist (heading : List (List Char)) (text : List Char) :
    (keptHeading heading text).Sublist (heading ++ words text) := by
  rw [keptHeading]
  split
  · exact List.nil_sublist _
  · exact List.Sublist.refl _

theorem keptHeading_perm (heading : List (List Char)) (text : List Char) :
    (keptHeading heading text ++ lostHeading heading text).Perm (heading ++ words text) := by
  rw [keptHeading, lostHeading]
  split
  · rename_i noText
    have blank := (strip_eq_nil_iff text).mp (List.isEmpty_iff.mp noText)
    rw [words_of_blank blank, List.append_nil, List.nil_append]
  · rw [List.append_nil]

/-- The words of a group, with the marks of its short sections. -/
def SectionGroup.words (group : SectionGroup) : List (List Char) :=
  Text.words group.head.title ++ Text.words group.body

theorem SectionGroup.words_eq (group : SectionGroup) :
    group.words = (Text.words group.head.title ++ Text.words (numberedTitle.before group.body)) ++
      (numberedTitle.parts group.body).flatMap fun titled =>
        (Text.words titled.1.1 ++ Text.words titled.1.2) ++ Text.words titled.2 := by
  rw [SectionGroup.words, words_parts group.body, List.append_assoc]
  refine congrArg _ (congrArg _ (List.flatMap_congr fun titled _ => ?_))
  rw [titledWords, List.append_assoc]

theorem SectionGroup.keptWords_sublist (maxChars : Int) (group : SectionGroup) :
    (group.keptWords maxChars).Sublist group.words := by
  rw [keptWords]
  split
  · exact keptHeading_sublist _ _
  · rw [group.words_eq]
    refine (keptHeading_sublist _ _).append ?_
    induction numberedTitle.parts group.body with
    | nil => exact List.Sublist.refl []
    | cons titled rest inductionHypothesis =>
        rw [List.flatMap_cons, List.flatMap_cons]
        exact (keptHeading_sublist _ _).append inductionHypothesis

/-- A word of a group is kept or lost. -/
theorem SectionGroup.keptWords_perm (maxChars : Int) (group : SectionGroup) :
    (group.keptWords maxChars ++ group.lostWords maxChars).Perm group.words := by
  rw [keptWords, lostWords]
  split
  · exact keptHeading_perm _ _
  · rw [group.words_eq]
    have heads := keptHeading_perm (Text.words group.head.title) (numberedTitle.before group.body)
    have parts := (List.flatMap_append_perm (numberedTitle.parts group.body)
      (fun titled => keptHeading (Text.words titled.1.1 ++ Text.words titled.1.2) titled.2)
      (fun titled => lostHeading (Text.words titled.1.1 ++ Text.words titled.1.2) titled.2)).trans
        (List.Perm.flatMap_left _ fun titled _ => keptHeading_perm _ titled.2)
    refine List.Perm.trans ?_ (heads.append parts)
    simp only [List.append_assoc]
    refine List.Perm.append_left _ ?_
    rw [← List.append_assoc, ← List.append_assoc]
    exact List.perm_append_comm.append_right _

theorem SectionGroup.keptWords_eq_of_lost_nil {maxChars : Int} {group : SectionGroup}
    (noneLost : group.lostWords maxChars = []) : group.keptWords maxChars = group.words := by
  have perm := group.keptWords_perm maxChars
  rw [noneLost, List.append_nil] at perm
  exact (group.keptWords_sublist maxChars).eq_of_length perm.length_eq

theorem isEmpty_strip_strip (text : List Char) :
    (strip (strip text)).isEmpty = (strip text).isEmpty := by
  rw [Bool.eq_iff_iff, List.isEmpty_iff, List.isEmpty_iff, strip_eq_nil_iff, strip_eq_nil_iff,
    blank_strip_iff]

theorem keptHeading_strip (heading : List (List Char)) (text : List Char) :
    keptHeading heading (strip text) = keptHeading heading text := by
  rw [keptHeading, keptHeading, isEmpty_strip_strip, words_strip]

/-- The chunk of a piece: where it has text, its id and what it keeps. -/
theorem chunkWords_cons (sec : Section) (others : List Section) :
    chunkWords (((sec :: others).filter Section.hasText).map Section.toItem) =
      (if (strip sec.content).isEmpty then [] else Text.words sec.sectionId) ++
        (keptHeading (Text.words sec.title) sec.content ++
          chunkWords ((others.filter Section.hasText).map Section.toItem)) := by
  cases noText : (strip sec.content).isEmpty with
  | true => simp [Section.hasText, noText, keptHeading]
  | false =>
      simp [Section.hasText, noText, keptHeading, chunkWords, Section.toItem_words,
        Section.textWords]

/-- A numbered title keeps its number as the id of its piece. -/
theorem chunkWords_titled (parts : List ((List Char × List Char) × List Char)) :
    chunkWords (((parts.map fun titled =>
        (⟨titled.1.1, strip titled.1.2, strip titled.2⟩ : Section)).filter Section.hasText).map
          Section.toItem) =
      parts.flatMap fun titled =>
        keptHeading (Text.words titled.1.1 ++ Text.words titled.1.2) titled.2 := by
  induction parts with
  | nil => rfl
  | cons titled rest inductionHypothesis =>
      rw [List.map_cons, chunkWords_cons, inductionHypothesis, List.flatMap_cons, words_strip,
        keptHeading_strip, ← List.append_assoc]
      congr 1
      dsimp only
      rw [isEmpty_strip_strip, keptHeading, keptHeading]
      split
      · rfl
      · rw [List.append_assoc]

/-- The chunks of a group have its kept words, and in front of them perhaps those of its id. -/
theorem SectionGroup.chunkWords_eq (maxChars : Int) (group : SectionGroup) :
    ∃ ids : List (List Char), ids.Sublist (Text.words group.head.sectionId) ∧
      chunkWords (((group.pieces maxChars).filter Section.hasText).map Section.toItem) =
        ids ++ group.keptWords maxChars := by
  have idWords : ∀ text : List Char, (if (strip text).isEmpty then []
      else Text.words group.head.sectionId).Sublist (Text.words group.head.sectionId) := by
    intro text
    split
    · exact List.nil_sublist _
    · exact List.Sublist.refl _
  rw [pieces, keptWords]
  split
  · refine ⟨_, idWords group.body, ?_⟩
    rw [chunkWords_cons]
    exact congrArg _ (List.append_nil _)
  · refine ⟨_, idWords (strip (numberedTitle.before group.body)), ?_⟩
    rw [chunkWords_cons, chunkWords_titled, keptHeading_strip]

/-- The words of a group's sections are its words, where the marks do not count. -/
theorem SectionGroup.documentWords_sublist (group : SectionGroup) :
    (documentWords group.sections).Sublist group.words := by
  rw [documentWords, SectionGroup.sections, List.flatMap_cons, Section.textWords,
    List.append_assoc]
  exact (words_sublist_body group.head.content group.short).append_left _

theorem count_appended {word : List Char} (notMark : word ≠ "###".toList) (content : List Char)
    (short : List Section) :
    (Text.words (content ++ short.flatMap fun sec => appended sec.title sec.content)).count word =
      (Text.words content ++ documentWords short).count word := by
  induction short generalizing content with
  | nil => simp [documentWords]
  | cons sec rest inductionHypothesis =>
      rw [List.flatMap_cons, ← List.append_assoc, inductionHypothesis, words_append_appended,
        documentWords, documentWords, List.flatMap_cons, Section.textWords]
      simp only [List.count_append, List.count_cons_of_ne (Ne.symm notMark)]
      omega

theorem SectionGroup.count_words {word : List Char} (notMark : word ≠ "###".toList)
    (group : SectionGroup) :
    group.words.count word = (documentWords group.sections).count word := by
  rw [SectionGroup.words, List.count_append, body, count_appended notMark, sections, documentWords,
    documentWords, List.flatMap_cons, Section.textWords]
  simp only [List.count_append]
  omega

section Groups

variable {maxChars : Int}

/-- The chunks of some groups. -/
def groupChunks (maxChars : Int) (groups : List SectionGroup) : List AcceptanceCriteriaItem :=
  ((groups.flatMap (SectionGroup.pieces maxChars)).filter Section.hasText).map Section.toItem

theorem chunkWords_groups (group : SectionGroup) (groups : List SectionGroup) :
    chunkWords (groupChunks maxChars (group :: groups)) =
      chunkWords (((group.pieces maxChars).filter Section.hasText).map Section.toItem) ++
        chunkWords (groupChunks maxChars groups) := by
  rw [groupChunks, List.flatMap_cons, List.filter_append, List.map_append, chunkWords,
    List.flatMap_append]
  rfl

theorem documentWords_groups (group : SectionGroup) (groups : List SectionGroup) :
    documentWords ((group :: groups).flatMap SectionGroup.sections) =
      documentWords group.sections ++ documentWords (groups.flatMap SectionGroup.sections) := by
  rw [documentWords, List.flatMap_cons, List.flatMap_append]
  rfl

/-- If no heading is lost, every word is in the chunks. -/
theorem sublist_of_noneLost {groups : List SectionGroup}
    (noneLost : ∀ group ∈ groups, group.lostWords maxChars = []) :
    (documentWords (groups.flatMap SectionGroup.sections)).Sublist
      (chunkWords (groupChunks maxChars groups)) := by
  induction groups with
  | nil => exact List.Sublist.refl []
  | cons group groups inductionHypothesis =>
      have later := inductionHypothesis fun other member => noneLost other (by simp [member])
      obtain ⟨ids, -, ofGroup⟩ := group.chunkWords_eq maxChars
      rw [documentWords_groups, chunkWords_groups, ofGroup,
        SectionGroup.keptWords_eq_of_lost_nil (noneLost group (by simp))]
      exact (group.documentWords_sublist.trans (List.sublist_append_right _ _)).append later

/-- A word that is no mark and no id is in the chunks as often as in the document, less the times
that it is lost. -/
theorem count_groups {word : List Char} (notMark : word ≠ "###".toList) (maxChars : Int)
    (groups : List SectionGroup) (noId : ∀ group ∈ groups, word ∉ Text.words group.head.sectionId) :
    (documentWords (groups.flatMap SectionGroup.sections)).count word =
      (chunkWords (groupChunks maxChars groups)).count word +
        (groups.flatMap (SectionGroup.lostWords maxChars)).count word := by
  induction groups with
  | nil => rfl
  | cons group groups inductionHypothesis =>
      have later := inductionHypothesis fun other member => noId other (by simp [member])
      obtain ⟨ids, ofId, ofGroup⟩ := group.chunkWords_eq maxChars
      have notInIds : ids.count word = 0 :=
        List.count_eq_zero.mpr fun member => noId group (by simp) (ofId.subset member)
      have ofWords := (group.keptWords_perm maxChars).count_eq word
      rw [List.count_append, group.count_words notMark] at ofWords
      rw [documentWords_groups, chunkWords_groups, ofGroup, List.flatMap_cons]
      simp only [List.count_append]
      omega

end Groups

theorem chunkSections_eq (sections : List Section) (minChars maxChars : Int) :
    chunkSections sections minChars maxChars =
      groupChunks maxChars (sectionGroups minChars sections) :=
  (words_kept sections minChars maxChars).2

/-- **Words that are lost.** If no heading is lost, the words of a document are found in its
chunks, in their order. And they are not if a word of a lost heading is no mark and no id of a
section, which might stand in for it. -/
theorem words_kept_unless_lost (sections : List Section) (minChars maxChars : Int) :
    (lostWords sections minChars maxChars = [] →
      (documentWords sections).Sublist (chunkWords (chunkSections sections minChars maxChars))) ∧
    ∀ word ∈ lostWords sections minChars maxChars, word ≠ "###".toList →
      (∀ sec ∈ sections, word ∉ words sec.sectionId) →
      ¬(documentWords sections).Sublist
        (chunkWords (chunkSections sections minChars maxChars)) := by
  have grouped := sectionGroups_sections minChars sections
  rw [chunkSections_eq]
  constructor
  · intro noneLost
    have kept := sublist_of_noneLost (List.flatMap_eq_nil_iff.mp noneLost)
    rwa [grouped] at kept
  · intro word isLost notMark noId kept
    have counted := count_groups notMark maxChars (sectionGroups minChars sections)
      fun group member =>
        noId group.head (grouped ▸ List.mem_flatMap.mpr ⟨group, member, List.mem_cons_self⟩)
    rw [grouped] at counted
    have atMost := kept.count_le word
    have positive : 0 < ((sectionGroups minChars sections).flatMap
        (SectionGroup.lostWords maxChars)).count word := List.count_pos_iff.mpr isLost
    omega

/-- A page whose requirements are lines of their own. -/
def loginPage : List Char := "<h2>5 Login</h2>\n5.1 Users log in\n5.2 Users log out".toList

def loginSections : List Section :=
  [⟨"5".toList, "5 Login".toList, "5.1 Users log in\n5.2 Users log out".toList⟩]

/-- With sections of at most 20 characters there is no chunk at all. -/
theorem login_wordsLost :
    parseSections loginPage = loginSections ∧ chunkSections loginSections 300 20 = [] ∧
      lostWords loginSections 300 20 =
        words "5 Login 5.1 Users log in 5.2 Users log out".toList ∧
      ¬∀ (sections : List Section) (minChars maxChars : Int),
        (documentWords sections).Sublist
          (chunkWords (chunkSections sections minChars maxChars)) := by
  refine ⟨by decide +kernel, by decide +kernel, by decide +kernel, ?_⟩
  intro kept
  have lost : ¬(documentWords loginSections).Sublist
      (chunkWords (chunkSections loginSections 300 20)) := by
    decide +kernel
  exact lost (kept loginSections 300 20)

end QuAIA.Agents
