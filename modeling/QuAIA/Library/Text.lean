import Mathlib.Data.List.Basic
import Mathlib.Data.List.TakeWhile

/-!
Contract: bytes, characters and lines of text.

Owns: UTF-8 encoding, its decoding with and without replacement of ill-formed bytes, the
splitting of a text at line boundaries, the laws by which encoded and joined lines are
read back, white space, and the words between it.

Ill-formed bytes are replaced by maximal subpart: the longest start of a
well-formed sequence becomes one replacement character.
-/

set_option autoImplicit false

namespace QuAIA.Library.Text

/-! ## UTF-8 -/

def encodeChars (characters : List Char) : List UInt8 :=
  characters.flatMap String.utf8EncodeChar

def encode (text : String) : List UInt8 := encodeChars text.toList

def isTail (byte : UInt8) : Bool := decide (0x80 ≤ byte ∧ byte ≤ 0xBF)

/-- The second byte of a sequence of three or four, by the first. -/
def secondAllowed (first second : UInt8) : Bool :=
  if first = 0xE0 then decide (0xA0 ≤ second ∧ second ≤ 0xBF)
  else if first = 0xED then decide (0x80 ≤ second ∧ second ≤ 0x9F)
  else if 0xE1 ≤ first ∧ first ≤ 0xEF then isTail second
  else if first = 0xF0 then decide (0x90 ≤ second ∧ second ≤ 0xBF)
  else if 0xF1 ≤ first ∧ first ≤ 0xF3 then isTail second
  else if first = 0xF4 then decide (0x80 ≤ second ∧ second ≤ 0x8F)
  else false

/-- Bytes that one replacement character stands for. -/
def illFormedLength : List UInt8 → Nat
  | first :: second :: rest =>
      if secondAllowed first second then
        match rest with
        | third :: _ => if 0xF0 ≤ first && isTail third then 3 else 2
        | [] => 2
      else 1
  | _ => 1

/-- The next character, and how many bytes it takes. -/
def decodeStep (bytes : List UInt8) : Char × Nat :=
  match bytes.toByteArray.utf8DecodeChar? 0 with
  | some character => (character, character.utf8Size)
  | none => ('\uFFFD', illFormedLength bytes)

/-- Decode with at most as many steps as `fuel`. -/
def decodeFrom : Nat → List UInt8 → List Char
  | 0, _ => []
  | _ + 1, [] => []
  | fuel + 1, byte :: rest =>
      let (character, used) := decodeStep (byte :: rest)
      character :: decodeFrom fuel ((byte :: rest).drop used)

/-- Every step takes a byte, so the length is fuel enough. -/
def decodeReplacing (bytes : List UInt8) : String :=
  String.ofList (decodeFrom bytes.length bytes)

theorem decodeStep_encoded (character : Char) (rest : List UInt8) :
    decodeStep (String.utf8EncodeChar character ++ rest) =
      (character, character.utf8Size) := by
  unfold decodeStep
  rw [List.toByteArray_append, ByteArray.utf8DecodeChar?_utf8EncodeChar_append]

theorem drop_encoded (character : Char) (rest : List UInt8) :
    (String.utf8EncodeChar character ++ rest).drop character.utf8Size = rest := by
  apply List.drop_left'
  exact String.length_utf8EncodeChar character

theorem decodeFrom_encodeChars (characters : List Char) (fuel : Nat)
    (enough : (encodeChars characters).length ≤ fuel) :
    decodeFrom fuel (encodeChars characters) = characters := by
  induction characters generalizing fuel with
  | nil => cases fuel <;> rfl
  | cons character rest inductionHypothesis =>
      have unfolded : encodeChars (character :: rest) =
          String.utf8EncodeChar character ++ encodeChars rest := rfl
      rw [unfolded] at enough ⊢
      have size := String.length_utf8EncodeChar character
      have positive := character.utf8Size_pos
      rw [List.length_append, size] at enough
      obtain ⟨less, rfl⟩ : ∃ less, fuel = less + 1 := ⟨fuel - 1, by omega⟩
      have rested := inductionHypothesis less (by omega)
      have step := decodeStep_encoded character (encodeChars rest)
      have dropped := drop_encoded character (encodeChars rest)
      cases bytes : String.utf8EncodeChar character ++ encodeChars rest with
      | nil =>
          have empty := congrArg List.length bytes
          simp only [List.length_append, size, List.length_nil] at empty
          omega
      | cons byte others =>
          rw [bytes] at step dropped
          rw [decodeFrom, step]
          simp only [dropped, rested]

theorem decodeReplacing_encode (text : String) : decodeReplacing (encode text) = text := by
  unfold decodeReplacing encode
  rw [decodeFrom_encodeChars text.toList _ (Nat.le_refl _)]
  exact String.ofList_toList

/-- Decode well-formed bytes only: those that encode what they decode to. -/
def decode (bytes : List UInt8) : Option String :=
  if encode (decodeReplacing bytes) = bytes then some (decodeReplacing bytes) else none

theorem decode_encode (text : String) : decode (encode text) = some text := by
  unfold decode
  rw [decodeReplacing_encode, if_pos rfl]

/-! ## Lines -/

/-- The characters at which a text is split into lines. -/
def isLineBreak (character : Char) : Bool :=
  character.toNat ∈ [0x0A, 0x0B, 0x0C, 0x0D, 0x1C, 0x1D, 0x1E, 0x85, 0x2028, 0x2029]

/-- Split with `current` as the start of the first line. A carriage return and the
line feed after it are one boundary, and a text ends without one more line. -/
def splitLinesFrom (current : List Char) : List Char → List (List Char)
  | [] => if current.isEmpty then [] else [current]
  | '\r' :: '\n' :: rest => current :: splitLinesFrom [] rest
  | character :: rest =>
      if isLineBreak character then current :: splitLinesFrom [] rest
      else splitLinesFrom (current ++ [character]) rest

def splitLines (text : String) : List String :=
  (splitLinesFrom [] text.toList).map String.ofList

/-- The lines of a text that was joined with line feeds. -/
def fieldsOfLines (text : String) : List String :=
  (text.toList.splitOn '\n').map String.ofList

/-- No character is a line boundary. -/
def Unbroken (characters : List Char) : Prop :=
  ∀ character ∈ characters, isLineBreak character = false

theorem unbroken_iff_all (characters : List Char) :
    (characters.all fun character => !isLineBreak character) = true ↔ Unbroken characters := by
  rw [List.all_eq_true, Unbroken]
  exact forall₂_congr fun _ _ => Bool.not_eq_eq_eq_not

instance (characters : List Char) : Decidable (Unbroken characters) :=
  decidable_of_iff _ (unbroken_iff_all characters)

theorem Unbroken.notNewline {characters : List Char} (unbroken : Unbroken characters) :
    '\n' ∉ characters := by
  intro member
  have isBreak : isLineBreak '\n' = true := by decide
  exact absurd (unbroken '\n' member) (by rw [isBreak]; decide)

theorem unbroken_of_mem_splitLinesFrom {current characters line : List Char}
    (unbroken : Unbroken current) (member : line ∈ splitLinesFrom current characters) :
    Unbroken line := by
  induction current, characters using splitLinesFrom.induct with
  | case1 current empty =>
      rw [splitLinesFrom, if_pos empty] at member
      cases member
  | case2 current nonempty =>
      rw [splitLinesFrom, if_neg nonempty, List.mem_singleton] at member
      exact member ▸ unbroken
  | case3 current rest inductionHypothesis =>
      rw [splitLinesFrom, List.mem_cons] at member
      rcases member with rfl | inside
      · exact unbroken
      · exact inductionHypothesis (by simp [Unbroken]) inside
  | case4 current character rest other isBreak inductionHypothesis =>
      rw [splitLinesFrom.eq_3 _ _ _ other, if_pos isBreak, List.mem_cons] at member
      rcases member with rfl | inside
      · exact unbroken
      · exact inductionHypothesis (by simp [Unbroken]) inside
  | case5 current character rest other notBreak inductionHypothesis =>
      rw [splitLinesFrom.eq_3 _ _ _ other, if_neg notBreak] at member
      apply inductionHypothesis _ member
      intro next inside
      rcases List.mem_append.mp inside with old | added
      · exact unbroken next old
      · rw [List.mem_singleton.mp added]
        exact Bool.not_eq_true _ ▸ notBreak

theorem unbroken_of_mem_splitLines {text line : String} (member : line ∈ splitLines text) :
    Unbroken line.toList := by
  obtain ⟨characters, inside, rfl⟩ := List.mem_map.mp member
  rw [String.toList_ofList]
  exact unbroken_of_mem_splitLinesFrom (by simp [Unbroken]) inside

/-- Characters that are no boundary only extend the current line. -/
theorem splitLinesFrom_append {characters : List Char} (unbroken : Unbroken characters)
    (current rest : List Char) :
    splitLinesFrom current (characters ++ rest) =
      splitLinesFrom (current ++ characters) rest := by
  induction characters generalizing current with
  | nil => simp
  | cons character others inductionHypothesis =>
      have notBreak := unbroken character List.mem_cons_self
      have notReturn : ∀ tail, character = '\r' → others ++ rest = '\n' :: tail → False := by
        rintro tail rfl
        exact absurd notBreak (by decide)
      have next := inductionHypothesis (fun other member =>
        unbroken other (List.mem_cons_of_mem _ member)) (current ++ [character])
      rw [List.cons_append, splitLinesFrom.eq_3 _ _ _ notReturn, notBreak]
      rw [if_neg Bool.false_ne_true, next, List.append_assoc, List.singleton_append]

theorem splitLinesFrom_newline (current rest : List Char) :
    splitLinesFrom current ('\n' :: rest) = current :: splitLinesFrom [] rest := by
  have isBreak : isLineBreak '\n' = true := by decide
  rw [splitLinesFrom.eq_3 _ _ _ (by simp), if_pos isBreak]

/-- Joined lines are split into the same lines, but for one empty line at the end. A reading
that passes over empty lines does not see the difference. -/
theorem flatMap_splitLinesFrom_intercalate {Entry : Type} (read : List Char → List Entry)
    (passesOver : read [] = []) {lines : List (List Char)}
    (unbroken : ∀ line ∈ lines, Unbroken line) :
    (splitLinesFrom [] (['\n'].intercalate lines)).flatMap read = lines.flatMap read := by
  induction lines with
  | nil => rfl
  | cons line rest inductionHypothesis =>
      have first := unbroken line List.mem_cons_self
      have others := inductionHypothesis fun other member =>
        unbroken other (List.mem_cons_of_mem _ member)
      cases rest with
      | nil =>
          have split := splitLinesFrom_append first [] []
          rw [List.append_nil, List.nil_append] at split
          rw [List.intercalate_singleton, split, splitLinesFrom]
          cases line with
          | nil => simp [passesOver]
          | cons => simp
      | cons second rest =>
          have split := splitLinesFrom_append first []
            ('\n' :: ['\n'].intercalate (second :: rest))
          have joined : ['\n'].intercalate (line :: second :: rest) =
              line ++ '\n' :: ['\n'].intercalate (second :: rest) := by
            simp [List.intercalate]
          rw [joined, split, splitLinesFrom_newline, List.flatMap_cons, others]
          rfl

theorem flatMap_splitLines_intercalate {Entry : Type} (read : String → List Entry)
    (passesOver : read "" = []) {lines : List String}
    (unbroken : ∀ line ∈ lines, Unbroken line.toList) :
    (splitLines ("\n".intercalate lines)).flatMap read = lines.flatMap read := by
  have separator : "\n".toList = ['\n'] := rfl
  have clean : ∀ line ∈ lines.map String.toList, Unbroken line := by simpa using unbroken
  have split := flatMap_splitLinesFrom_intercalate (read ∘ String.ofList) passesOver clean
  unfold splitLines
  rw [String.toList_intercalate, separator, List.flatMap_map]
  rw [List.flatMap_map] at split
  calc _ = _ := split
    _ = lines.flatMap read := by
      apply congrArg (lines.flatMap ·)
      funext line
      exact congrArg read String.ofList_toList

/-- A single line is split into itself. -/
theorem flatMap_splitLines_line {Entry : Type} (read : String → List Entry)
    (passesOver : read "" = []) {line : String} (unbroken : Unbroken line.toList) :
    (splitLines line).flatMap read = read line := by
  have clean : ∀ other ∈ [line], Unbroken other.toList := by simpa using unbroken
  have split := flatMap_splitLines_intercalate read passesOver clean
  have joined : "\n".intercalate [line] = line := by simp
  rw [joined, List.flatMap_singleton] at split
  exact split

/-! ## Blank text -/

/-- The characters of white space. -/
def isSpace (character : Char) : Bool :=
  let code := character.toNat
  decide ((0x09 ≤ code ∧ code ≤ 0x0D) ∨ (0x1C ≤ code ∧ code ≤ 0x20) ∨ code = 0x85 ∨
    code = 0xA0 ∨ code = 0x1680 ∨ (0x2000 ≤ code ∧ code ≤ 0x200A) ∨ code = 0x2028 ∨
    code = 0x2029 ∨ code = 0x202F ∨ code = 0x205F ∨ code = 0x3000)

/-- Without the white space at both ends. -/
def strip (characters : List Char) : List Char :=
  ((characters.dropWhile isSpace).reverse.dropWhile isSpace).reverse

/-- There is no other character than white space. -/
def Blank (characters : List Char) : Prop :=
  ∀ character ∈ characters, isSpace character = true

instance (characters : List Char) : Decidable (Blank characters) :=
  inferInstanceAs (Decidable (∀ character ∈ characters, isSpace character = true))

theorem blank_append_iff {first second : List Char} :
    Blank (first ++ second) ↔ Blank first ∧ Blank second := by
  unfold Blank
  exact List.forall_mem_append

theorem blank_flatMap_iff {ι : Type} {items : List ι} {text : ι → List Char} :
    Blank (items.flatMap text) ↔ ∀ item ∈ items, Blank (text item) := by
  unfold Blank
  exact List.forall_mem_flatMap

theorem blank_takeWhile (characters : List Char) : Blank (characters.takeWhile isSpace) := by
  intro character member
  exact List.all_eq_true.mp List.all_takeWhile character member

/-- What is stripped at the ends is blank. -/
theorem exists_eq_append_strip (characters : List Char) :
    ∃ first last, Blank first ∧ Blank last ∧ characters = first ++ strip characters ++ last := by
  have atStart := List.takeWhile_append_dropWhile (p := isSpace) (l := characters)
  have atEnd := List.takeWhile_append_dropWhile (p := isSpace)
    (l := (characters.dropWhile isSpace).reverse)
  refine ⟨characters.takeWhile isSpace,
    ((characters.dropWhile isSpace).reverse.takeWhile isSpace).reverse, blank_takeWhile _, ?_, ?_⟩
  · intro character member
    exact blank_takeWhile _ character (List.mem_reverse.mp member)
  · have kept : characters.dropWhile isSpace =
        strip characters ++
          ((characters.dropWhile isSpace).reverse.takeWhile isSpace).reverse := by
      unfold strip
      rw [← List.reverse_append, atEnd, List.reverse_reverse]
    rw [List.append_assoc, ← kept, atStart]

theorem blank_strip_iff (characters : List Char) : Blank (strip characters) ↔ Blank characters := by
  obtain ⟨first, last, blankFirst, blankLast, parted⟩ := exists_eq_append_strip characters
  constructor
  · intro blank
    rw [parted]
    exact blank_append_iff.mpr ⟨blank_append_iff.mpr ⟨blankFirst, blank⟩, blankLast⟩
  · intro blank
    rw [parted] at blank
    exact (blank_append_iff.mp (blank_append_iff.mp blank).1).2

theorem strip_eq_nil_iff (characters : List Char) : strip characters = [] ↔ Blank characters := by
  constructor
  · intro empty
    rw [← blank_strip_iff, empty]
    intro character member
    cases member
  · intro blank
    have nothing : characters.dropWhile isSpace = [] := List.dropWhile_eq_nil_iff.mpr blank
    unfold strip
    rw [nothing]
    rfl

theorem isSpace_of_isLineBreak {character : Char} (isBreak : isLineBreak character = true) :
    isSpace character = true := by
  simp only [isLineBreak, List.mem_cons, List.not_mem_nil, or_false, decide_eq_true_eq] at isBreak
  simp only [isSpace, decide_eq_true_eq]
  omega

/-- A text that begins and ends with other characters is not stripped. -/
theorem strip_eq_self {characters : List Char}
    (begins : ∀ character ∈ characters.head?, isSpace character = false)
    (ends : ∀ character ∈ characters.getLast?, isSpace character = false) :
    strip characters = characters := by
  have keeps : ∀ text : List Char, (∀ character ∈ text.head?, isSpace character = false) →
      text.dropWhile isSpace = text := by
    intro text starts
    cases text with
    | nil => rfl
    | cons character rest =>
        rw [List.dropWhile_cons, starts character rfl]
        rfl
  have reversed : characters.reverse.dropWhile isSpace = characters.reverse :=
    keeps _ (by rwa [List.head?_reverse])
  rw [strip, keeps characters begins, reversed, List.reverse_reverse]

/-! ## Words -/

/-- `split()`: what stands between white space. -/
def words (characters : List Char) : List (List Char) :=
  (characters.splitOnP isSpace).filter fun word => !word.isEmpty

theorem words_nil : words [] = [] := by
  rw [words, List.splitOnP_nil]
  rfl

/-- A text falls apart at its white space. -/
theorem words_append_space {character : Char} (space : isSpace character = true)
    (first rest : List Char) : words (first ++ character :: rest) = words first ++ words rest := by
  unfold words
  rw [List.splitOnP_append_cons first rest space, List.filter_append]

theorem words_space_cons {character : Char} (space : isSpace character = true)
    (rest : List Char) : words (character :: rest) = words rest := by
  have apart := words_append_space space [] rest
  rw [words_nil, List.nil_append, List.nil_append] at apart
  exact apart

theorem words_blank_append {blank : List Char} (isBlank : Blank blank) (rest : List Char) :
    words (blank ++ rest) = words rest := by
  induction blank with
  | nil => rfl
  | cons character blank inductionHypothesis =>
      obtain ⟨space, others⟩ := List.forall_mem_cons.mp isBlank
      rw [List.cons_append, words_space_cons space, inductionHypothesis others]

theorem words_of_blank {blank : List Char} (isBlank : Blank blank) : words blank = [] := by
  have apart := words_blank_append isBlank []
  rw [List.append_nil, words_nil] at apart
  exact apart

theorem words_append_blank (first : List Char) {blank : List Char} (isBlank : Blank blank) :
    words (first ++ blank) = words first := by
  cases blank with
  | nil => rw [List.append_nil]
  | cons character blank =>
      obtain ⟨space, others⟩ := List.forall_mem_cons.mp isBlank
      rw [words_append_space space, words_of_blank others, List.append_nil]

theorem words_strip (characters : List Char) : words (strip characters) = words characters := by
  obtain ⟨first, last, blankFirst, blankLast, parted⟩ := exists_eq_append_strip characters
  calc words (strip characters) = words (first ++ strip characters) :=
        (words_blank_append blankFirst _).symm
    _ = words (first ++ strip characters ++ last) := (words_append_blank _ blankLast).symm
    _ = words characters := congrArg words parted.symm

/-! ## Joined lines -/

/-- Lines without a line feed survive joining and splitting, if there are any. -/
theorem fieldsOfLines_intercalate {lines : List String} (nonempty : lines ≠ [])
    (clean : ∀ line ∈ lines, '\n' ∉ line.toList) :
    fieldsOfLines ("\n".intercalate lines) = lines := by
  unfold fieldsOfLines
  have separator : "\n".toList = ['\n'] := rfl
  rw [String.toList_intercalate, separator, List.splitOn_intercalate]
  · rw [List.map_map]
    calc lines.map (String.ofList ∘ String.toList) = lines.map id := by
          apply List.map_congr_left
          intro line _
          exact String.ofList_toList
      _ = lines := List.map_id lines
  · intro characters member
    obtain ⟨line, inside, rfl⟩ := List.mem_map.mp member
    exact clean line inside
  · simpa using nonempty

end QuAIA.Library.Text
