import QuAIA.Library.Json

/-!
Contract: `loads` reads back what `dumps` wrote.

Owns: the tokens of a written value, the run of the lexer over its text and the run
of the parser over its tokens, and the round trip of every value that can be written.
-/

set_option autoImplicit false

namespace QuAIA.Library.Json

/-! ## Runs -/

theorem emitting_emitting (first second : List Token)
    (result : Option (LexState × List Token)) :
    emitting first (emitting second result) = emitting (first ++ second) result := by
  cases result <;> simp [emitting]

@[simp]
theorem emitting_nil (result : Option (LexState × List Token)) : emitting [] result = result := by
  cases result <;> simp [emitting]

theorem lexRun_append (state : LexState) (first second : List Char) :
    lexRun state (first ++ second) =
      (lexRun state first).bind fun reached => emitting reached.2 (lexRun reached.1 second) := by
  induction first generalizing state with
  | nil => simp [lexRun]
  | cons character rest inductionHypothesis =>
      simp only [List.cons_append, lexRun, inductionHypothesis]
      cases lexStep state character with
      | none => rfl
      | some step =>
          simp only [Option.bind_some]
          cases lexRun step.1 rest with
          | none => rfl
          | some reached => simp [emitting, Function.comp_def]

theorem parseRun_append (state : ParseState) (first second : List Token) :
    parseRun state (first ++ second) =
      (parseRun state first).bind fun reached => parseRun reached second := by
  induction first generalizing state with
  | nil => rfl
  | cons token rest inductionHypothesis =>
      simp only [List.cons_append, parseRun, inductionHypothesis, Option.bind_assoc]

/-! ## Atoms -/

/-- The text goes on with a character that ends an atom. -/
def Stops : List Char → Prop
  | [] => False
  | character :: _ => isAtomChar character = false

theorem lexRun_atom_stopped (text : List Char) {rest : List Char} (stops : Stops rest) :
    lexRun (.atom text) rest =
      (readAtom text).bind fun value => emitting [.scalar value] (lexRun .between rest) := by
  cases rest with
  | nil => exact absurd stops id
  | cons character others =>
      have stopped : isAtomChar character = false := stops
      simp only [lexRun, lexStep, stopped]
      cases readAtom text with
      | none => rfl
      | some value =>
          cases betweenStep character with
          | none => rfl
          | some step =>
              show emitting ([.scalar value] ++ step.2) (lexRun step.1 others) = _
              rw [← emitting_emitting]
              rfl

theorem lexRun_atom {text : List Char} (atoms : ∀ character ∈ text, isAtomChar character = true)
    (start rest : List Char) (stops : Stops rest) :
    lexRun (.atom start) (text ++ rest) =
      (readAtom (start ++ text)).bind fun value =>
        emitting [.scalar value] (lexRun .between rest) := by
  induction text generalizing start with
  | nil => rw [List.nil_append, List.append_nil, lexRun_atom_stopped start stops]
  | cons character others inductionHypothesis =>
      have isAtom := atoms character (by simp)
      have run := inductionHypothesis (fun other member => atoms other (by simp [member]))
        (start ++ [character])
      simp only [List.cons_append, lexRun, lexStep, isAtom, if_true, Option.bind_some,
        emitting_nil, run, List.append_assoc, List.nil_append]

theorem lexRun_between_atom {text : List Char} {value : Scalar}
    (atoms : ∀ character ∈ text, isAtomChar character = true)
    (read : readAtom text = some value) (rest : List Char) (stops : Stops rest) :
    lexRun .between (text ++ rest) = emitting [.scalar value] (lexRun .between rest) := by
  cases text with
  | nil => cases read
  | cons character others =>
      have isAtom := atoms character (by simp)
      have othersAtoms : ∀ other ∈ others, isAtomChar other = true := by
        intro other member
        exact atoms other (by simp [member])
      have run := lexRun_atom othersAtoms [character] rest stops
      rw [List.singleton_append, read] at run
      simpa [lexRun, lexStep, betweenStep, isAtom] using run

/-! ## Strings -/

theorem hexValue_hexDigit {value : Nat} (small : value < 16) :
    hexValue (hexDigit value) = some value := by
  have all : ∀ digit < 16, hexValue (hexDigit digit) = some digit := by decide
  exact all value small

theorem lexRun_unicodeEscape (points : List Nat) {unit : Nat} (small : unit < 65536)
    (rest : List Char) :
    lexRun (.string points) (unicodeEscape unit ++ rest) =
      lexRun (.string (pushUnit points unit)) rest := by
  have digit (value : Nat) : hexValue (hexDigit (value % 16)) = some (value % 16) :=
    hexValue_hexDigit (Nat.mod_lt value (by omega))
  have assembled : 16 * (16 * (16 * (unit / 4096 % 16) + unit / 256 % 16) + unit / 16 % 16) +
      unit % 16 = unit := by omega
  simp [unicodeEscape, lexRun, lexStep, stringStep, digit, assembled]

theorem pushUnit_of_not_low (points : List Nat) {unit : Nat}
    (notLow : unit < 56320 ∨ 57343 < unit) : pushUnit points unit = points ++ [unit] := by
  unfold pushUnit
  cases last : points.getLast? with
  | none =>
      rw [List.getLast?_eq_none_iff] at last
      simp [last]
  | some high =>
      have notPair : ¬(55296 ≤ high ∧ high ≤ 56319 ∧ 56320 ≤ unit ∧ unit ≤ 57343) := by omega
      simp only [notPair, if_false]

theorem pushUnit_pair (points : List Nat) {high low : Nat}
    (isHigh : 55296 ≤ high ∧ high ≤ 56319) (isLow : 56320 ≤ low ∧ low ≤ 57343) :
    pushUnit (points ++ [high]) low =
      points ++ [65536 + (high - 55296) * 1024 + (low - 56320)] := by
  simp [pushUnit, isHigh, isLow]

theorem lexRun_unescape (points : List Nat) {character : Char} {point : Nat}
    (notUnicode : character ≠ 'u') (read : unescape character = some point)
    (rest : List Char) :
    lexRun (.string points) ('\\' :: character :: rest) =
      lexRun (.string (points ++ [point])) rest := by
  simp [lexRun, lexStep, stringStep, notUnicode, read]

theorem toNat_ofNat_of_ascii {point : Nat} (ascii : point < 127) :
    (Char.ofNat point).toNat = point := by
  have all : ∀ value < 127, (Char.ofNat value).toNat = value := by decide
  exact all point ascii

theorem lexRun_printable (points : List Nat) {point : Nat}
    (printable : 32 ≤ point ∧ point ≤ 126) (notQuote : point ≠ 34) (notBackslash : point ≠ 92)
    (rest : List Char) :
    lexRun (.string points) (Char.ofNat point :: rest) =
      lexRun (.string (points ++ [point])) rest := by
  have value : (Char.ofNat point).toNat = point := toNat_ofNat_of_ascii (by omega)
  have notQuoteChar : Char.ofNat point ≠ '"' := by
    intro same
    rw [same] at value
    exact notQuote value.symm
  have notBackslashChar : Char.ofNat point ≠ '\\' := by
    intro same
    rw [same] at value
    exact notBackslash value.symm
  have notControl : ¬point < 32 := by omega
  simp [lexRun, lexStep, stringStep, notQuoteChar, notBackslashChar, value, notControl]

theorem lexRun_escapePoint (points : List Nat) {point : Nat} (scalar : point.isValidChar)
    (rest : List Char) :
    lexRun (.string points) (escapePoint point ++ rest) =
      lexRun (.string (points ++ [point])) rest := by
  unfold escapePoint
  split
  · next isQuote => exact isQuote ▸ lexRun_unescape points (by decide) rfl rest
  split
  · next isBackslash => exact isBackslash ▸ lexRun_unescape points (by decide) rfl rest
  split
  · next isLineFeed => exact isLineFeed ▸ lexRun_unescape points (by decide) rfl rest
  split
  · next isReturn => exact isReturn ▸ lexRun_unescape points (by decide) rfl rest
  split
  · next isTab => exact isTab ▸ lexRun_unescape points (by decide) rfl rest
  split
  · next isFormFeed => exact isFormFeed ▸ lexRun_unescape points (by decide) rfl rest
  split
  · next isBackspace => exact isBackspace ▸ lexRun_unescape points (by decide) rfl rest
  next notQuote notBackslash _ _ _ _ _ =>
  split
  · next printable => exact lexRun_printable points printable notQuote notBackslash rest
  split
  · next basic =>
      have notLow : point < 56320 ∨ 57343 < point := by
        rcases scalar with below | above <;> omega
      rw [lexRun_unicodeEscape points basic, pushUnit_of_not_low points notLow]
  · next beyond =>
      have bound : point < 1114112 := by
        rcases scalar with below | above <;> omega
      have highSmall : 55296 + (point - 65536) / 1024 ≤ 56319 := by omega
      have lowSmall : 56320 + (point - 65536) % 1024 ≤ 57343 := by omega
      rw [List.append_assoc, lexRun_unicodeEscape points (by omega),
        lexRun_unicodeEscape _ (by omega), pushUnit_of_not_low points (by omega),
        pushUnit_pair points ⟨by omega, highSmall⟩ ⟨by omega, lowSmall⟩]
      have assembled : 65536 + (55296 + (point - 65536) / 1024 - 55296) * 1024 +
          (56320 + (point - 65536) % 1024 - 56320) = point := by omega
      rw [assembled]

theorem lexRun_escapePoints {written : List Nat} (scalars : ∀ point ∈ written, point.isValidChar)
    (points : List Nat) (rest : List Char) :
    lexRun (.string points) (written.flatMap escapePoint ++ rest) =
      lexRun (.string (points ++ written)) rest := by
  induction written generalizing points with
  | nil => simp
  | cons point others inductionHypothesis =>
      have othersScalar : ∀ other ∈ others, other.isValidChar := by
        intro other member
        exact scalars other (by simp [member])
      rw [List.flatMap_cons, List.append_assoc,
        lexRun_escapePoint points (scalars point (by simp)),
        inductionHypothesis othersScalar, List.append_assoc, List.singleton_append]

theorem lexRun_quote {points : List Nat} (scalars : ∀ point ∈ points, point.isValidChar)
    (rest : List Char) :
    lexRun .between (quote points ++ rest) = emitting [.string points] (lexRun .between rest) := by
  have run := lexRun_escapePoints scalars [] ('"' :: rest)
  rw [List.nil_append] at run
  have opening : lexStep .between '"' = some (.string [], []) := rfl
  have closing : lexStep (.string points) '"' = some (.between, [.string points]) := rfl
  calc lexRun .between (quote points ++ rest)
      = lexRun (.string []) (points.flatMap escapePoint ++ '"' :: rest) := by
        simp [quote, lexRun, opening]
    _ = lexRun (.string points) ('"' :: rest) := run
    _ = emitting [.string points] (lexRun .between rest) := by
        simp [lexRun, closing]

/-! ## Values -/

mutual

def tokensOf : Json → List Token
  | .null => [.scalar .null]
  | .bool value => [.scalar (.bool value)]
  | .number text => [.scalar (.number text)]
  | .string points => [.string points]
  | .array [] => [.openBracket, .closeBracket]
  | .array (item :: rest) =>
      .openBracket :: (tokensOf item ++ tokensOfItems rest) ++ [.closeBracket]
  | .object [] => [.openBrace, .closeBrace]
  | .object ((name, value) :: rest) =>
      .openBrace :: (.string name :: .colon :: (tokensOf value ++ tokensOfFields rest)) ++
        [.closeBrace]

def tokensOfItems : List Json → List Token
  | [] => []
  | item :: rest => .comma :: (tokensOf item ++ tokensOfItems rest)

def tokensOfFields : List (List Nat × Json) → List Token
  | [] => []
  | (name, value) :: rest =>
      .comma :: .string name :: .colon :: (tokensOf value ++ tokensOfFields rest)

end

/-- Values whose text stands for them: strings are made of characters, and a
number has a text that reads as that number. -/
inductive Writable : Json → Prop where
  | null : Writable .null
  | bool (value : Bool) : Writable (.bool value)
  | number {text : List Char} (atoms : ∀ character ∈ text, isAtomChar character = true)
      (read : readAtom text = some (.number text)) : Writable (.number text)
  | string {points : List Nat} (scalars : ∀ point ∈ points, point.isValidChar) :
      Writable (.string points)
  | array {items : List Json} (each : ∀ item ∈ items, Writable item) : Writable (.array items)
  | object {fields : List (List Nat × Json)}
      (names : ∀ field ∈ fields, ∀ point ∈ field.1, point.isValidChar)
      (each : ∀ field ∈ fields, Writable field.2) : Writable (.object fields)

theorem lexRun_punctuation {character : Char} {token : Token}
    (step : betweenStep character = some (.between, [token])) (rest : List Char) :
    lexRun .between (character :: rest) = emitting [token] (lexRun .between rest) := by
  simp [lexRun, lexStep, step]

theorem lexRun_separator {character : Char} {token : Token}
    (step : betweenStep character = some (.between, [token])) (rest : List Char) :
    lexRun .between (character :: ' ' :: rest) = emitting [token] (lexRun .between rest) := by
  rw [lexRun_punctuation step]
  have space : lexStep .between ' ' = some (.between, []) := rfl
  simp [lexRun, space]

theorem stops_dumpsItems (items : List Json) {rest : List Char} (stops : Stops rest) :
    Stops (dumpsItems items ++ rest) := by
  cases items with
  | nil => exact stops
  | cons item others => exact rfl

theorem stops_dumpsFields (fields : List (List Nat × Json)) {rest : List Char}
    (stops : Stops rest) : Stops (dumpsFields fields ++ rest) := by
  cases fields with
  | nil => exact stops
  | cons field others => exact rfl

/-! The lexer reads a written value, one induction for values, items and fields. -/

mutual

theorem lexRun_dumps (value : Json) (writable : Writable value) (rest : List Char)
    (stops : Stops rest) :
    lexRun .between (dumps value ++ rest) =
      emitting (tokensOf value) (lexRun .between rest) := by
  cases value with
  | null => exact lexRun_between_atom (List.all_eq_true.mp rfl) rfl rest stops
  | bool value =>
      cases value with
      | true => exact lexRun_between_atom (List.all_eq_true.mp rfl) rfl rest stops
      | false => exact lexRun_between_atom (List.all_eq_true.mp rfl) rfl rest stops
  | number text =>
      cases writable with
      | number atoms read => exact lexRun_between_atom atoms read rest stops
  | string points =>
      cases writable with
      | string scalars => exact lexRun_quote scalars rest
  | array items =>
      cases writable with
      | array each =>
          cases items with
          | nil =>
              show lexRun .between ('[' :: ']' :: rest) = _
              rw [lexRun_punctuation rfl, lexRun_punctuation rfl, emitting_emitting]
              rfl
          | cons item others =>
              have closed : Stops (']' :: rest) := rfl
              have first := lexRun_dumps item (each item (by simp)) _
                (stops_dumpsItems others closed)
              have more := lexRun_dumpsItems others
                (fun other member => each other (by simp [member])) _ closed
              simp only [dumps, List.cons_append, List.append_assoc, List.nil_append]
              rw [lexRun_punctuation rfl, first, more, lexRun_punctuation rfl]
              simp [emitting_emitting, tokensOf]
  | object fields =>
      cases writable with
      | object names each => exact lexRun_dumpsObject fields names each rest

/-- The text of an object ends with its brace, whatever follows. -/
theorem lexRun_dumpsObject (fields : List (List Nat × Json))
    (names : ∀ field ∈ fields, ∀ point ∈ field.1, point.isValidChar)
    (writable : ∀ field ∈ fields, Writable field.2) (rest : List Char) :
    lexRun .between (dumps (.object fields) ++ rest) =
      emitting (tokensOf (.object fields)) (lexRun .between rest) := by
  cases fields with
  | nil =>
      show lexRun .between ('{' :: '}' :: rest) = _
      rw [lexRun_punctuation rfl, lexRun_punctuation rfl, emitting_emitting]
      rfl
  | cons field others =>
      obtain ⟨name, value⟩ := field
      have closed : Stops ('}' :: rest) := rfl
      have first := lexRun_dumps value (writable (name, value) (by simp)) _
        (stops_dumpsFields others closed)
      have more := lexRun_dumpsFields others
        (fun other member => names other (by simp [member]))
        (fun other member => writable other (by simp [member])) _ closed
      simp only [dumps, List.cons_append, List.append_assoc, List.nil_append]
      rw [lexRun_punctuation rfl, lexRun_quote (names (name, value) (by simp)),
        lexRun_separator rfl, first, more, lexRun_punctuation rfl]
      simp [emitting_emitting, tokensOf]

theorem lexRun_dumpsItems (items : List Json) (writable : ∀ item ∈ items, Writable item)
    (rest : List Char) (stops : Stops rest) :
    lexRun .between (dumpsItems items ++ rest) =
      emitting (tokensOfItems items) (lexRun .between rest) := by
  cases items with
  | nil => simp [dumpsItems, tokensOfItems]
  | cons item others =>
      have first := lexRun_dumps item (writable item (by simp)) _ (stops_dumpsItems others stops)
      have more := lexRun_dumpsItems others
        (fun other member => writable other (by simp [member])) rest stops
      simp only [dumpsItems, List.cons_append, List.append_assoc]
      rw [lexRun_separator rfl, first, more]
      simp [emitting_emitting, tokensOfItems]

theorem lexRun_dumpsFields (fields : List (List Nat × Json))
    (names : ∀ field ∈ fields, ∀ point ∈ field.1, point.isValidChar)
    (writable : ∀ field ∈ fields, Writable field.2) (rest : List Char) (stops : Stops rest) :
    lexRun .between (dumpsFields fields ++ rest) =
      emitting (tokensOfFields fields) (lexRun .between rest) := by
  cases fields with
  | nil => simp [dumpsFields, tokensOfFields]
  | cons field others =>
      obtain ⟨name, value⟩ := field
      have first := lexRun_dumps value (writable (name, value) (by simp)) _
        (stops_dumpsFields others stops)
      have more := lexRun_dumpsFields others
        (fun other member => names other (by simp [member]))
        (fun other member => writable other (by simp [member])) rest stops
      simp only [dumpsFields, List.cons_append, List.append_assoc]
      rw [lexRun_separator rfl, lexRun_quote (names (name, value) (by simp)),
        lexRun_separator rfl, first, more]
      simp [emitting_emitting, tokensOfFields]

end

theorem lex_dumps {fields : List (List Nat × Json)} (writable : Writable (.object fields)) :
    lex (dumps (.object fields)) = some (tokensOf (.object fields)) := by
  cases writable with
  | object names each =>
      have run := lexRun_dumpsObject fields names each []
      rw [List.append_nil] at run
      simp [lex, run, emitting, lexRun, flush]

/-! The parser reads the tokens of a value, by the same induction. -/

theorem parseRun_firstItem (frames : List Frame) (item : Json) (rest : List Token) :
    parseRun (.firstItem frames) (tokensOf item ++ rest) =
      parseRun (.value (.array [] :: frames)) (tokensOf item ++ rest) := by
  cases item with
  | array items =>
      cases items with
      | nil => rfl
      | cons first others => simp [tokensOf, parseRun, parseStep]
  | object fields =>
      cases fields with
      | nil => rfl
      | cons first others => simp [tokensOf, parseRun, parseStep]
  | _ => rfl

mutual

theorem parseRun_tokensOf (value : Json) (frames : List Frame) (rest : List Token) :
    parseRun (.value frames) (tokensOf value ++ rest) =
      parseRun (.afterValue value frames) rest := by
  cases value with
  | null => rfl
  | bool value => rfl
  | number text => rfl
  | string points => rfl
  | array items =>
      cases items with
      | nil => rfl
      | cons item others =>
          have first := parseRun_tokensOf item (.array [] :: frames)
          have more := parseRun_tokensOfItems others [] item frames
          simp only [tokensOf, List.cons_append, List.append_assoc, List.nil_append]
          show parseRun (.firstItem frames) _ = _
          rw [parseRun_firstItem, first, more]
          rfl
  | object fields =>
      cases fields with
      | nil => rfl
      | cons field others =>
          obtain ⟨name, value⟩ := field
          have first := parseRun_tokensOf value (.object [] name :: frames)
          have more := parseRun_tokensOfFields others [] name value frames
          simp only [tokensOf, List.cons_append, List.append_assoc, List.nil_append]
          show parseRun (.value (.object [] name :: frames)) _ = _
          rw [first, more]
          rfl

theorem parseRun_tokensOfItems (more items : List Json) (last : Json) (frames : List Frame)
    (rest : List Token) :
    parseRun (.afterValue last (.array items :: frames))
        (tokensOfItems more ++ .closeBracket :: rest) =
      parseRun (.afterValue (.array (items ++ last :: more)) frames) rest := by
  cases more with
  | nil => rfl
  | cons item others =>
      have first := parseRun_tokensOf item (.array (items ++ [last]) :: frames)
      have more := parseRun_tokensOfItems others (items ++ [last]) item frames rest
      simp only [tokensOfItems, List.cons_append, List.append_assoc] at more ⊢
      show parseRun (.value (.array (items ++ [last]) :: frames)) _ = _
      rw [first, more]
      rfl

theorem parseRun_tokensOfFields (more fields : List (List Nat × Json)) (name : List Nat)
    (last : Json) (frames : List Frame) (rest : List Token) :
    parseRun (.afterValue last (.object fields name :: frames))
        (tokensOfFields more ++ .closeBrace :: rest) =
      parseRun (.afterValue (.object (fields ++ (name, last) :: more)) frames) rest := by
  cases more with
  | nil => rfl
  | cons field others =>
      obtain ⟨nextName, value⟩ := field
      have first := parseRun_tokensOf value (.object (fields ++ [(name, last)]) nextName :: frames)
      have more := parseRun_tokensOfFields others (fields ++ [(name, last)]) nextName value
        frames rest
      simp only [tokensOfFields, List.cons_append, List.append_assoc] at more ⊢
      show parseRun (.value (.object (fields ++ [(name, last)]) nextName :: frames)) _ = _
      rw [first, more]
      rfl

end

theorem parse_tokensOf (value : Json) : parse (tokensOf value) = some value := by
  have run := parseRun_tokensOf value [] []
  rw [List.append_nil] at run
  simp [parse, run, parseRun]

/-- A written object is read back. -/
theorem loads_dumps {fields : List (List Nat × Json)} (writable : Writable (.object fields)) :
    loads (dumps (.object fields)) = some (.object fields) := by
  unfold loads
  rw [lex_dumps writable]
  exact parse_tokensOf _

end QuAIA.Library.Json
