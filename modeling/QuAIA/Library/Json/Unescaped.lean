import QuAIA.Library.Json.RoundTrip

/-!
Contract: JSON texts as `dumps` writes them with `ensure_ascii=False`.

Owns: the text of a value as the texts of its tokens; that the lexer cannot tell two ways to quote
strings apart when it reads both; and that a written object has no line break and is read back.

Does not own: lone surrogates, which no encoding accepts.
-/

set_option autoImplicit false

namespace QuAIA.Library.Json

/-! ## Tokens as texts -/

def writeScalar : Scalar → List Char
  | .null => ['n', 'u', 'l', 'l']
  | .bool true => ['t', 'r', 'u', 'e']
  | .bool false => ['f', 'a', 'l', 's', 'e']
  | .number text => text

/-- The separators are those of `dumps`. -/
def writeToken (quoteString : List Nat → List Char) : Token → List Char
  | .openBrace => ['{']
  | .closeBrace => ['}']
  | .openBracket => ['[']
  | .closeBracket => [']']
  | .comma => [',', ' ']
  | .colon => [':', ' ']
  | .string points => quoteString points
  | .scalar value => writeScalar value

def writeTokens (quoteString : List Nat → List Char) (tokens : List Token) : List Char :=
  tokens.flatMap (writeToken quoteString)

theorem writeTokens_append (quoteString : List Nat → List Char) (first second : List Token) :
    writeTokens quoteString (first ++ second) =
      writeTokens quoteString first ++ writeTokens quoteString second :=
  List.flatMap_append

theorem writeTokens_cons (quoteString : List Nat → List Char) (token : Token)
    (rest : List Token) :
    writeTokens quoteString (token :: rest) =
      writeToken quoteString token ++ writeTokens quoteString rest :=
  List.flatMap_cons

/-! `dumps` writes the tokens one by one, by induction on values, items and fields. -/

mutual

theorem dumps_eq_writeTokens (value : Json) : dumps value = writeTokens quote (tokensOf value) := by
  cases value with
  | null => rfl
  | bool value => cases value <;> rfl
  | number text => exact (List.append_nil text).symm
  | string points => exact (List.append_nil (quote points)).symm
  | array items =>
      cases items with
      | nil => rfl
      | cons item others =>
          rw [dumps, dumps_eq_writeTokens item, dumpsItems_eq_writeTokens others, tokensOf,
            writeTokens_append, writeTokens_cons, writeTokens_append]
          rfl
  | object fields =>
      cases fields with
      | nil => rfl
      | cons field others =>
          obtain ⟨name, value⟩ := field
          rw [dumps, dumps_eq_writeTokens value, dumpsFields_eq_writeTokens others, tokensOf,
            writeTokens_append, writeTokens_cons, writeTokens_cons, writeTokens_cons,
            writeTokens_append]
          simp [writeTokens, writeToken]

theorem dumpsItems_eq_writeTokens (items : List Json) :
    dumpsItems items = writeTokens quote (tokensOfItems items) := by
  cases items with
  | nil => rfl
  | cons item others =>
      rw [dumpsItems, dumps_eq_writeTokens item, dumpsItems_eq_writeTokens others, tokensOfItems,
        writeTokens_cons, writeTokens_append]
      rfl

theorem dumpsFields_eq_writeTokens (fields : List (List Nat × Json)) :
    dumpsFields fields = writeTokens quote (tokensOfFields fields) := by
  cases fields with
  | nil => rfl
  | cons field others =>
      obtain ⟨name, value⟩ := field
      rw [dumpsFields, dumps_eq_writeTokens value, dumpsFields_eq_writeTokens others,
        tokensOfFields, writeTokens_cons, writeTokens_cons, writeTokens_cons, writeTokens_append]
      simp [writeToken]

end

/-- The tokens of values that can be written. -/
def Token.IsWritable : Token → Prop
  | .string points => ∀ point ∈ points, point.isValidChar
  | .scalar (.number text) => ∀ character ∈ text, isAtomChar character = true
  | _ => True

mutual

theorem isWritable_of_mem_tokensOf (value : Json) (writable : Writable value) {token : Token}
    (member : token ∈ tokensOf value) : token.IsWritable := by
  cases value with
  | null =>
      rw [List.mem_singleton.mp member]
      trivial
  | bool value =>
      rw [List.mem_singleton.mp member]
      trivial
  | number text =>
      cases writable with
      | number atoms read =>
          rw [List.mem_singleton.mp member]
          exact atoms
  | string points =>
      cases writable with
      | string scalars =>
          rw [List.mem_singleton.mp member]
          exact scalars
  | array items =>
      cases writable with
      | array each =>
          cases items with
          | nil =>
              simp only [tokensOf, List.mem_cons, List.not_mem_nil, or_false] at member
              rcases member with rfl | rfl <;> trivial
          | cons item others =>
              simp only [tokensOf, List.mem_append, List.mem_cons, List.not_mem_nil,
                or_false] at member
              rcases member with (rfl | inItem | inOthers) | rfl
              · trivial
              · exact isWritable_of_mem_tokensOf item (each item (by simp)) inItem
              · exact isWritable_of_mem_tokensOfItems others
                  (fun other inOthers => each other (by simp [inOthers])) inOthers
              · trivial
  | object fields =>
      cases writable with
      | object names each =>
          cases fields with
          | nil =>
              simp only [tokensOf, List.mem_cons, List.not_mem_nil, or_false] at member
              rcases member with rfl | rfl <;> trivial
          | cons field others =>
              obtain ⟨name, value⟩ := field
              simp only [tokensOf, List.mem_append, List.mem_cons, List.not_mem_nil,
                or_false] at member
              rcases member with (rfl | rfl | rfl | inValue | inOthers) | rfl
              · trivial
              · exact names (name, value) (by simp)
              · trivial
              · exact isWritable_of_mem_tokensOf value (each (name, value) (by simp)) inValue
              · exact isWritable_of_mem_tokensOfFields others
                  (fun other inOthers => names other (by simp [inOthers]))
                  (fun other inOthers => each other (by simp [inOthers])) inOthers
              · trivial

theorem isWritable_of_mem_tokensOfItems (items : List Json)
    (writable : ∀ item ∈ items, Writable item) {token : Token}
    (member : token ∈ tokensOfItems items) : token.IsWritable := by
  cases items with
  | nil => cases member
  | cons item others =>
      simp only [tokensOfItems, List.mem_append, List.mem_cons] at member
      rcases member with rfl | inItem | inOthers
      · trivial
      · exact isWritable_of_mem_tokensOf item (writable item (by simp)) inItem
      · exact isWritable_of_mem_tokensOfItems others
          (fun other inOthers => writable other (by simp [inOthers])) inOthers

theorem isWritable_of_mem_tokensOfFields (fields : List (List Nat × Json))
    (names : ∀ field ∈ fields, ∀ point ∈ field.1, point.isValidChar)
    (writable : ∀ field ∈ fields, Writable field.2) {token : Token}
    (member : token ∈ tokensOfFields fields) : token.IsWritable := by
  cases fields with
  | nil => cases member
  | cons field others =>
      obtain ⟨name, value⟩ := field
      simp only [tokensOfFields, List.mem_append, List.mem_cons] at member
      rcases member with rfl | rfl | rfl | inValue | inOthers
      · trivial
      · exact names (name, value) (by simp)
      · trivial
      · exact isWritable_of_mem_tokensOf value (writable (name, value) (by simp)) inValue
      · exact isWritable_of_mem_tokensOfFields others
          (fun other inOthers => names other (by simp [inOthers]))
          (fun other inOthers => writable other (by simp [inOthers])) inOthers

end

/-! ## Quoting -/

/-- The lexer reads the quoted string behind its first quote. -/
def ReadsQuote (quoteString : List Nat → List Char) : Prop :=
  ∀ points, (∀ point ∈ points, point.isValidChar) → ∃ body, quoteString points = '"' :: body ∧
    ∀ rest, lexRun (.string []) (body ++ rest) = emitting [.string points] (lexRun .between rest)

/-- No string is under way. -/
def LexState.IsCalm : LexState → Prop
  | .between => True
  | .atom _ => True
  | _ => False

theorem isCalm_betweenStep {character : Char} (notQuote : character ≠ '"')
    {reached : LexState × List Token} (stepped : betweenStep character = some reached) :
    reached.1.IsCalm := by
  unfold betweenStep at stepped
  split at stepped
  · cases stepped
    trivial
  · split at stepped
    · cases stepped
      trivial
    · obtain ⟨token, -, rfl⟩ := Option.map_eq_some_iff.mp stepped
      trivial

theorem isCalm_lexStep {state : LexState} (calm : state.IsCalm) {character : Char}
    (notQuote : character ≠ '"') {reached : LexState × List Token}
    (stepped : lexStep state character = some reached) : reached.1.IsCalm := by
  cases state with
  | between => exact isCalm_betweenStep notQuote stepped
  | atom text =>
      simp only [lexStep] at stepped
      split at stepped
      · cases stepped
        trivial
      · obtain ⟨value, -, emitted⟩ := Option.bind_eq_some_iff.mp stepped
        obtain ⟨inner, innerStep, rfl⟩ := Option.map_eq_some_iff.mp emitted
        have calmInner := isCalm_betweenStep notQuote innerStep
        exact calmInner
  | string points => cases calm
  | escape points => cases calm
  | hex points value count => cases calm

theorem isCalm_lexRun {state : LexState} (calm : state.IsCalm) {text : List Char}
    (noQuote : '"' ∉ text) {reached : LexState × List Token}
    (ran : lexRun state text = some reached) : reached.1.IsCalm := by
  induction text generalizing state reached with
  | nil =>
      cases ran
      exact calm
  | cons character rest inductionHypothesis =>
      rw [List.mem_cons, not_or] at noQuote
      obtain ⟨middle, stepped, emitted⟩ := Option.bind_eq_some_iff.mp ran
      obtain ⟨last, lastRan, rfl⟩ := Option.map_eq_some_iff.mp emitted
      have calmMiddle := isCalm_lexStep calm (Ne.symm noQuote.1) stepped
      have calmLast := inductionHypothesis calmMiddle noQuote.2 lastRan
      exact calmLast

/-- A quote begins a string. -/
theorem string_of_lexStep_quote {state : LexState} (calm : state.IsCalm)
    {reached : LexState × List Token} (stepped : lexStep state '"' = some reached) :
    reached.1 = .string [] := by
  cases state with
  | between =>
      cases stepped
      rfl
  | atom text =>
      obtain ⟨value, -, emitted⟩ := Option.bind_eq_some_iff.mp stepped
      cases emitted
      rfl
  | string points => cases calm
  | escape points => cases calm
  | hex points value count => cases calm

/-- What follows a string is lexed from between, behind the tokens so far. -/
theorem lexRun_quoteString {quoteString : List Nat → List Char} (reads : ReadsQuote quoteString)
    {state : LexState} (calm : state.IsCalm) {points : List Nat}
    (valid : ∀ point ∈ points, point.isValidChar) (rest : List Char) :
    lexRun state (quoteString points ++ rest) = (lexStep state '"').bind fun reached =>
      emitting (reached.2 ++ [.string points]) (lexRun .between rest) := by
  obtain ⟨body, isQuoted, isRead⟩ := reads points valid
  rw [isQuoted, List.cons_append, lexRun]
  cases stepped : lexStep state '"' with
  | none => rfl
  | some reached =>
      rw [Option.bind_some, Option.bind_some, string_of_lexStep_quote calm stepped, isRead,
        emitting_emitting]

theorem quote_not_mem_writeToken {quoteString : List Nat → List Char} {token : Token}
    (writable : token.IsWritable) (noString : ∀ points, token ≠ .string points) :
    '"' ∉ writeToken quoteString token := by
  cases token with
  | string points => exact absurd rfl (noString points)
  | scalar value =>
      cases value with
      | null => simp [writeToken, writeScalar]
      | bool value => cases value <;> simp [writeToken, writeScalar]
      | number text =>
          intro member
          have isAtom := writable '"' member
          revert isAtom
          decide
  | _ => simp [writeToken]

/-- Two ways to quote that are both read give texts that are lexed alike. -/
theorem lexRun_writeTokens {first second : List Nat → List Char} (readsFirst : ReadsQuote first)
    (readsSecond : ReadsQuote second) {tokens : List Token}
    (writable : ∀ token ∈ tokens, token.IsWritable) {state : LexState} (calm : state.IsCalm) :
    lexRun state (writeTokens first tokens) = lexRun state (writeTokens second tokens) := by
  induction tokens generalizing state with
  | nil => rfl
  | cons token rest inductionHypothesis =>
      have restWritable : ∀ other ∈ rest, other.IsWritable :=
        fun other member => writable other (List.mem_cons_of_mem token member)
      have isWritable := writable token List.mem_cons_self
      rw [writeTokens_cons, writeTokens_cons]
      cases token with
      | string points =>
          have alike : lexRun .between (writeTokens first rest) =
              lexRun .between (writeTokens second rest) :=
            inductionHypothesis restWritable trivial
          simp only [writeToken]
          rw [lexRun_quoteString readsFirst calm isWritable,
            lexRun_quoteString readsSecond calm isWritable, alike]
      | _ =>
          have sameText : ∀ quoteString, '"' ∉ writeToken quoteString _ :=
            fun _ => quote_not_mem_writeToken isWritable (by intro points same; cases same)
          rw [lexRun_append, lexRun_append]
          apply Option.bind_congr
          intro reached ran
          have alike := inductionHypothesis restWritable (isCalm_lexRun calm (sameText first) ran)
          rw [alike]

theorem readsQuote_quote : ReadsQuote quote := by
  intro points valid
  refine ⟨points.flatMap escapePoint ++ ['"'], rfl, ?_⟩
  intro rest
  have run := lexRun_escapePoints valid [] ('"' :: rest)
  rw [List.append_assoc, List.singleton_append, run, List.nil_append]
  rfl

/-! ## Without escapes -/

/-- Only quotes, backslashes and control characters are escaped. -/
def plainPoint (point : Nat) : List Char :=
  if point = 34 then ['\\', '"']
  else if point = 92 then ['\\', '\\']
  else if point = 10 then ['\\', 'n']
  else if point = 13 then ['\\', 'r']
  else if point = 9 then ['\\', 't']
  else if point = 12 then ['\\', 'f']
  else if point = 8 then ['\\', 'b']
  else if point < 32 then unicodeEscape point
  else [Char.ofNat point]

def plainQuote (points : List Nat) : List Char := '"' :: (points.flatMap plainPoint ++ ['"'])

/-- `dumps(value, ensure_ascii=False)`. -/
def dumpsPlain (value : Json) : List Char := writeTokens plainQuote (tokensOf value)

theorem toNat_ofNat_of_isValidChar {point : Nat} (valid : point.isValidChar) :
    (Char.ofNat point).toNat = point := by
  rw [Char.ofNat, dif_pos valid]
  rfl

theorem lexRun_plainPoint (points : List Nat) {point : Nat} (valid : point.isValidChar)
    (rest : List Char) :
    lexRun (.string points) (plainPoint point ++ rest) =
      lexRun (.string (points ++ [point])) rest := by
  unfold plainPoint
  split
  · next isQuote => exact isQuote ▸ lexRun_unescape points (by decide) rfl rest
  split
  · next isBackslash => exact isBackslash ▸ lexRun_unescape points (by decide) rfl rest
  split
  · next isLineFeed => exact isLineFeed ▸ lexRun_unescape points (by decide) rfl rest
  split
  · next isReturn => exact isReturn ▸ lexRun_unescape points (by decide) rfl rest
  split
  · next isTab => exact isTab ▸ lexRun_unescape points (by decide) rfl rest
  split
  · next isFormFeed => exact isFormFeed ▸ lexRun_unescape points (by decide) rfl rest
  split
  · next isBackspace => exact isBackspace ▸ lexRun_unescape points (by decide) rfl rest
  next notQuote notBackslash _ _ _ _ _ =>
  split
  · next isControl =>
      rw [lexRun_unicodeEscape points (by omega), pushUnit_of_not_low points (by omega)]
  · next notControl =>
      have value : (Char.ofNat point).toNat = point := toNat_ofNat_of_isValidChar valid
      have notQuoteChar : Char.ofNat point ≠ '"' := by
        intro same
        rw [same] at value
        exact notQuote value.symm
      have notBackslashChar : Char.ofNat point ≠ '\\' := by
        intro same
        rw [same] at value
        exact notBackslash value.symm
      simp [lexRun, lexStep, stringStep, notQuoteChar, notBackslashChar, value, notControl]

theorem readsQuote_plainQuote : ReadsQuote plainQuote := by
  intro points valid
  refine ⟨points.flatMap plainPoint ++ ['"'], rfl, ?_⟩
  intro rest
  have run : ∀ start, lexRun (.string start) (points.flatMap plainPoint ++ '"' :: rest) =
      lexRun (.string (start ++ points)) ('"' :: rest) := by
    induction points with
    | nil =>
        intro start
        rw [List.append_nil]
        rfl
    | cons point others inductionHypothesis =>
        intro start
        rw [List.flatMap_cons, List.append_assoc, lexRun_plainPoint start (valid point (by simp)),
          inductionHypothesis (fun other member => valid other (by simp [member])),
          List.append_assoc, List.singleton_append]
  rw [List.append_assoc, List.singleton_append, run, List.nil_append]
  rfl

theorem lex_dumpsPlain {fields : List (List Nat × Json)} (writable : Writable (.object fields)) :
    lex (dumpsPlain (.object fields)) = some (tokensOf (.object fields)) := by
  have alike : lexRun .between (dumpsPlain (.object fields)) =
      lexRun .between (dumps (.object fields)) := by
    rw [dumps_eq_writeTokens]
    exact lexRun_writeTokens readsQuote_plainQuote readsQuote_quote
      (fun token member => isWritable_of_mem_tokensOf _ writable member) trivial
  rw [lex, alike]
  exact lex_dumps writable

/-- A written object is read back. -/
theorem loads_dumpsPlain {fields : List (List Nat × Json)}
    (writable : Writable (.object fields)) :
    loads (dumpsPlain (.object fields)) = some (.object fields) := by
  unfold loads
  rw [lex_dumpsPlain writable]
  exact parse_tokensOf _

/-! ## One line -/

theorem hexDigit_ne_newline {value : Nat} (small : value < 16) : hexDigit value ≠ '\n' := by
  have all : ∀ digit < 16, hexDigit digit ≠ '\n' := by decide
  exact all value small

theorem newline_not_mem_plainPoint {point : Nat} (valid : point.isValidChar) :
    '\n' ∉ plainPoint point := by
  unfold plainPoint
  split_ifs with _ _ _ _ _ _ _ isControl
  iterate 7 decide
  · have digit : ∀ value, hexDigit (value % 16) ≠ '\n' :=
      fun value => hexDigit_ne_newline (Nat.mod_lt value (by decide))
    simp [unicodeEscape, (digit _).symm]
  · intro member
    have isPoint := List.mem_singleton.mp member
    have value : (Char.ofNat point).toNat = point := toNat_ofNat_of_isValidChar valid
    rw [← isPoint] at value
    exact isControl (by rw [← value]; decide)

/-- A written value has no line break. -/
theorem newline_not_mem_dumpsPlain {value : Json} (writable : Writable value) :
    '\n' ∉ dumpsPlain value := by
  intro member
  obtain ⟨token, isToken, inText⟩ := List.mem_flatMap.mp member
  have isWritable := isWritable_of_mem_tokensOf value writable isToken
  cases token with
  | string points =>
      rcases List.mem_cons.mp inText with isQuote | inBody
      · cases isQuote
      · rcases List.mem_append.mp inBody with inPoints | isQuote
        · obtain ⟨point, isPoint, inPoint⟩ := List.mem_flatMap.mp inPoints
          exact newline_not_mem_plainPoint (isWritable point isPoint) inPoint
        · cases List.mem_singleton.mp isQuote
  | scalar scalar =>
      cases scalar with
      | null => simp [writeToken, writeScalar] at inText
      | bool value => cases value <;> simp [writeToken, writeScalar] at inText
      | number text =>
          have isAtom := isWritable '\n' inText
          revert isAtom
          decide
  | _ => simp [writeToken] at inText

end QuAIA.Library.Json
