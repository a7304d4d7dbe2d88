import QuAIA.Library.Json.RoundTrip

/-!
Contract: what `loads` makes of a piece that is cut out of a JSON text.

Owns: a text that ends with its closing brace cannot be read when more follows it in
a text that can, and an object that is read anywhere inside a text takes its names from
the names of that text.

A piece can start inside a string of the text. Strings and the gaps between them then
change places, and every string of the piece is made of characters of the gaps.
-/

set_option autoImplicit false

namespace QuAIA.Library.Json

/-! ## Cutting -/

theorem lexRun_cut {state last : LexState} {first second : List Char} {tokens : List Token}
    (run : lexRun state (first ++ second) = some (last, tokens)) :
    ∃ middle firstTokens secondTokens, lexRun state first = some (middle, firstTokens) ∧
      lexRun middle second = some (last, secondTokens) ∧
      tokens = firstTokens ++ secondTokens := by
  rw [lexRun_append] at run
  obtain ⟨reached, firstRun, rest⟩ := Option.bind_eq_some_iff.mp run
  obtain ⟨ended, secondRun, same⟩ := Option.map_eq_some_iff.mp rest
  cases same
  exact ⟨reached.1, reached.2, ended.2, firstRun, secondRun, rfl⟩

theorem lexRun_cons {state last : LexState} {character : Char} {rest : List Char}
    {tokens : List Token} (run : lexRun state (character :: rest) = some (last, tokens)) :
    ∃ next stepTokens restTokens, lexStep state character = some (next, stepTokens) ∧
      lexRun next rest = some (last, restTokens) ∧ tokens = stepTokens ++ restTokens := by
  obtain ⟨step, stepped, ran⟩ := Option.bind_eq_some_iff.mp run
  obtain ⟨ended, restRun, same⟩ := Option.map_eq_some_iff.mp ran
  cases same
  exact ⟨step.1, step.2, ended.2, stepped, restRun, rfl⟩

/-- A closing brace ends a token, except in a string. -/
theorem lexStep_closeBrace {state last : LexState} {tokens : List Token}
    (step : lexStep state '}' = some (last, tokens)) :
    (last = .between ∧ tokens ≠ []) ∨ ∃ points, last = .string points := by
  cases state with
  | between =>
      cases step
      exact .inl ⟨rfl, by simp⟩
  | atom text =>
      obtain ⟨value, _, emitted⟩ := Option.bind_eq_some_iff.mp step
      cases emitted
      exact .inl ⟨rfl, by simp⟩
  | string points =>
      cases step
      exact .inr ⟨_, rfl⟩
  | escape points => cases step
  | hex points value count => cases step

theorem lexRun_closed {state last : LexState} {text : List Char} {tokens : List Token}
    (run : lexRun state (text ++ ['}']) = some (last, tokens)) :
    (last = .between ∧ tokens ≠ []) ∨ ∃ points, last = .string points := by
  obtain ⟨middle, textTokens, braceTokens, _, braceRun, rfl⟩ := lexRun_cut run
  obtain ⟨next, stepTokens, restTokens, step, ended, rfl⟩ := lexRun_cons braceRun
  cases ended
  rcases lexStep_closeBrace step with ⟨atBetween, emitted⟩ | inString
  · exact .inl ⟨atBetween, by simp [emitted]⟩
  · exact .inr inString

theorem lex_closed {text : List Char} {tokens : List Token}
    (read : lex (text ++ ['}']) = some tokens) :
    lexRun .between (text ++ ['}']) = some (.between, tokens) := by
  obtain ⟨⟨last, emitted⟩, run, flushed⟩ := Option.bind_eq_some_iff.mp read
  obtain ⟨owed, isOwed, same⟩ := Option.map_eq_some_iff.mp flushed
  rcases lexRun_closed run with ⟨atBetween, _⟩ | ⟨points, inString⟩
  · cases atBetween
    cases isOwed
    rw [← same, run, List.append_nil]
  · cases inString
    cases isOwed

/-! ## Nothing follows a value -/

theorem parseRun_done (value : Json) {tokens : List Token} (more : tokens ≠ []) :
    parseRun (.afterValue value []) tokens = none := by
  cases tokens with
  | nil => exact absurd rfl more
  | cons token rest => rfl

theorem parseRun_of_parse {tokens : List Token} {value : Json}
    (parsed : parse tokens = some value) :
    parseRun (.value []) tokens = some (.afterValue value []) := by
  unfold parse at parsed
  split at parsed
  · next found run =>
      cases parsed
      exact run
  · cases parsed

theorem parse_append_eq_none {first second : List Token} {value : Json}
    (parsed : parse first = some value) (more : second ≠ []) :
    parse (first ++ second) = none := by
  have run : parseRun (.value []) (first ++ second) = none := by
    rw [parseRun_append, parseRun_of_parse parsed]
    exact parseRun_done value more
  simp [parse, run]

/-- When a text that ends with a brace can be read, its part up to an earlier brace
cannot. -/
theorem loads_eq_none_of_longer {first rest : List Char} {value : Json}
    (read : loads (first ++ ['}'] ++ (rest ++ ['}'])) = some value) :
    loads (first ++ ['}']) = none := by
  cases part : loads (first ++ ['}']) with
  | none => rfl
  | some partValue =>
      obtain ⟨tokens, lexed, parsed⟩ := Option.bind_eq_some_iff.mp read
      obtain ⟨partTokens, partLexed, partParsed⟩ := Option.bind_eq_some_iff.mp part
      rw [← List.append_assoc] at lexed
      have run := lex_closed lexed
      rw [List.append_assoc] at run
      obtain ⟨middle, firstTokens, restTokens, firstRun, restRun, rfl⟩ := lexRun_cut run
      rw [lex_closed partLexed] at firstRun
      cases firstRun
      have more : restTokens ≠ [] := by
        rcases lexRun_closed restRun with ⟨_, emitted⟩ | ⟨points, inString⟩
        · exact emitted
        · cases inString
      rw [parse_append_eq_none partParsed more] at parsed
      cases parsed

/-- A line break and a character that starts no token have no reading from any state. -/
theorem lexRun_newline (state : LexState) {character : Char}
    (noToken : betweenStep character = none) (rest : List Char) :
    lexRun state ('\n' :: character :: rest) = none := by
  have next : lexRun .between (character :: rest) = none := by
    simp [lexRun, lexStep, noToken]
  have nextLine : lexRun .between ('\n' :: character :: rest) = none := by
    have step : lexStep .between '\n' = some (.between, []) := rfl
    rw [lexRun, step, Option.bind_some, next]
    rfl
  cases state with
  | between => exact nextLine
  | atom text =>
      have stops : Stops ('\n' :: character :: rest) := rfl
      rw [lexRun_atom_stopped text stops, nextLine]
      exact Option.bind_fun_none _
  | string points => rfl
  | escape points => rfl
  | hex points value count => rfl

theorem loads_newline {character : Char} (noToken : betweenStep character = none)
    (first rest : List Char) : loads (first ++ '\n' :: character :: rest) = none := by
  have run : lexRun .between (first ++ '\n' :: character :: rest) = none := by
    rw [lexRun_append]
    cases lexRun .between first with
    | none => rfl
    | some reached =>
        rw [Option.bind_some, lexRun_newline reached.1 noToken]
        rfl
  simp [loads, lex, run]

/-! ## Names

A name of an object stands in its tokens before a colon. -/

def KeyIn (name : List Nat) (tokens : List Token) : Prop :=
  [.string name, .colon] <:+: tokens

theorem keyIn_cons {name : List Nat} {token : Token} {rest : List Token} :
    KeyIn name (token :: rest) ↔
      (token = .string name ∧ ∃ others, rest = .colon :: others) ∨ KeyIn name rest := by
  unfold KeyIn
  rw [List.infix_cons_iff]
  constructor
  · rintro (⟨others, same⟩ | inside)
    · injection same with sameToken sameRest
      exact .inl ⟨sameToken.symm, others, sameRest.symm⟩
    · exact .inr inside
  · rintro (⟨rfl, others, rfl⟩ | inside)
    · exact .inl ⟨others, rfl⟩
    · exact .inr inside

theorem not_keyIn_nil (name : List Nat) : ¬KeyIn name [] := by
  intro inside
  cases List.infix_nil.mp inside

theorem KeyIn.mem {name : List Nat} {tokens : List Token} (inside : KeyIn name tokens) :
    .string name ∈ tokens :=
  inside.subset (by simp)

def topNames : Json → List (List Nat)
  | .object fields => fields.map Prod.fst
  | _ => []

theorem mem_topNames {name : List Nat} {value : Json} (keyed : value.hasKey name = true) :
    name ∈ topNames value := by
  cases value with
  | object fields =>
      obtain ⟨field, member, same⟩ := List.any_eq_true.mp keyed
      have isName : field.1 = name := eq_of_beq same
      exact List.mem_map.mpr ⟨field, member, isName⟩
  | _ => cases keyed

theorem topNames_scalar (value : Scalar) : topNames value.toJson = [] := by
  cases value <;> rfl

def Frame.names : Frame → List (List Nat)
  | .array _ => []
  | .object fields name => name :: fields.map Prod.fst

/-- The names that were followed by a colon, of the objects that are open and of the
value that was read last. -/
def ParseState.names : ParseState → List (List Nat)
  | .value frames => frames.flatMap Frame.names
  | .firstItem frames => frames.flatMap Frame.names
  | .firstField frames => frames.flatMap Frame.names
  | .nextField fields frames => fields.map Prod.fst ++ frames.flatMap Frame.names
  | .colon fields _ frames => fields.map Prod.fst ++ frames.flatMap Frame.names
  | .afterValue found frames => topNames found ++ frames.flatMap Frame.names

theorem names_startValue {frames : List Frame} {token : Token} {next : ParseState}
    (step : startValue frames token = some next) :
    next.names = frames.flatMap Frame.names := by
  cases token with
  | scalar value =>
      cases step
      simp [ParseState.names, topNames_scalar]
  | string points => cases step; rfl
  | openBracket => cases step; rfl
  | openBrace => cases step; rfl
  | _ => cases step

theorem names_afterItem {value : Json} {frames : List Frame} {token : Token}
    {next : ParseState} (step : afterItem value frames token = some next) {name : List Nat}
    (member : name ∈ next.names) : name ∈ frames.flatMap Frame.names := by
  unfold afterItem at step
  split at step
  · cases step
    simpa [ParseState.names, Frame.names] using member
  · cases step
    simpa [ParseState.names, Frame.names, topNames] using member
  · cases step
    simp only [ParseState.names, Frame.names, List.map_append, List.mem_append,
      List.flatMap_cons, List.mem_cons, List.map_cons, List.map_nil] at member ⊢
    tauto
  · cases step
    simp only [ParseState.names, Frame.names, topNames, List.map_append, List.mem_append,
      List.flatMap_cons, List.mem_cons, List.map_cons, List.map_nil] at member ⊢
    tauto
  · cases step

/-- A step adds at most the name whose colon it reads. -/
theorem names_parseStep {state next : ParseState} {token : Token}
    (step : parseStep state token = some next) {name : List Nat} (member : name ∈ next.names) :
    name ∈ state.names ∨ (token = .colon ∧ ∃ fields frames, state = .colon fields name frames) := by
  unfold parseStep at step
  split at step
  · have started := names_startValue step ▸ member
    exact .inl started
  · cases step; exact .inl member
  · have started := names_startValue step ▸ member
    exact .inl (by simpa [Frame.names, ParseState.names] using started)
  · cases step; exact .inl member
  · cases step; exact .inl member
  · cases step; exact .inl member
  · cases step
    simp only [ParseState.names, Frame.names, List.flatMap_cons, List.cons_append,
      List.mem_cons] at member
    rcases member with rfl | earlier
    · exact .inr ⟨rfl, _, _, rfl⟩
    · exact .inl earlier
  · exact .inl (List.mem_append.mpr (.inr (names_afterItem step member)))
  · cases step

theorem token_of_colon {state : ParseState} {token : Token}
    {fields : List (List Nat × Json)} {name : List Nat} {frames : List Frame}
    (step : parseStep state token = some (.colon fields name frames)) :
    token = .string name := by
  unfold parseStep at step
  split at step
  · unfold startValue at step
    split at step <;> cases step
  · cases step
  · unfold startValue at step
    split at step <;> cases step
  · cases step
  · cases step; rfl
  · cases step; rfl
  · cases step
  · unfold afterItem at step
    split at step <;> cases step
  · cases step

theorem names_parseRun {state last : ParseState} {tokens : List Token}
    (run : parseRun state tokens = some last) {name : List Nat} (member : name ∈ last.names) :
    name ∈ state.names ∨ KeyIn name tokens ∨
      ((∃ others, tokens = .colon :: others) ∧
        ∃ fields frames, state = .colon fields name frames) := by
  induction tokens generalizing state with
  | nil =>
      cases run
      exact .inl member
  | cons token rest inductionHypothesis =>
      obtain ⟨next, step, restRun⟩ := Option.bind_eq_some_iff.mp run
      rcases inductionHypothesis restRun with inNext | inRest | ⟨colon, fields, frames, rfl⟩
      · rcases names_parseStep step inNext with inState | ⟨rfl, pending⟩
        · exact .inl inState
        · exact .inr (.inr ⟨⟨rest, rfl⟩, pending⟩)
      · exact .inr (.inl (keyIn_cons.mpr (.inr inRest)))
      · exact .inr (.inl (keyIn_cons.mpr (.inl ⟨token_of_colon step, colon⟩)))

theorem keyIn_of_parse {tokens : List Token} {value : Json} {name : List Nat}
    (parsed : parse tokens = some value) (keyed : value.hasKey name = true) :
    KeyIn name tokens := by
  have member : name ∈ (ParseState.afterValue value []).names :=
    List.mem_append.mpr (.inl (mem_topNames keyed))
  rcases names_parseRun (parseRun_of_parse parsed) member with inStart | inside | ⟨_, _, _, pending⟩
  · cases inStart
  · exact inside
  · cases pending

/-! ## Readings that start inside a string -/

/-- The characters outside strings, quotation marks apart. -/
def isGap (character : Char) : Bool :=
  isAtomChar character || isSpace character || (punctuation character).isSome

def Outside (state : LexState) : Prop := state = .between ∨ ∃ text, state = .atom text

def OfGaps (points : List Nat) : Prop :=
  ∀ point ∈ points, ∃ character, character.toNat = point ∧ isGap character = true

/-- One of the two states is in a string and the other is not, and a string of the
second is made of gaps of the first. -/
def Opposite (first second : LexState) : Prop :=
  ((∃ points, first = .string points) ∧ Outside second) ∨
    (Outside first ∧ ∃ points, second = .string points ∧ OfGaps points)

def StringsOfGaps (tokens : List Token) : Prop :=
  ∀ points, .string points ∈ tokens → OfGaps points

theorem stringStep_of_gap {character : Char} (gap : isGap character = true)
    (points : List Nat) {last : LexState} {tokens : List Token}
    (step : stringStep points character = some (last, tokens)) :
    last = .string (points ++ [character.toNat]) ∧ tokens = [] := by
  have notQuote : character ≠ '"' := by
    rintro rfl
    exact absurd gap (by decide)
  have notBackslash : character ≠ '\\' := by
    rintro rfl
    exact absurd gap (by decide)
  unfold stringStep at step
  rw [if_neg notQuote, if_neg notBackslash] at step
  split at step
  · cases step
  · cases step
    exact ⟨rfl, rfl⟩

theorem punctuation_not_string {character : Char} {points : List Nat} :
    punctuation character ≠ some (.string points) := by
  unfold punctuation
  split <;> simp

/-- Outside a string a quotation mark opens one, and any other character is a gap. -/
theorem betweenStep_cases {character : Char} {last : LexState} {tokens : List Token}
    (step : betweenStep character = some (last, tokens)) :
    (∀ points, .string points ∉ tokens) ∧
      ((character = '"' ∧ last = .string []) ∨ (isGap character = true ∧ Outside last)) := by
  unfold betweenStep at step
  split at step
  · next atom =>
      cases step
      exact ⟨by simp, .inr ⟨by simp [isGap, atom], .inr ⟨_, rfl⟩⟩⟩
  split at step
  · next space =>
      cases step
      exact ⟨by simp, .inr ⟨by simp [isGap, space], .inl rfl⟩⟩
  split at step
  · next isQuote =>
      cases step
      exact ⟨by simp, .inl ⟨isQuote, rfl⟩⟩
  · obtain ⟨token, punctuated, same⟩ := Option.map_eq_some_iff.mp step
    cases same
    refine ⟨?_, .inr ⟨by simp [isGap, punctuated], .inl rfl⟩⟩
    intro points member
    rw [List.mem_singleton] at member
    exact punctuation_not_string (member ▸ punctuated)

theorem outsideStep_cases {state last : LexState} {character : Char} {tokens : List Token}
    (outside : Outside state) (step : lexStep state character = some (last, tokens)) :
    (∀ points, .string points ∉ tokens) ∧
      ((character = '"' ∧ last = .string []) ∨ (isGap character = true ∧ Outside last)) := by
  rcases outside with rfl | ⟨text, rfl⟩
  · exact betweenStep_cases step
  · simp only [lexStep] at step
    split at step
    · next atom =>
        cases step
        exact ⟨by simp, .inr ⟨by simp [isGap, atom], .inr ⟨_, rfl⟩⟩⟩
    · obtain ⟨value, _, emitted⟩ := Option.bind_eq_some_iff.mp step
      obtain ⟨reached, stepped, same⟩ := Option.map_eq_some_iff.mp emitted
      cases same
      obtain ⟨noString, arrived⟩ := betweenStep_cases stepped
      refine ⟨?_, arrived⟩
      intro points member
      rcases List.mem_cons.mp member with isScalar | inside
      · cases isScalar
      · exact noString points inside

theorem opposite_step {first second firstNext secondNext : LexState} {character : Char}
    {firstTokens secondTokens : List Token} (opposite : Opposite first second)
    (firstStep : lexStep first character = some (firstNext, firstTokens))
    (secondStep : lexStep second character = some (secondNext, secondTokens)) :
    Opposite firstNext secondNext ∧ StringsOfGaps secondTokens := by
  rcases opposite with ⟨⟨points, rfl⟩, outside⟩ | ⟨outside, points, rfl, gaps⟩
  · obtain ⟨noString, arrived⟩ := outsideStep_cases outside secondStep
    refine ⟨?_, fun points member => absurd member (noString points)⟩
    rcases arrived with ⟨rfl, rfl⟩ | ⟨gap, stays⟩
    · cases firstStep
      exact .inr ⟨.inl rfl, [], rfl, by simp [OfGaps]⟩
    · obtain ⟨rfl, rfl⟩ := stringStep_of_gap gap points firstStep
      exact .inl ⟨⟨_, rfl⟩, stays⟩
  · obtain ⟨_, arrived⟩ := outsideStep_cases outside firstStep
    rcases arrived with ⟨rfl, rfl⟩ | ⟨gap, stays⟩
    · cases secondStep
      refine ⟨.inl ⟨⟨[], rfl⟩, .inl rfl⟩, ?_⟩
      intro others member
      cases List.mem_singleton.mp member
      exact gaps
    · obtain ⟨rfl, rfl⟩ := stringStep_of_gap gap points secondStep
      refine ⟨.inr ⟨stays, _, rfl, ?_⟩, by simp [StringsOfGaps]⟩
      intro point member
      rcases List.mem_append.mp member with earlier | latest
      · exact gaps point earlier
      · exact ⟨character, (List.mem_singleton.mp latest).symm, gap⟩

theorem opposite_run {first second firstLast secondLast : LexState} {text : List Char}
    {firstTokens secondTokens : List Token} (opposite : Opposite first second)
    (firstRun : lexRun first text = some (firstLast, firstTokens))
    (secondRun : lexRun second text = some (secondLast, secondTokens)) :
    StringsOfGaps secondTokens := by
  induction text generalizing first second firstTokens secondTokens with
  | nil =>
      cases secondRun
      simp [StringsOfGaps]
  | cons character rest inductionHypothesis =>
      obtain ⟨_, _, _, firstStep, firstRest, rfl⟩ := lexRun_cons firstRun
      obtain ⟨_, _, _, secondStep, secondRest, rfl⟩ := lexRun_cons secondRun
      obtain ⟨nextOpposite, stepGaps⟩ := opposite_step opposite firstStep secondStep
      have restGaps := inductionHypothesis nextOpposite firstRest secondRest
      intro points member
      rcases List.mem_append.mp member with inStep | inRest
      · exact stepGaps points inStep
      · exact restGaps points inRest

/-! ## Objects inside a text -/

/-- An object that is read anywhere in a text has no name that the text does not have,
if the name could not be a gap between two strings. -/
theorem keyIn_of_fragment {before fragment behind : List Char} {last : LexState}
    {tokens : List Token} {value : Json} {name : List Nat}
    (whole : lexRun .between (before ++ ('{' :: fragment ++ ['}'] ++ behind)) =
      some (last, tokens))
    (read : loads ('{' :: fragment ++ ['}']) = some value)
    (keyed : value.hasKey name = true) (notGap : ¬OfGaps name) :
    KeyIn name tokens := by
  obtain ⟨pieceTokens, lexed, parsed⟩ := Option.bind_eq_some_iff.mp read
  have pieceRun := lex_closed lexed
  have pieceKey := keyIn_of_parse parsed keyed
  obtain ⟨middle, beforeTokens, restTokens, _, restRun, rfl⟩ := lexRun_cut whole
  have stops : Stops ('{' :: fragment ++ ['}'] ++ behind) := rfl
  -- Outside a string the tokens of the piece are tokens of the text.
  have inPhase {reached : LexState} {found : List Token}
      (run : lexRun .between ('{' :: fragment ++ ['}'] ++ behind) = some (reached, found)) :
      KeyIn name found := by
    obtain ⟨_, firstTokens, behindTokens, firstRun, _, rfl⟩ := lexRun_cut run
    rw [pieceRun] at firstRun
    cases firstRun
    exact List.infix_append_of_infix_left pieceKey
  cases middle with
  | between => exact List.infix_append_of_infix_right (inPhase restRun)
  | atom text =>
      rw [lexRun_atom_stopped text stops] at restRun
      obtain ⟨value, _, emitted⟩ := Option.bind_eq_some_iff.mp restRun
      obtain ⟨⟨reached, found⟩, run, same⟩ := Option.map_eq_some_iff.mp emitted
      cases same
      have behindAtom : KeyIn name ([.scalar value] ++ found) :=
        List.infix_append_of_infix_right (inPhase run)
      exact List.infix_append_of_infix_right behindAtom
  | string points =>
      obtain ⟨_, _, _, firstRun, _, _⟩ := lexRun_cut restRun
      have opposite : Opposite (.string points) .between := .inl ⟨⟨points, rfl⟩, .inl rfl⟩
      exact absurd (opposite_run opposite firstRun pieceRun name pieceKey.mem) notGap
  | escape points => cases restRun
  | hex points value count => cases restRun

/-! ## The names of a written value -/

mutual

def allNames : Json → List (List Nat)
  | .array items => allNamesOfItems items
  | .object fields => allNamesOfFields fields
  | .null => []
  | .bool _ => []
  | .number _ => []
  | .string _ => []

def allNamesOfItems : List Json → List (List Nat)
  | [] => []
  | item :: rest => allNames item ++ allNamesOfItems rest

def allNamesOfFields : List (List Nat × Json) → List (List Nat)
  | [] => []
  | (name, value) :: rest => name :: (allNames value ++ allNamesOfFields rest)

end

theorem mem_allNamesOfItems {name : List Nat} {items : List Json}
    (member : name ∈ allNamesOfItems items) : ∃ item ∈ items, name ∈ allNames item := by
  induction items with
  | nil => cases member
  | cons item rest inductionHypothesis =>
      rcases List.mem_append.mp member with inFirst | inRest
      · exact ⟨item, by simp, inFirst⟩
      · obtain ⟨other, inItems, named⟩ := inductionHypothesis inRest
        exact ⟨other, by simp [inItems], named⟩

theorem keyIn_other {name : List Nat} {token : Token} {rest : List Token}
    (inside : KeyIn name (token :: rest)) (other : token ≠ .string name) : KeyIn name rest := by
  rcases keyIn_cons.mp inside with ⟨same, _⟩ | later
  · exact absurd same other
  · exact later

mutual

theorem keyIn_tokensOf {name : List Nat} (value : Json) {rest : List Token}
    (noColon : ∀ others, rest ≠ .colon :: others) (inside : KeyIn name (tokensOf value ++ rest)) :
    name ∈ allNames value ∨ KeyIn name rest := by
  cases value with
  | null => exact .inr (keyIn_other inside (by simp))
  | bool value => exact .inr (keyIn_other inside (by simp))
  | number text => exact .inr (keyIn_other inside (by simp))
  | string points =>
      rcases keyIn_cons.mp inside with ⟨_, others, colon⟩ | later
      · exact absurd colon (noColon others)
      · exact .inr later
  | array items =>
      cases items with
      | nil => exact .inr (keyIn_other (keyIn_other inside (by simp)) (by simp))
      | cons item others =>
          simp only [tokensOf, List.cons_append, List.append_assoc, List.nil_append] at inside
          have afterOpen := keyIn_other inside (by simp)
          have noColonMore :
              ∀ more, tokensOfItems others ++ .closeBracket :: rest ≠ .colon :: more := by
            cases others <;> simp [tokensOfItems]
          rcases keyIn_tokensOf item noColonMore afterOpen with inItem | later
          · exact .inl (List.mem_append.mpr (.inl inItem))
          · rcases keyIn_tokensOfItems others (by simp) later with inOthers | behind
            · exact .inl (List.mem_append.mpr (.inr inOthers))
            · exact .inr (keyIn_other behind (by simp))
  | object fields =>
      cases fields with
      | nil => exact .inr (keyIn_other (keyIn_other inside (by simp)) (by simp))
      | cons field others =>
          obtain ⟨fieldName, value⟩ := field
          simp only [tokensOf, List.cons_append, List.append_assoc, List.nil_append] at inside
          have afterOpen := keyIn_other inside (by simp)
          rcases keyIn_cons.mp afterOpen with ⟨same, _⟩ | afterName
          · cases same
            exact .inl (List.mem_cons_self ..)
          · have afterColon := keyIn_other afterName (by simp)
            have noColonMore :
                ∀ more, tokensOfFields others ++ .closeBrace :: rest ≠ .colon :: more := by
              cases others <;> simp [tokensOfFields]
            rcases keyIn_tokensOf value noColonMore afterColon with inValue | later
            · exact .inl (List.mem_cons_of_mem _ (List.mem_append.mpr (.inl inValue)))
            · rcases keyIn_tokensOfFields others (by simp) later with inOthers | behind
              · exact .inl (List.mem_cons_of_mem _ (List.mem_append.mpr (.inr inOthers)))
              · exact .inr (keyIn_other behind (by simp))

theorem keyIn_tokensOfItems {name : List Nat} (items : List Json) {rest : List Token}
    (noColon : ∀ others, rest ≠ .colon :: others)
    (inside : KeyIn name (tokensOfItems items ++ rest)) :
    name ∈ allNamesOfItems items ∨ KeyIn name rest := by
  cases items with
  | nil => exact .inr inside
  | cons item others =>
      simp only [tokensOfItems, List.cons_append, List.append_assoc] at inside
      have afterComma := keyIn_other inside (by simp)
      have noColonMore : ∀ more, tokensOfItems others ++ rest ≠ .colon :: more := by
        cases others with
        | nil => exact noColon
        | cons next more => simp [tokensOfItems]
      rcases keyIn_tokensOf item noColonMore afterComma with inItem | later
      · exact .inl (List.mem_append.mpr (.inl inItem))
      · rcases keyIn_tokensOfItems others noColon later with inOthers | behind
        · exact .inl (List.mem_append.mpr (.inr inOthers))
        · exact .inr behind

theorem keyIn_tokensOfFields {name : List Nat} (fields : List (List Nat × Json))
    {rest : List Token} (noColon : ∀ others, rest ≠ .colon :: others)
    (inside : KeyIn name (tokensOfFields fields ++ rest)) :
    name ∈ allNamesOfFields fields ∨ KeyIn name rest := by
  cases fields with
  | nil => exact .inr inside
  | cons field others =>
      obtain ⟨fieldName, value⟩ := field
      simp only [tokensOfFields, List.cons_append, List.append_assoc] at inside
      have afterComma := keyIn_other inside (by simp)
      rcases keyIn_cons.mp afterComma with ⟨same, _⟩ | afterName
      · cases same
        exact .inl (List.mem_cons_self ..)
      · have afterColon := keyIn_other afterName (by simp)
        have noColonMore : ∀ more, tokensOfFields others ++ rest ≠ .colon :: more := by
          cases others with
          | nil => exact noColon
          | cons next more => simp [tokensOfFields]
        rcases keyIn_tokensOf value noColonMore afterColon with inValue | later
        · exact .inl (List.mem_cons_of_mem _ (List.mem_append.mpr (.inl inValue)))
        · rcases keyIn_tokensOfFields others noColon later with inOthers | behind
          · exact .inl (List.mem_cons_of_mem _ (List.mem_append.mpr (.inr inOthers)))
          · exact .inr behind

end

/-- An object cut out of a written object behind its first name and colon has no name
but those of what was cut. -/
theorem name_of_fragment {value : Json} (writable : Writable value)
    {before fragment behind : List Char} {read : Json} {name : List Nat}
    (cut : dumps value ++ ['}'] = before ++ ('{' :: fragment ++ ['}'] ++ behind))
    (loaded : loads ('{' :: fragment ++ ['}']) = some read)
    (keyed : read.hasKey name = true) (notGap : ¬OfGaps name) : name ∈ allNames value := by
  have closed : Stops ['}'] := rfl
  have brace : lexRun .between ['}'] = some (.between, [.closeBrace]) := rfl
  have run := lexRun_dumps value writable ['}'] closed
  rw [brace, cut] at run
  have inside := keyIn_of_fragment run loaded keyed notGap
  rcases keyIn_tokensOf value (by simp) inside with named | behindValue
  · exact named
  · exact absurd (keyIn_other behindValue (by simp)) (not_keyIn_nil name)

end QuAIA.Library.Json
