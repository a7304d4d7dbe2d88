import Mathlib.Data.List.Basic

/-!
Contract: JSON texts as Python's `json` module writes and reads them.

Owns: values, `dumps` with the default separators and `ensure_ascii`, the lexer
and the parser of `loads`, and the laws by which both follow a text that is cut in two.

Strings are lists of code points, since an escape can name a lone surrogate. An
object keeps its pairs in the order of the text, and the last of two equal keys is
the one that counts. A number keeps its text. Nesting has no limit here, where
the interpreter's stack has one.
-/

set_option autoImplicit false

namespace QuAIA.Library

inductive Json where
  | null
  | bool (value : Bool)
  | number (text : List Char)
  | string (points : List Nat)
  | array (items : List Json)
  | object (fields : List (List Nat × Json))

namespace Json

def pointsOf (text : String) : List Nat := text.toList.map Char.toNat

def ofString (text : String) : Json := .string (pointsOf text)

/-- A string that is made of characters. -/
def text? : Json → Option String
  | .string points =>
      if points.all fun point => decide point.isValidChar then
        some (String.ofList (points.map Char.ofNat))
      else none
  | _ => none

theorem text?_ofString (text : String) : (ofString text).text? = some text := by
  have valid : ((pointsOf text).all fun point => decide point.isValidChar) = true := by
    rw [List.all_eq_true]
    intro point member
    obtain ⟨character, _, rfl⟩ := List.mem_map.mp member
    exact decide_eq_true character.valid
  have back : (pointsOf text).map Char.ofNat = text.toList := by
    simp [pointsOf, Function.comp_def]
  simp only [ofString, text?, valid, if_true, back, String.ofList_toList]

def items? : Json → Option (List Json)
  | .array items => some items
  | _ => none

/-- `name in data`, which is false of a value that is no object. -/
def hasKey (name : List Nat) : Json → Bool
  | .object fields => fields.any fun field => field.1 == name
  | _ => false

/-- `data[name]`. -/
def field? (name : List Nat) : Json → Option Json
  | .object fields => (fields.reverse.find? fun field => field.1 == name).map Prod.snd
  | _ => none

/-! ## Writing -/

def hexDigit (value : Nat) : Char :=
  if value < 10 then Char.ofNat (48 + value) else Char.ofNat (87 + value)

/-- `\\uXXXX`. -/
def unicodeEscape (unit : Nat) : List Char :=
  ['\\', 'u', hexDigit (unit / 4096 % 16), hexDigit (unit / 256 % 16),
    hexDigit (unit / 16 % 16), hexDigit (unit % 16)]

/-- Printable ASCII stays, and what lies beyond the basic plane becomes a
surrogate pair. -/
def escapePoint (point : Nat) : List Char :=
  if point = 34 then ['\\', '"']
  else if point = 92 then ['\\', '\\']
  else if point = 10 then ['\\', 'n']
  else if point = 13 then ['\\', 'r']
  else if point = 9 then ['\\', 't']
  else if point = 12 then ['\\', 'f']
  else if point = 8 then ['\\', 'b']
  else if 32 ≤ point ∧ point ≤ 126 then [Char.ofNat point]
  else if point < 65536 then unicodeEscape point
  else
    unicodeEscape (55296 + (point - 65536) / 1024) ++
      unicodeEscape (56320 + (point - 65536) % 1024)

def quote (points : List Nat) : List Char :=
  '"' :: points.flatMap escapePoint ++ ['"']

mutual

def dumps : Json → List Char
  | .null => ['n', 'u', 'l', 'l']
  | .bool true => ['t', 'r', 'u', 'e']
  | .bool false => ['f', 'a', 'l', 's', 'e']
  | .number text => text
  | .string points => quote points
  | .array [] => ['[', ']']
  | .array (item :: rest) => '[' :: (dumps item ++ dumpsItems rest) ++ [']']
  | .object [] => ['{', '}']
  | .object ((name, value) :: rest) =>
      '{' :: (quote name ++ ':' :: ' ' :: (dumps value ++ dumpsFields rest)) ++ ['}']

/-- The items after the first, each behind its separator. -/
def dumpsItems : List Json → List Char
  | [] => []
  | item :: rest => ',' :: ' ' :: (dumps item ++ dumpsItems rest)

def dumpsFields : List (List Nat × Json) → List Char
  | [] => []
  | (name, value) :: rest =>
      ',' :: ' ' :: (quote name ++ ':' :: ' ' :: (dumps value ++ dumpsFields rest))

end

/-! ## Lexing -/

/-- A value that one atom stands for. -/
inductive Scalar where
  | null
  | bool (value : Bool)
  | number (text : List Char)

def Scalar.toJson : Scalar → Json
  | .null => .null
  | .bool value => .bool value
  | .number text => .number text

inductive Token where
  | openBrace
  | closeBrace
  | openBracket
  | closeBracket
  | comma
  | colon
  | string (points : List Nat)
  | scalar (value : Scalar)

def isSpace (character : Char) : Bool := [' ', '\t', '\n', '\r'].contains character

/-- The characters of numbers and of the literals `null`, `true`, `false`, `NaN` and
`Infinity`. -/
def isAtomChar (character : Char) : Bool :=
  ['0', '1', '2', '3', '4', '5', '6', '7', '8', '9', '+', '-', '.', 'e', 'E',
    'n', 'u', 'l', 't', 'r', 'f', 'a', 's', 'N', 'I', 'i', 'y'].contains character

def punctuation : Char → Option Token
  | '{' => some .openBrace
  | '}' => some .closeBrace
  | '[' => some .openBracket
  | ']' => some .closeBracket
  | ',' => some .comma
  | ':' => some .colon
  | _ => none

/-- The greatest number of digits that `int` reads. -/
def maxIntDigits : Nat := 4300

def isExponent : List Char → Bool
  | [] => true
  | mark :: rest =>
      let digits := match rest with
        | '+' :: digits => digits
        | '-' :: digits => digits
        | digits => digits
      (mark == 'e' || mark == 'E') && !digits.isEmpty && digits.all Char.isDigit

def isFraction : List Char → Bool
  | '.' :: rest =>
      !(rest.takeWhile Char.isDigit).isEmpty && isExponent (rest.dropWhile Char.isDigit)
  | rest => isExponent rest

def isNumber (text : List Char) : Bool :=
  let unsigned := match text with
    | '-' :: rest => rest
    | rest => rest
  let whole := unsigned.takeWhile Char.isDigit
  let rest := unsigned.dropWhile Char.isDigit
  (whole == ['0'] || (!whole.isEmpty && whole.head? != some '0')) && isFraction rest &&
    (!rest.isEmpty || decide (whole.length ≤ maxIntDigits))

def readAtom (text : List Char) : Option Scalar :=
  if text == ['n', 'u', 'l', 'l'] then some .null
  else if text == ['t', 'r', 'u', 'e'] then some (.bool true)
  else if text == ['f', 'a', 'l', 's', 'e'] then some (.bool false)
  else if text == ['N', 'a', 'N'] || text == ['I', 'n', 'f', 'i', 'n', 'i', 't', 'y'] ||
      text == ['-', 'I', 'n', 'f', 'i', 'n', 'i', 't', 'y'] then some (.number text)
  else if isNumber text then some (.number text)
  else none

/-- The character after a backslash, other than `u`. -/
def unescape : Char → Option Nat
  | '"' => some 34
  | '\\' => some 92
  | '/' => some 47
  | 'b' => some 8
  | 'f' => some 12
  | 'n' => some 10
  | 'r' => some 13
  | 't' => some 9
  | _ => none

def hexValue (character : Char) : Option Nat :=
  let point := character.toNat
  if 48 ≤ point ∧ point ≤ 57 then some (point - 48)
  else if 97 ≤ point ∧ point ≤ 102 then some (point - 87)
  else if 65 ≤ point ∧ point ≤ 70 then some (point - 55)
  else none

/-- Append an escaped unit. A low surrogate joins a high one right before it, which
can only have come from an escape as well. -/
def pushUnit (points : List Nat) (unit : Nat) : List Nat :=
  match points.getLast? with
  | some high =>
      if 55296 ≤ high ∧ high ≤ 56319 ∧ 56320 ≤ unit ∧ unit ≤ 57343 then
        points.dropLast ++ [65536 + (high - 55296) * 1024 + (unit - 56320)]
      else points ++ [unit]
  | none => [unit]

/-- Where a lexer stands. `hex` has read `count` digits of an escape. -/
inductive LexState where
  | between
  | atom (text : List Char)
  | string (points : List Nat)
  | escape (points : List Nat)
  | hex (points : List Nat) (value count : Nat)

def betweenStep (character : Char) : Option (LexState × List Token) :=
  if isAtomChar character then some (.atom [character], [])
  else if isSpace character then some (.between, [])
  else if character = '"' then some (.string [], [])
  else (punctuation character).map fun token => (.between, [token])

def stringStep (points : List Nat) (character : Char) : Option (LexState × List Token) :=
  if character = '"' then some (.between, [.string points])
  else if character = '\\' then some (.escape points, [])
  else if character.toNat < 32 then none
  else some (.string (points ++ [character.toNat]), [])

/-- The same result with more tokens before its own. -/
def emitting (tokens : List Token) (result : Option (LexState × List Token)) :
    Option (LexState × List Token) :=
  result.map fun reached => (reached.1, tokens ++ reached.2)

/-- An atom is read when the first character behind it comes. -/
def lexStep : LexState → Char → Option (LexState × List Token)
  | .between, character => betweenStep character
  | .atom text, character =>
      if isAtomChar character then some (.atom (text ++ [character]), [])
      else (readAtom text).bind fun value => emitting [.scalar value] (betweenStep character)
  | .string points, character => stringStep points character
  | .escape points, character =>
      if character = 'u' then some (.hex points 0 0, [])
      else (unescape character).map fun point => (.string (points ++ [point]), [])
  | .hex points value count, character =>
      (hexValue character).map fun digit =>
        if count = 3 then (.string (pushUnit points (16 * value + digit)), [])
        else (.hex points (16 * value + digit) (count + 1), [])

def lexRun : LexState → List Char → Option (LexState × List Token)
  | state, [] => some (state, [])
  | state, character :: rest =>
      (lexStep state character).bind fun step => emitting step.2 (lexRun step.1 rest)

/-- The tokens that a state still owes at the end of the text. -/
def flush : LexState → Option (List Token)
  | .between => some []
  | .atom text => (readAtom text).map fun value => [.scalar value]
  | _ => none

def lex (text : List Char) : Option (List Token) :=
  (lexRun .between text).bind fun reached =>
    (flush reached.1).map fun owed => reached.2 ++ owed

/-! ## Parsing -/

/-- An array or object that is not closed yet. -/
inductive Frame where
  | array (items : List Json)
  | object (fields : List (List Nat × Json)) (name : List Nat)

/-- What a parser expects, with what is open around it, innermost first. -/
inductive ParseState where
  | value (frames : List Frame)
  | firstItem (frames : List Frame)
  | firstField (frames : List Frame)
  | nextField (fields : List (List Nat × Json)) (frames : List Frame)
  | colon (fields : List (List Nat × Json)) (name : List Nat) (frames : List Frame)
  | afterValue (value : Json) (frames : List Frame)

def startValue (frames : List Frame) : Token → Option ParseState
  | .scalar value => some (.afterValue value.toJson frames)
  | .string points => some (.afterValue (.string points) frames)
  | .openBracket => some (.firstItem frames)
  | .openBrace => some (.firstField frames)
  | _ => none

/-- The token behind a value that is an item or field of the innermost frame. -/
def afterItem (value : Json) : List Frame → Token → Option ParseState
  | .array items :: frames, .comma => some (.value (.array (items ++ [value]) :: frames))
  | .array items :: frames, .closeBracket =>
      some (.afterValue (.array (items ++ [value])) frames)
  | .object fields name :: frames, .comma =>
      some (.nextField (fields ++ [(name, value)]) frames)
  | .object fields name :: frames, .closeBrace =>
      some (.afterValue (.object (fields ++ [(name, value)])) frames)
  | _, _ => none

def parseStep : ParseState → Token → Option ParseState
  | .value frames, token => startValue frames token
  | .firstItem frames, .closeBracket => some (.afterValue (.array []) frames)
  | .firstItem frames, token => startValue (.array [] :: frames) token
  | .firstField frames, .closeBrace => some (.afterValue (.object []) frames)
  | .firstField frames, .string name => some (.colon [] name frames)
  | .nextField fields frames, .string name => some (.colon fields name frames)
  | .colon fields name frames, .colon => some (.value (.object fields name :: frames))
  | .afterValue value frames, token => afterItem value frames token
  | _, _ => none

def parseRun : ParseState → List Token → Option ParseState
  | state, [] => some state
  | state, token :: rest => (parseStep state token).bind fun next => parseRun next rest

def parse (tokens : List Token) : Option Json :=
  match parseRun (.value []) tokens with
  | some (.afterValue value []) => some value
  | _ => none

def loads (text : List Char) : Option Json := (lex text).bind parse

end Json

end QuAIA.Library
