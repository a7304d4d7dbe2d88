import Mathlib.Data.List.Basic

/-!
Contract: the message history of an agent run (`pydantic_ai.messages`), and the
serialisation of tool results.

Owns: messages and their parts, the Python values that a tool can return, and
`json.dumps` of such a value with an indentation of two, with the custom
serialiser of the wrapper.

Does not own: the fields of parts that no modelled function reads. Numbers are
given as Python prints them, keys of dictionaries are strings.
-/

set_option autoImplicit false

namespace QuAIA.Common

/-! ## Values -/

/-- A Python value. `model` is an object with `model_dump`, given by its dump, and
`other` one that JSON cannot hold, given by its class name. -/
inductive Content where
  | text (text : String)
  | null
  | bool (value : Bool)
  | number (repr : String)
  | list (items : List Content)
  | dict (entries : List (String × Content))
  | binary (size : Nat) (mediaType identifier : String)
  | bytes (size : Nat)
  | model (dump : Content)
  | other (className : String)

/-! ## JSON -/

def hexDigit (value : Nat) : Char :=
  if value < 10 then Char.ofNat (48 + value) else Char.ofNat (87 + value)

/-- `\\uXXXX`. -/
def unicodeEscape (value : Nat) : List Char :=
  ['\\', 'u', hexDigit (value / 4096 % 16), hexDigit (value / 256 % 16),
    hexDigit (value / 16 % 16), hexDigit (value % 16)]

/-- A character in a string with `ensure_ascii`: printable ASCII stays, and what lies
beyond the basic plane becomes a surrogate pair. -/
def escapeChar (character : Char) : List Char :=
  if character = '"' then ['\\', '"']
  else if character = '\\' then ['\\', '\\']
  else if character = '\n' then ['\\', 'n']
  else if character = '\r' then ['\\', 'r']
  else if character = '\t' then ['\\', 't']
  else if character.toNat = 8 then ['\\', 'b']
  else if character.toNat = 12 then ['\\', 'f']
  else if 32 ≤ character.toNat ∧ character.toNat ≤ 126 then [character]
  else if character.toNat < 65536 then unicodeEscape character.toNat
  else
    unicodeEscape (55296 + (character.toNat - 65536) / 1024) ++
      unicodeEscape (56320 + (character.toNat - 65536) % 1024)

def quoteJson (text : String) : String :=
  "\"" ++ String.ofList (text.toList.flatMap escapeChar) ++ "\""

/-- A line break and the indentation of a level. -/
def newline (level : Nat) : String := "\n" ++ String.ofList (List.replicate (2 * level) ' ')

/-- The items or entries between two brackets, one to a line. -/
def bracket (opening closing : String) (level : Nat) (lines : List String) : String :=
  if lines.isEmpty then opening ++ closing
  else
    opening ++ newline (level + 1) ++ ("," ++ newline (level + 1)).intercalate lines ++
      newline level ++ closing

mutual

def dumpContent (level : Nat) : Content → Except String String
  | .text text => .ok (quoteJson text)
  | .null => .ok "null"
  | .bool value => .ok (if value then "true" else "false")
  | .number repr => .ok repr
  | .list items => (dumpItems (level + 1) items).map (bracket "[" "]" level)
  | .dict entries => (dumpEntries (level + 1) entries).map (bracket "\x7b" "\x7d" level)
  | .binary size mediaType identifier =>
      .ok (quoteJson ("<BinaryContent: media_type=" ++ mediaType ++ ", identifier=" ++
        identifier ++ ", size=" ++ toString size ++ " bytes>"))
  | .bytes size => .ok (quoteJson ("<bytes: " ++ toString size ++ ">"))
  | .model dump => dumpContent level dump
  | .other className =>
      .error ("Object of type " ++ className ++ " is not JSON serializable")

def dumpItems (level : Nat) : List Content → Except String (List String)
  | [] => .ok []
  | item :: rest =>
      match dumpContent level item with
      | .error error => .error error
      | .ok dumped => (dumpItems level rest).map (dumped :: ·)

def dumpEntries (level : Nat) : List (String × Content) → Except String (List String)
  | [] => .ok []
  | (key, value) :: rest =>
      match dumpContent level value with
      | .error error => .error error
      | .ok dumped => (dumpEntries level rest).map ((quoteJson key ++ ": " ++ dumped) :: ·)

end

/-- `CustomLlmWrapper._serialize_content`. -/
def serializeContent (content : Content) : Except String String := dumpContent 0 content

/-! ## Messages -/

/-- An item of a user prompt; `other` stands for links and markers. -/
inductive UserContent where
  | text (text : String)
  | binary (data : List UInt8) (mediaType : String)
  | other (className : String)

inductive UserPrompt where
  | text (text : String)
  | items (items : List UserContent)

inductive RequestPart where
  | systemPrompt (content : String)
  | userPrompt (content : UserPrompt)
  | toolReturn (toolName : String) (content : Content)
  | retryPrompt (content : Content)

inductive ResponsePart where
  | text (content : String)
  | thinking (content : String)
  | toolCall (toolName : String) (args : Content)

inductive ModelMessage where
  | request (parts : List RequestPart)
  | response (parts : List ResponsePart)

def UserContent.text? : UserContent → Option String
  | .text string => some string
  | _ => none

/-- The strings of a user prompt. -/
def UserPrompt.strings : UserPrompt → List String
  | .text string => [string]
  | .items list => list.filterMap UserContent.text?

end QuAIA.Common
