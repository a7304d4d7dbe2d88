import Mathlib.Data.Nat.Digits.Defs
import QuAIA.Common.TraceRedaction

/-!
Contract: the redaction of a history as a change of its sources and of nothing else.

Owns: the sources of a history (what may carry content from outside), the replacement of
all sources by texts and its laws, the redaction as one such replacement, and its effect
when it is applied again.

Does not own: contents below the top level of a call's arguments and structured tool
results, which the redaction does not look at.
-/

set_option autoImplicit false

namespace QuAIA.Common

/-! ## Sources -/

/-- What the redaction looks at. -/
inductive Source where
  | text (value : String)
  | binary (data : List UInt8) (mediaType : String)

/-- The largest length of a Python object. -/
def sysMaxsize : Nat := 2 ^ 63 - 1

/-- The source has a length, and a media type of less than 100 characters. -/
def Source.Sized : Source → Prop
  | .text value => value.length ≤ sysMaxsize
  | .binary data mediaType => data.length ≤ sysMaxsize ∧ mediaType.length < 100

def textPlaceholder (length : Nat) : String := "<redacted: " ++ toString length ++ " chars>"

def binaryPlaceholder (size : Nat) (mediaType : String) : String :=
  "<redacted: " ++ toString size ++ " bytes, " ++ mediaType ++ ">"

/-- Long texts and all binary contents are replaced, short texts stay. -/
def Source.redact : Source → String
  | .text value => if value.length ≤ maxTextLength then value else textPlaceholder value.length
  | .binary data mediaType => binaryPlaceholder data.length mediaType

/-! ### Sources of a history -/

def UserContent.sources : UserContent → List Source
  | .text value => [.text value]
  | .binary data mediaType => [.binary data mediaType]
  | .other _ => []

def UserPrompt.sources : UserPrompt → List Source
  | .text value => [.text value]
  | .items list => list.flatMap UserContent.sources

/-- The source of a value that is a string. -/
def Content.source : Content → List Source
  | .text value => [.text value]
  | _ => []

/-- The arguments of a call, or the top level of their dictionary. -/
def argsSources : Content → List Source
  | .dict entries => entries.flatMap fun entry => entry.2.source
  | args => args.source

def RequestPart.sources : RequestPart → List Source
  | .userPrompt content => content.sources
  | .toolReturn _ content => content.source
  | _ => []

def ResponsePart.sources : ResponsePart → List Source
  | .toolCall _ args => argsSources args
  | _ => []

def ModelMessage.sources : ModelMessage → List Source
  | .request parts => parts.flatMap RequestPart.sources
  | .response parts => parts.flatMap ResponsePart.sources

def sources (messages : List ModelMessage) : List Source :=
  messages.flatMap ModelMessage.sources

/-! ### Replacing all sources by texts -/

section Replace

variable (replace : Source → String)

def UserContent.mapSources : UserContent → UserContent
  | .text value => .text (replace (.text value))
  | .binary data mediaType => .text (replace (.binary data mediaType))
  | .other className => .other className

def UserPrompt.mapSources : UserPrompt → UserPrompt
  | .text value => .text (replace (.text value))
  | .items list => .items (list.map (UserContent.mapSources replace))

def Content.mapSource : Content → Content
  | .text value => .text (replace (.text value))
  | value => value

def mapArgs : Content → Content
  | .dict entries => .dict (entries.map fun entry => (entry.1, entry.2.mapSource replace))
  | args => args.mapSource replace

def RequestPart.mapSources : RequestPart → RequestPart
  | .userPrompt content => .userPrompt (content.mapSources replace)
  | .toolReturn toolName content => .toolReturn toolName (content.mapSource replace)
  | part => part

def ResponsePart.mapSources : ResponsePart → ResponsePart
  | .toolCall toolName args => .toolCall toolName (mapArgs replace args)
  | part => part

def ModelMessage.mapSources : ModelMessage → ModelMessage
  | .request parts => .request (parts.map (RequestPart.mapSources replace))
  | .response parts => .response (parts.map (ResponsePart.mapSources replace))

def mapSources (messages : List ModelMessage) : List ModelMessage :=
  messages.map (ModelMessage.mapSources replace)

end Replace

/-- A history without its sources. What is left has every message and every part in its
place, with the texts of the model and of the system as they are. -/
def skeleton (messages : List ModelMessage) : List ModelMessage := mapSources (fun _ => "") messages

/-! ### Kinds -/

inductive PartKind where
  | systemPrompt
  | userPrompt
  | toolReturn
  | retryPrompt
  | text
  | thinking
  | toolCall
deriving DecidableEq, Repr

def RequestPart.kind : RequestPart → PartKind
  | .systemPrompt _ => .systemPrompt
  | .userPrompt _ => .userPrompt
  | .toolReturn _ _ => .toolReturn
  | .retryPrompt _ => .retryPrompt

def ResponsePart.kind : ResponsePart → PartKind
  | .text _ => .text
  | .thinking _ => .thinking
  | .toolCall _ _ => .toolCall

inductive MessageKinds where
  | request (parts : List PartKind)
  | response (parts : List PartKind)
deriving DecidableEq, Repr

def ModelMessage.kinds : ModelMessage → MessageKinds
  | .request parts => .request (parts.map RequestPart.kind)
  | .response parts => .response (parts.map ResponsePart.kind)

/-! ## The redaction replaces sources -/

theorem redactUserContentItem_eq (item : UserContent) :
    redactUserContentItem item = item.mapSources Source.redact := by
  cases item <;> rfl

theorem redactUserPrompt_eq (content : UserPrompt) :
    redactUserPrompt content = content.mapSources Source.redact := by
  cases content with
  | text value => rfl
  | items list =>
      simp only [redactUserPrompt, UserPrompt.mapSources, UserPrompt.items.injEq]
      exact List.map_congr_left fun item _ => redactUserContentItem_eq item

theorem redactArgument_eq (value : Content) :
    redactArgument value = value.mapSource Source.redact := by
  cases value <;> rfl

theorem redactToolArgs_eq (args : Content) :
    redactToolArgs args = mapArgs Source.redact args := by
  cases args with
  | dict entries =>
      simp only [redactToolArgs, mapArgs, redactArgument_eq]
  | text | null | bool | number | list | binary | bytes | model | other => rfl

theorem redactRequestPart_eq (part : RequestPart) :
    redactRequestPart part = part.mapSources Source.redact := by
  cases part with
  | userPrompt content =>
      rw [redactRequestPart, RequestPart.mapSources, redactUserPrompt_eq]
  | toolReturn toolName content => cases content <;> rfl
  | systemPrompt | retryPrompt => rfl

theorem redactResponsePart_eq (part : ResponsePart) :
    redactResponsePart part = part.mapSources Source.redact := by
  cases part with
  | toolCall toolName args =>
      rw [redactResponsePart, ResponsePart.mapSources, redactToolArgs_eq]
  | text | thinking => rfl

theorem redactMessage_eq (message : ModelMessage) :
    redactMessage message = message.mapSources Source.redact := by
  cases message with
  | request parts =>
      simp only [redactMessage, ModelMessage.mapSources, ModelMessage.request.injEq]
      exact List.map_congr_left fun part _ => redactRequestPart_eq part
  | response parts =>
      simp only [redactMessage, ModelMessage.mapSources, ModelMessage.response.injEq]
      exact List.map_congr_left fun part _ => redactResponsePart_eq part

theorem redactMessages_eq (messages : List ModelMessage) :
    redactMessages messages = mapSources Source.redact messages :=
  List.map_congr_left fun message _ => redactMessage_eq message

/-! ## Laws of the replacement

Replacing twice, replacing by equal texts, and the sources that a replacement leaves. -/

section Laws

variable {first second : Source → String}

theorem UserContent.mapSources_mapSources (item : UserContent) :
    (item.mapSources first).mapSources second =
      item.mapSources fun source => second (.text (first source)) := by
  cases item <;> rfl

theorem UserPrompt.mapSources_mapSources (content : UserPrompt) :
    (content.mapSources first).mapSources second =
      content.mapSources fun source => second (.text (first source)) := by
  cases content with
  | text value => rfl
  | items list =>
      simp only [UserPrompt.mapSources, List.map_map, UserPrompt.items.injEq]
      exact List.map_congr_left fun item _ => UserContent.mapSources_mapSources item

theorem Content.mapSource_mapSource (value : Content) :
    (value.mapSource first).mapSource second =
      value.mapSource fun source => second (.text (first source)) := by
  cases value <;> rfl

theorem mapArgs_mapArgs (args : Content) :
    mapArgs second (mapArgs first args) =
      mapArgs (fun source => second (.text (first source))) args := by
  cases args with
  | dict entries =>
      simp only [mapArgs, List.map_map, Content.dict.injEq]
      apply List.map_congr_left
      intro entry _
      exact congrArg (Prod.mk entry.1) (Content.mapSource_mapSource entry.2)
  | text | null | bool | number | list | binary | bytes | model | other => rfl

theorem RequestPart.mapSources_mapSources (part : RequestPart) :
    (part.mapSources first).mapSources second =
      part.mapSources fun source => second (.text (first source)) := by
  cases part with
  | userPrompt content =>
      exact congrArg RequestPart.userPrompt (UserPrompt.mapSources_mapSources content)
  | toolReturn toolName content =>
      exact congrArg (RequestPart.toolReturn toolName) (Content.mapSource_mapSource content)
  | systemPrompt | retryPrompt => rfl

theorem ResponsePart.mapSources_mapSources (part : ResponsePart) :
    (part.mapSources first).mapSources second =
      part.mapSources fun source => second (.text (first source)) := by
  cases part with
  | toolCall toolName args =>
      exact congrArg (ResponsePart.toolCall toolName) (mapArgs_mapArgs args)
  | text | thinking => rfl

theorem ModelMessage.mapSources_mapSources (message : ModelMessage) :
    (message.mapSources first).mapSources second =
      message.mapSources fun source => second (.text (first source)) := by
  cases message with
  | request parts =>
      simp only [ModelMessage.mapSources, List.map_map, ModelMessage.request.injEq]
      exact List.map_congr_left fun part _ => RequestPart.mapSources_mapSources part
  | response parts =>
      simp only [ModelMessage.mapSources, List.map_map, ModelMessage.response.injEq]
      exact List.map_congr_left fun part _ => ResponsePart.mapSources_mapSources part

theorem mapSources_mapSources (messages : List ModelMessage) :
    mapSources second (mapSources first messages) =
      mapSources (fun source => second (.text (first source))) messages := by
  simp only [mapSources, List.map_map]
  exact List.map_congr_left fun message _ => ModelMessage.mapSources_mapSources message

theorem UserContent.mapSources_congr {item : UserContent}
    (same : ∀ source ∈ item.sources, first source = second source) :
    item.mapSources first = item.mapSources second := by
  cases item with
  | text value => exact congrArg UserContent.text (same _ List.mem_cons_self)
  | binary data mediaType => exact congrArg UserContent.text (same _ List.mem_cons_self)
  | other className => rfl

theorem UserPrompt.mapSources_congr {content : UserPrompt}
    (same : ∀ source ∈ content.sources, first source = second source) :
    content.mapSources first = content.mapSources second := by
  cases content with
  | text value => exact congrArg UserPrompt.text (same _ List.mem_cons_self)
  | items list =>
      apply congrArg UserPrompt.items
      apply List.map_congr_left
      intro item member
      apply UserContent.mapSources_congr
      intro source inside
      exact same source (List.mem_flatMap.mpr ⟨item, member, inside⟩)

theorem Content.mapSource_congr {value : Content}
    (same : ∀ source ∈ value.source, first source = second source) :
    value.mapSource first = value.mapSource second := by
  cases value with
  | text value => exact congrArg Content.text (same _ List.mem_cons_self)
  | null | bool | number | list | dict | binary | bytes | model | other => rfl

theorem mapArgs_congr {args : Content}
    (same : ∀ source ∈ argsSources args, first source = second source) :
    mapArgs first args = mapArgs second args := by
  cases args with
  | dict entries =>
      apply congrArg Content.dict
      apply List.map_congr_left
      intro entry member
      apply congrArg (Prod.mk entry.1)
      apply Content.mapSource_congr
      intro source inside
      exact same source (List.mem_flatMap.mpr ⟨entry, member, inside⟩)
  | text value => exact congrArg Content.text (same _ List.mem_cons_self)
  | null | bool | number | list | binary | bytes | model | other => rfl

theorem RequestPart.mapSources_congr {part : RequestPart}
    (same : ∀ source ∈ part.sources, first source = second source) :
    part.mapSources first = part.mapSources second := by
  cases part with
  | userPrompt content =>
      exact congrArg RequestPart.userPrompt (UserPrompt.mapSources_congr same)
  | toolReturn toolName content =>
      exact congrArg (RequestPart.toolReturn toolName) (Content.mapSource_congr same)
  | systemPrompt | retryPrompt => rfl

theorem ResponsePart.mapSources_congr {part : ResponsePart}
    (same : ∀ source ∈ part.sources, first source = second source) :
    part.mapSources first = part.mapSources second := by
  cases part with
  | toolCall toolName args =>
      exact congrArg (ResponsePart.toolCall toolName) (mapArgs_congr same)
  | text | thinking => rfl

theorem ModelMessage.mapSources_congr {message : ModelMessage}
    (same : ∀ source ∈ message.sources, first source = second source) :
    message.mapSources first = message.mapSources second := by
  cases message with
  | request parts =>
      apply congrArg ModelMessage.request
      apply List.map_congr_left
      intro part member
      apply RequestPart.mapSources_congr
      intro source inside
      exact same source (List.mem_flatMap.mpr ⟨part, member, inside⟩)
  | response parts =>
      apply congrArg ModelMessage.response
      apply List.map_congr_left
      intro part member
      apply ResponsePart.mapSources_congr
      intro source inside
      exact same source (List.mem_flatMap.mpr ⟨part, member, inside⟩)

theorem mapSources_congr {messages : List ModelMessage}
    (same : ∀ source ∈ sources messages, first source = second source) :
    mapSources first messages = mapSources second messages := by
  apply List.map_congr_left
  intro message member
  apply ModelMessage.mapSources_congr
  intro source inside
  exact same source (List.mem_flatMap.mpr ⟨message, member, inside⟩)

/-! ### The sources that are left -/

theorem UserContent.sources_mapSources (item : UserContent) :
    (item.mapSources first).sources = item.sources.map fun source => .text (first source) := by
  cases item <;> rfl

theorem UserPrompt.sources_mapSources (content : UserPrompt) :
    (content.mapSources first).sources =
      content.sources.map fun source => .text (first source) := by
  cases content with
  | text value => rfl
  | items list =>
      simp only [UserPrompt.mapSources, UserPrompt.sources, List.flatMap_map, List.map_flatMap,
        UserContent.sources_mapSources]

theorem Content.source_mapSource (value : Content) :
    (value.mapSource first).source = value.source.map fun source => .text (first source) := by
  cases value <;> rfl

theorem argsSources_mapArgs (args : Content) :
    argsSources (mapArgs first args) =
      (argsSources args).map fun source => .text (first source) := by
  cases args with
  | dict entries =>
      simp only [mapArgs, argsSources, List.flatMap_map, List.map_flatMap,
        Content.source_mapSource]
  | text | null | bool | number | list | binary | bytes | model | other => rfl

theorem RequestPart.sources_mapSources (part : RequestPart) :
    (part.mapSources first).sources = part.sources.map fun source => .text (first source) := by
  cases part with
  | userPrompt content => exact UserPrompt.sources_mapSources content
  | toolReturn toolName content => exact Content.source_mapSource content
  | systemPrompt | retryPrompt => rfl

theorem ResponsePart.sources_mapSources (part : ResponsePart) :
    (part.mapSources first).sources = part.sources.map fun source => .text (first source) := by
  cases part with
  | toolCall toolName args => exact argsSources_mapArgs args
  | text | thinking => rfl

theorem ModelMessage.sources_mapSources (message : ModelMessage) :
    (message.mapSources first).sources =
      message.sources.map fun source => .text (first source) := by
  cases message with
  | request parts =>
      simp only [ModelMessage.mapSources, ModelMessage.sources, List.flatMap_map,
        List.map_flatMap, RequestPart.sources_mapSources]
  | response parts =>
      simp only [ModelMessage.mapSources, ModelMessage.sources, List.flatMap_map,
        List.map_flatMap, ResponsePart.sources_mapSources]

theorem sources_mapSources (messages : List ModelMessage) :
    sources (mapSources first messages) =
      (sources messages).map fun source => .text (first source) := by
  simp only [mapSources, sources, List.flatMap_map, List.map_flatMap,
    ModelMessage.sources_mapSources]

/-! ### Kinds -/

theorem ModelMessage.kinds_mapSources (message : ModelMessage) :
    (message.mapSources first).kinds = message.kinds := by
  have requestKind (part : RequestPart) : (part.mapSources first).kind = part.kind := by
    cases part <;> rfl
  have responseKind (part : ResponsePart) : (part.mapSources first).kind = part.kind := by
    cases part <;> rfl
  cases message with
  | request parts =>
      simp only [ModelMessage.mapSources, ModelMessage.kinds, List.map_map, Function.comp_def,
        requestKind]
  | response parts =>
      simp only [ModelMessage.mapSources, ModelMessage.kinds, List.map_map, Function.comp_def,
        responseKind]

end Laws

/-! ## Placeholders are short -/

theorem length_toString_le {length : Nat} (sized : length ≤ sysMaxsize) :
    (toString length).length ≤ 19 := by
  have small : length < 10 ^ 19 := by
    unfold sysMaxsize at sized
    omega
  exact Nat.repr_length length 19 (by decide) small

theorem length_textPlaceholder_le {length : Nat} (sized : length ≤ sysMaxsize) :
    (textPlaceholder length).length ≤ maxTextLength := by
  have digits := length_toString_le sized
  have opening : "<redacted: ".length = 11 := rfl
  have closing : " chars>".length = 7 := rfl
  rw [textPlaceholder, String.length_append, String.length_append, opening, closing]
  unfold maxTextLength
  omega

theorem length_binaryPlaceholder_le {size : Nat} {mediaType : String}
    (sized : size ≤ sysMaxsize) (short : mediaType.length < 100) :
    (binaryPlaceholder size mediaType).length ≤ maxTextLength := by
  have digits := length_toString_le sized
  have opening : "<redacted: ".length = 11 := rfl
  have middle : " bytes, ".length = 8 := rfl
  have closing : ">".length = 1 := rfl
  simp only [binaryPlaceholder, String.length_append, opening, middle, closing]
  unfold maxTextLength
  omega

/-- Redacted once, a source is short. -/
theorem Source.length_redact_le {source : Source} (sized : source.Sized) :
    source.redact.length ≤ maxTextLength := by
  cases source with
  | text value =>
      rw [Source.redact]
      split
      · assumption
      · exact length_textPlaceholder_le sized
  | binary data mediaType => exact length_binaryPlaceholder_le sized.1 sized.2

theorem Source.redact_redact {source : Source} (sized : source.Sized) :
    (Source.text source.redact).redact = source.redact :=
  if_pos (length_redact_le sized)

/-! ## The structure of a redacted history -/

/-- **Redaction.** It is idempotent, keeps the messages and parts and their kinds, changes
nothing but sources, and every source as its length and media type say. -/
theorem redactMessages_structure {messages : List ModelMessage}
    (sized : ∀ source ∈ sources messages, source.Sized) :
    redactMessages (redactMessages messages) = redactMessages messages ∧
      (redactMessages messages).map ModelMessage.kinds = messages.map ModelMessage.kinds ∧
      skeleton (redactMessages messages) = skeleton messages ∧
      sources (redactMessages messages) =
        (sources messages).map fun source => .text source.redact := by
  rw [redactMessages_eq, redactMessages_eq]
  refine ⟨?_, ?_, ?_, sources_mapSources messages⟩
  · rw [mapSources_mapSources]
    apply mapSources_congr
    intro source member
    exact Source.redact_redact (sized source member)
  · rw [mapSources, List.map_map]
    exact List.map_congr_left fun message _ => ModelMessage.kinds_mapSources message
  · exact mapSources_mapSources messages

/-- A history with a picture, and with a tool's long result. -/
theorem redactMessages_structure_page :
    redactMessages (redactMessages [.request
        [.userPrompt (.items [.text "intro", .binary [137, 80] "image/png"]),
          .toolReturn "read_page" (.text (page 'a'))]]) =
      redactMessages [.request
        [.userPrompt (.items [.text "intro", .binary [137, 80] "image/png"]),
          .toolReturn "read_page" (.text (page 'a'))]] := by
  refine (redactMessages_structure ?_).1
  intro source member
  simp only [sources, ModelMessage.sources, RequestPart.sources, UserPrompt.sources,
    UserContent.sources, Content.source, List.flatMap_cons, List.flatMap_nil, List.append_nil,
    List.cons_append, List.nil_append, List.mem_cons, List.not_mem_nil, or_false] at member
  rcases member with rfl | rfl | rfl
  · show "intro".length ≤ sysMaxsize
    decide
  · exact ⟨by decide, by decide⟩
  · show (page 'a').length ≤ sysMaxsize
    rw [length_page]
    decide

end QuAIA.Common
