import QuAIA.Common.Messages

/-!
Contract: redaction of a message history before it is stored as a debug trace
(`common/trace_redaction.py`).

Owns: the redaction of each part, long texts and their replacement, and what of a
history the redaction hides.

Does not own: serialisation of the redacted history. Parts of provider-side tools
take the branches of system prompts and model texts, and have no case of their own.
-/

set_option autoImplicit false

namespace QuAIA.Common

/-! ## The code -/

/-- `_MAX_TEXT_LENGTH`. -/
def maxTextLength : Nat := 200

/-- `_redact_text`. -/
def redactText (value : String) : String :=
  if value.length ≤ maxTextLength then value
  else "<redacted: " ++ toString value.length ++ " chars>"

/-- `_redact_user_content_item`. -/
def redactUserContentItem : UserContent → UserContent
  | .binary data mediaType =>
      .text ("<redacted: " ++ toString data.length ++ " bytes, " ++ mediaType ++ ">")
  | .text value => .text (redactText value)
  | .other className => .other className

/-- A value of the arguments' dictionary: only a string is looked at. -/
def redactArgument : Content → Content
  | .text value => .text (redactText value)
  | value => value

/-- `_redact_tool_args`. -/
def redactToolArgs : Content → Content
  | .text value => .text (redactText value)
  | .dict entries => .dict (entries.map fun entry => (entry.1, redactArgument entry.2))
  | args => args

def redactUserPrompt : UserPrompt → UserPrompt
  | .text value => .text (redactText value)
  | .items items => .items (items.map redactUserContentItem)

def redactRequestPart : RequestPart → RequestPart
  | .userPrompt content => .userPrompt (redactUserPrompt content)
  -- The branch asks for a string: any other content falls to the last one.
  | .toolReturn toolName (.text value) => .toolReturn toolName (.text (redactText value))
  | part => part

def redactResponsePart : ResponsePart → ResponsePart
  | .toolCall toolName args => .toolCall toolName (redactToolArgs args)
  | part => part

def redactMessage : ModelMessage → ModelMessage
  | .request parts => .request (parts.map redactRequestPart)
  | .response parts => .response (parts.map redactResponsePart)

/-- `redact_messages`. -/
def redactMessages (messages : List ModelMessage) : List ModelMessage :=
  messages.map redactMessage

/-! ## Long texts

`fill` overwrites every long text from outside with one character. Two histories that
are equal after it differ only in long texts of equal lengths. -/

def fillText (filler : Char) (value : String) : String :=
  if value.length ≤ maxTextLength then value
  else String.ofList (List.replicate value.length filler)

mutual

/-- Every long text at any depth of lists and dictionaries. -/
def Content.fill (filler : Char) : Content → Content
  | .text value => .text (fillText filler value)
  | .list items => .list (fillItems filler items)
  | .dict entries => .dict (fillEntries filler entries)
  | .null => .null
  | .bool value => .bool value
  | .number repr => .number repr
  | .binary size mediaType identifier => .binary size mediaType identifier
  | .bytes size => .bytes size
  | .model dump => .model dump
  | .other className => .other className

def fillItems (filler : Char) : List Content → List Content
  | [] => []
  | item :: rest => item.fill filler :: fillItems filler rest

def fillEntries (filler : Char) : List (String × Content) → List (String × Content)
  | [] => []
  | (key, value) :: rest => (key, value.fill filler) :: fillEntries filler rest

end

def UserContent.fill (filler : Char) : UserContent → UserContent
  | .text value => .text (fillText filler value)
  | item => item

def UserPrompt.fill (filler : Char) : UserPrompt → UserPrompt
  | .text value => .text (fillText filler value)
  | .items list => .items (list.map (UserContent.fill filler))

def RequestPart.fill (filler : Char) : RequestPart → RequestPart
  | .userPrompt content => .userPrompt (content.fill filler)
  | .toolReturn toolName content => .toolReturn toolName (content.fill filler)
  | part => part

def ResponsePart.fill (filler : Char) : ResponsePart → ResponsePart
  | .toolCall toolName args => .toolCall toolName (args.fill filler)
  | part => part

def ModelMessage.fill (filler : Char) : ModelMessage → ModelMessage
  | .request parts => .request (parts.map (RequestPart.fill filler))
  | .response parts => .response (parts.map (ResponsePart.fill filler))

/-- The histories differ only in long texts, each replaced by one of its length. -/
def SameUpToLongText (first second : List ModelMessage) : Prop :=
  first.map (ModelMessage.fill ' ') = second.map (ModelMessage.fill ' ')

mutual

/-- No text in the content is long. -/
def Content.short : Content → Bool
  | .text value => decide (value.length ≤ maxTextLength)
  | .list items => shortItems items
  | .dict entries => shortEntries entries
  | _ => true

def shortItems : List Content → Bool
  | [] => true
  | item :: rest => item.short && shortItems rest

def shortEntries : List (String × Content) → Bool
  | [] => true
  | (_, value) :: rest => value.short && shortEntries rest

end

/-! ## What the redaction does not reach -/

/-- The content itself, unless it is a string. -/
def Content.structured : Content → List Content
  | .text _ => []
  | content => [content]

/-- What of a call's arguments is stored as it came: what is below the top level. -/
def argsKept : Content → List Content
  | .dict entries => entries.flatMap fun entry => entry.2.structured
  | args => args.structured

def RequestPart.kept : RequestPart → List Content
  | .toolReturn _ content => content.structured
  | _ => []

def ResponsePart.kept : ResponsePart → List Content
  | .toolCall _ args => argsKept args
  | _ => []

def ModelMessage.kept : ModelMessage → List Content
  | .request parts => parts.flatMap RequestPart.kept
  | .response parts => parts.flatMap ResponsePart.kept

/-- Every structured value of the history that the redaction stores as it came. -/
def keptContents (messages : List ModelMessage) : List Content :=
  messages.flatMap ModelMessage.kept

/-! ## Texts -/

theorem fillText_of_short {value : String} (short : value.length ≤ maxTextLength)
    (filler : Char) : fillText filler value = value := by
  simp [fillText, short]

@[simp] theorem length_fillText (filler : Char) (value : String) :
    (fillText filler value).length = value.length := by
  unfold fillText
  split
  · rfl
  · simp

@[simp] theorem redactText_fillText (filler : Char) (value : String) :
    redactText (fillText filler value) = redactText value := by
  by_cases short : value.length ≤ maxTextLength
  · rw [fillText_of_short short]
  · simp [redactText, short]

@[simp] theorem fillText_fillText (first second : Char) (value : String) :
    fillText second (fillText first value) = fillText second value := by
  by_cases short : value.length ≤ maxTextLength
  · rw [fillText_of_short short]
  · simp only [fillText, short, if_false, String.length_ofList, List.length_replicate]

/-- Equal after filling: the same text, or two long ones of one length. -/
theorem fillText_eq_iff (filler : Char) (first second : String) :
    fillText filler first = fillText filler second ↔
      first = second ∨
        (maxTextLength < first.length ∧ first.length = second.length) := by
  constructor
  · intro equal
    have lengths : first.length = second.length := by
      have counted := congrArg String.length equal
      simpa using counted
    by_cases short : first.length ≤ maxTextLength
    · rw [fillText_of_short short, fillText_of_short (lengths ▸ short)] at equal
      exact .inl equal
    · exact .inr ⟨by omega, lengths⟩
  · rintro (rfl | ⟨long, lengths⟩)
    · rfl
    · simp [fillText, ← lengths, Nat.not_le.mpr long]

theorem short_of_fillText_eq {first second : Char} (distinct : first ≠ second)
    {value : String} (equal : fillText first value = fillText second value) :
    value.length ≤ maxTextLength := by
  by_contra long
  simp only [fillText, long, if_false] at equal
  have lists := congrArg String.toList equal
  simp only [String.toList_ofList] at lists
  have positive : 0 < value.length := by omega
  have heads := congrArg (·[0]?) lists
  simp only [List.getElem?_replicate, positive, if_true, Option.some.injEq] at heads
  exact distinct heads

/-! ## Contents

One induction over the content for each fact, with its lists and dictionaries. -/

mutual

theorem Content.fill_fill (first second : Char) (content : Content) :
    (content.fill first).fill second = content.fill second := by
  cases content with
  | text value => simp [Content.fill]
  | list items => simp [Content.fill, fillItems_fillItems first second items]
  | dict entries => simp [Content.fill, fillEntries_fillEntries first second entries]
  | null | bool | number | binary | bytes | model | other => rfl

theorem fillItems_fillItems (first second : Char) (items : List Content) :
    fillItems second (fillItems first items) = fillItems second items := by
  cases items with
  | nil => rfl
  | cons item rest =>
      simp [fillItems, Content.fill_fill first second item,
        fillItems_fillItems first second rest]

theorem fillEntries_fillEntries (first second : Char)
    (entries : List (String × Content)) :
    fillEntries second (fillEntries first entries) = fillEntries second entries := by
  cases entries with
  | nil => rfl
  | cons entry rest =>
      obtain ⟨key, value⟩ := entry
      simp [fillEntries, Content.fill_fill first second value,
        fillEntries_fillEntries first second rest]

end

mutual

theorem Content.short_fill (filler : Char) (content : Content) :
    (content.fill filler).short = content.short := by
  cases content with
  | text value => simp [Content.fill, Content.short]
  | list items => simpa [Content.fill, Content.short] using shortItems_fillItems filler items
  | dict entries =>
      simpa [Content.fill, Content.short] using shortEntries_fillEntries filler entries
  | null | bool | number | binary | bytes | model | other => rfl

theorem shortItems_fillItems (filler : Char) (items : List Content) :
    shortItems (fillItems filler items) = shortItems items := by
  cases items with
  | nil => rfl
  | cons item rest =>
      simp [fillItems, shortItems, Content.short_fill filler item,
        shortItems_fillItems filler rest]

theorem shortEntries_fillEntries (filler : Char) (entries : List (String × Content)) :
    shortEntries (fillEntries filler entries) = shortEntries entries := by
  cases entries with
  | nil => rfl
  | cons entry rest =>
      obtain ⟨key, value⟩ := entry
      simp [fillEntries, shortEntries, Content.short_fill filler value,
        shortEntries_fillEntries filler rest]

end

mutual

theorem Content.fill_of_short (filler : Char) (content : Content)
    (short : content.short = true) : content.fill filler = content := by
  cases content with
  | text value =>
      simp only [Content.short, decide_eq_true_eq] at short
      simp [Content.fill, fillText_of_short short]
  | list items =>
      have kept := fillItems_of_short filler items (by simpa [Content.short] using short)
      simp [Content.fill, kept]
  | dict entries =>
      have kept := fillEntries_of_short filler entries (by simpa [Content.short] using short)
      simp [Content.fill, kept]
  | null | bool | number | binary | bytes | model | other => rfl

theorem fillItems_of_short (filler : Char) (items : List Content)
    (short : shortItems items = true) : fillItems filler items = items := by
  cases items with
  | nil => rfl
  | cons item rest =>
      simp only [shortItems, Bool.and_eq_true] at short
      simp [fillItems, Content.fill_of_short filler item short.1,
        fillItems_of_short filler rest short.2]

theorem fillEntries_of_short (filler : Char) (entries : List (String × Content))
    (short : shortEntries entries = true) : fillEntries filler entries = entries := by
  cases entries with
  | nil => rfl
  | cons entry rest =>
      obtain ⟨key, value⟩ := entry
      simp only [shortEntries, Bool.and_eq_true] at short
      simp [fillEntries, Content.fill_of_short filler value short.1,
        fillEntries_of_short filler rest short.2]

end

mutual

/-- Two different fillers show every long text. -/
theorem Content.short_of_fill_eq {first second : Char} (distinct : first ≠ second)
    (content : Content)
    (equal : content.fill first = content.fill second) : content.short = true := by
  cases content with
  | text value =>
      have texts : fillText first value = fillText second value := by
        simpa [Content.fill] using equal
      simpa [Content.short] using short_of_fillText_eq distinct texts
  | list items =>
      have lists : fillItems first items = fillItems second items := by
        simpa [Content.fill] using equal
      simpa [Content.short] using shortItems_of_fill_eq distinct items lists
  | dict entries =>
      have lists : fillEntries first entries = fillEntries second entries := by
        simpa [Content.fill] using equal
      simpa [Content.short] using shortEntries_of_fill_eq distinct entries lists
  | null | bool | number | binary | bytes | model | other => rfl

theorem shortItems_of_fill_eq {first second : Char} (distinct : first ≠ second)
    (items : List Content)
    (equal : fillItems first items = fillItems second items) :
    shortItems items = true := by
  cases items with
  | nil => rfl
  | cons item rest =>
      simp only [fillItems, List.cons.injEq] at equal
      simp [shortItems, Content.short_of_fill_eq distinct item equal.1,
        shortItems_of_fill_eq distinct rest equal.2]

theorem shortEntries_of_fill_eq {first second : Char} (distinct : first ≠ second)
    (entries : List (String × Content))
    (equal : fillEntries first entries = fillEntries second entries) :
    shortEntries entries = true := by
  cases entries with
  | nil => rfl
  | cons entry rest =>
      obtain ⟨key, value⟩ := entry
      simp only [fillEntries, List.cons.injEq, Prod.mk.injEq, true_and] at equal
      simp [shortEntries, Content.short_of_fill_eq distinct value equal.1,
        shortEntries_of_fill_eq distinct rest equal.2]

end

theorem fillEntries_eq_map (filler : Char) (entries : List (String × Content)) :
    fillEntries filler entries =
      entries.map fun entry => (entry.1, entry.2.fill filler) := by
  induction entries with
  | nil => rfl
  | cons entry rest inductionHypothesis => simp [fillEntries, inductionHypothesis]

/-! ## What is kept -/

theorem structured_fill (filler : Char) (content : Content) :
    (content.fill filler).structured =
      content.structured.map (Content.fill filler) := by
  cases content <;> simp [Content.fill, Content.structured]

theorem argsKept_fill (filler : Char) (args : Content) :
    argsKept (args.fill filler) = (argsKept args).map (Content.fill filler) := by
  cases args with
  | dict entries =>
      simp [Content.fill, argsKept, fillEntries_eq_map, List.map_flatMap,
        List.flatMap_map, structured_fill]
  | text | null | bool | number | list | binary | bytes | model | other =>
      simp [Content.fill, argsKept, Content.structured]

theorem RequestPart.kept_fill (filler : Char) (part : RequestPart) :
    (part.fill filler).kept = part.kept.map (Content.fill filler) := by
  cases part with
  | toolReturn toolName content => exact structured_fill filler content
  | systemPrompt | userPrompt | retryPrompt => rfl

theorem ResponsePart.kept_fill (filler : Char) (part : ResponsePart) :
    (part.fill filler).kept = part.kept.map (Content.fill filler) := by
  cases part with
  | toolCall toolName args => exact argsKept_fill filler args
  | text | thinking => rfl

theorem ModelMessage.kept_fill (filler : Char) (message : ModelMessage) :
    (message.fill filler).kept = message.kept.map (Content.fill filler) := by
  cases message with
  | request parts =>
      simp [ModelMessage.fill, ModelMessage.kept, List.flatMap_map, List.map_flatMap,
        RequestPart.kept_fill]
  | response parts =>
      simp [ModelMessage.fill, ModelMessage.kept, List.flatMap_map, List.map_flatMap,
        ResponsePart.kept_fill]

theorem keptContents_fill (filler : Char) (messages : List ModelMessage) :
    keptContents (messages.map (ModelMessage.fill filler)) =
      (keptContents messages).map (Content.fill filler) := by
  simp [keptContents, List.flatMap_map, List.map_flatMap, ModelMessage.kept_fill]

/-- What the redaction keeps can be read off its result. -/
theorem structured_redactArgument (value : Content) :
    (redactArgument value).structured = value.structured := by
  cases value <;> rfl

theorem argsKept_redactToolArgs (args : Content) :
    argsKept (redactToolArgs args) = argsKept args := by
  cases args with
  | dict entries =>
      simp [redactToolArgs, argsKept, List.flatMap_map, structured_redactArgument]
  | text | null | bool | number | list | binary | bytes | model | other => rfl

theorem kept_redactRequestPart (part : RequestPart) :
    (redactRequestPart part).kept = part.kept := by
  cases part with
  | toolReturn toolName content => cases content <;> rfl
  | systemPrompt | userPrompt | retryPrompt => rfl

theorem kept_redactResponsePart (part : ResponsePart) :
    (redactResponsePart part).kept = part.kept := by
  cases part with
  | toolCall toolName args => exact argsKept_redactToolArgs args
  | text | thinking => rfl

theorem kept_redactMessage (message : ModelMessage) :
    (redactMessage message).kept = message.kept := by
  cases message with
  | request parts =>
      simp [redactMessage, ModelMessage.kept, List.flatMap_map, kept_redactRequestPart]
  | response parts =>
      simp [redactMessage, ModelMessage.kept, List.flatMap_map, kept_redactResponsePart]

theorem keptContents_redactMessages (messages : List ModelMessage) :
    keptContents (redactMessages messages) = keptContents messages := by
  simp [keptContents, redactMessages, List.flatMap_map, kept_redactMessage]

/-! ## What is hidden

Where nothing kept is long, the redaction does not see the filling. -/

theorem redactUserPrompt_fill (filler : Char) (content : UserPrompt) :
    redactUserPrompt (content.fill filler) = redactUserPrompt content := by
  cases content with
  | text value => simp [UserPrompt.fill, redactUserPrompt]
  | items list =>
      simp only [UserPrompt.fill, redactUserPrompt, List.map_map, UserPrompt.items.injEq]
      apply List.map_congr_left
      intro item _
      cases item with
      | text value => simp [UserContent.fill, redactUserContentItem]
      | binary data mediaType => rfl
      | other className => rfl

theorem redactArgument_fill {value : Content} (filler : Char)
    (short : ∀ content ∈ value.structured, content.short = true) :
    redactArgument (value.fill filler) = redactArgument value := by
  cases value with
  | text value => simp [Content.fill, redactArgument]
  | null | bool | number | list | dict | binary | bytes | model | other =>
      rw [Content.fill_of_short filler _ (short _ (by simp [Content.structured]))]

theorem redactToolArgs_fill {args : Content} (filler : Char)
    (short : ∀ content ∈ argsKept args, content.short = true) :
    redactToolArgs (args.fill filler) = redactToolArgs args := by
  cases args with
  | text value => simp [Content.fill, redactToolArgs]
  | dict entries =>
      simp only [Content.fill, fillEntries_eq_map, redactToolArgs, List.map_map,
        Content.dict.injEq]
      apply List.map_congr_left
      intro entry member
      have entryShort : ∀ content ∈ entry.2.structured, content.short = true := by
        intro content inside
        exact short content (List.mem_flatMap.mpr ⟨entry, member, inside⟩)
      simp [redactArgument_fill filler entryShort]
  | null | bool | number | list | binary | bytes | model | other =>
      rw [Content.fill_of_short filler _ (short _ (by simp [argsKept, Content.structured]))]

theorem redactRequestPart_fill {part : RequestPart} (filler : Char)
    (short : ∀ content ∈ part.kept, content.short = true) :
    redactRequestPart (part.fill filler) = redactRequestPart part := by
  cases part with
  | userPrompt content => simp [RequestPart.fill, redactRequestPart, redactUserPrompt_fill]
  | toolReturn toolName content =>
      cases content with
      | text value => simp [RequestPart.fill, Content.fill, redactRequestPart]
      | null | bool | number | list | dict | binary | bytes | model | other =>
          simp only [RequestPart.fill]
          rw [Content.fill_of_short filler _
            (short _ (by simp [RequestPart.kept, Content.structured]))]
  | systemPrompt | retryPrompt => rfl

theorem redactResponsePart_fill {part : ResponsePart} (filler : Char)
    (short : ∀ content ∈ part.kept, content.short = true) :
    redactResponsePart (part.fill filler) = redactResponsePart part := by
  cases part with
  | toolCall toolName args =>
      simp [ResponsePart.fill, redactResponsePart, redactToolArgs_fill filler short]
  | text | thinking => rfl

theorem redactMessage_fill {message : ModelMessage} (filler : Char)
    (short : ∀ content ∈ message.kept, content.short = true) :
    redactMessage (message.fill filler) = redactMessage message := by
  cases message with
  | request parts =>
      simp only [ModelMessage.fill, redactMessage, List.map_map, ModelMessage.request.injEq]
      apply List.map_congr_left
      intro part member
      apply redactRequestPart_fill filler
      intro content inside
      exact short content (List.mem_flatMap.mpr ⟨part, member, inside⟩)
  | response parts =>
      simp only [ModelMessage.fill, redactMessage, List.map_map, ModelMessage.response.injEq]
      apply List.map_congr_left
      intro part member
      apply redactResponsePart_fill filler
      intro content inside
      exact short content (List.mem_flatMap.mpr ⟨part, member, inside⟩)

theorem redactMessages_fill {messages : List ModelMessage} (filler : Char)
    (short : ∀ content ∈ keptContents messages, content.short = true) :
    redactMessages (messages.map (ModelMessage.fill filler)) =
      redactMessages messages := by
  simp only [redactMessages, List.map_map]
  apply List.map_congr_left
  intro message member
  apply redactMessage_fill filler
  intro content inside
  exact short content (List.mem_flatMap.mpr ⟨message, member, inside⟩)

/-! ## Noninterference -/

theorem ModelMessage.fill_fill (first second : Char) (message : ModelMessage) :
    (message.fill first).fill second = message.fill second := by
  cases message with
  | request parts =>
      simp only [ModelMessage.fill, List.map_map, ModelMessage.request.injEq]
      apply List.map_congr_left
      intro part _
      cases part with
      | userPrompt content =>
          cases content with
          | text value => simp [RequestPart.fill, UserPrompt.fill]
          | items list =>
              simp only [Function.comp, RequestPart.fill, UserPrompt.fill, List.map_map,
                RequestPart.userPrompt.injEq, UserPrompt.items.injEq]
              apply List.map_congr_left
              intro item _
              cases item <;> simp [UserContent.fill]
      | toolReturn toolName content => simp [RequestPart.fill, Content.fill_fill]
      | systemPrompt | retryPrompt => rfl
  | response parts =>
      simp only [ModelMessage.fill, List.map_map, ModelMessage.response.injEq]
      apply List.map_congr_left
      intro part _
      cases part with
      | toolCall toolName args => simp [ResponsePart.fill, Content.fill_fill]
      | text | thinking => rfl

theorem sameUpToLongText_fill (filler : Char) (messages : List ModelMessage) :
    SameUpToLongText messages (messages.map (ModelMessage.fill filler)) := by
  simp [SameUpToLongText, ModelMessage.fill_fill]

/-- Histories that differ only in long texts keep contents that are alike. -/
theorem SameUpToLongText.keptShort {first second : List ModelMessage}
    (same : SameUpToLongText first second)
    (short : ∀ content ∈ keptContents first, content.short = true) :
    ∀ content ∈ keptContents second, content.short = true := by
  have filled : (keptContents first).map (Content.fill ' ') =
      (keptContents second).map (Content.fill ' ') := by
    rw [← keptContents_fill, ← keptContents_fill, same]
  intro content member
  have inside : content.fill ' ' ∈ (keptContents first).map (Content.fill ' ') :=
    filled ▸ List.mem_map_of_mem member
  obtain ⟨source, sourceMember, equal⟩ := List.mem_map.mp inside
  have sourceShort := short source sourceMember
  rwa [← Content.short_fill ' ', equal, Content.short_fill] at sourceShort

/-- The redaction of a history is the same for all that differ from it only in long
texts exactly if no structured tool result, and no value below the top level of a
call's arguments, holds a long text. -/
theorem redactMessages_noninterference_iff (messages : List ModelMessage) :
    (∀ other, SameUpToLongText messages other →
        redactMessages messages = redactMessages other) ↔
      ∀ content ∈ keptContents messages, content.short = true := by
  constructor
  · intro noninterference content member
    have first := noninterference _ (sameUpToLongText_fill 'x' messages)
    have second := noninterference _ (sameUpToLongText_fill 'y' messages)
    have keptEqual := congrArg keptContents (first.symm.trans second)
    rw [keptContents_redactMessages, keptContents_redactMessages, keptContents_fill,
      keptContents_fill] at keptEqual
    have fillsEqual := List.map_inj_left.mp keptEqual content member
    exact Content.short_of_fill_eq (by decide) content fillsEqual
  · intro short other same
    have otherShort := same.keptShort short
    calc redactMessages messages
        = redactMessages (messages.map (ModelMessage.fill ' ')) :=
          (redactMessages_fill ' ' short).symm
      _ = redactMessages (other.map (ModelMessage.fill ' ')) := by rw [same]
      _ = redactMessages other := redactMessages_fill ' ' otherShort

/-- A page of 201 characters. -/
def page (letter : Char) : String := String.ofList (List.replicate 201 letter)

theorem length_page (letter : Char) : (page letter).length = 201 := by
  rw [page, String.length_ofList, List.length_replicate]

theorem page_ne : page 'a' ≠ page 'b' := by
  intro equal
  have lists := String.ofList_injective equal
  rw [List.replicate_inj] at lists
  exact absurd lists (by decide)

/-- The page as an entry of the dictionary that a tool returns. -/
def pageResult (body : String) : List ModelMessage :=
  [.request [.toolReturn "read_page" (.dict [("body", .text body)])]]

/-- The text of the page is in the redacted history. -/
theorem redactMessages_interference :
    ¬ ∀ first second, SameUpToLongText first second →
      redactMessages first = redactMessages second := by
  intro noninterference
  have filled : fillText ' ' (page 'a') = fillText ' ' (page 'b') := by
    rw [fillText_eq_iff, length_page, length_page]
    exact .inr ⟨by decide, rfl⟩
  have same : SameUpToLongText (pageResult (page 'a')) (pageResult (page 'b')) := by
    simp [SameUpToLongText, pageResult, ModelMessage.fill, RequestPart.fill, Content.fill,
      fillEntries, filled]
  have equal := noninterference _ _ same
  simp only [redactMessages, pageResult, redactMessage, redactRequestPart, List.map_cons,
    List.map_nil, List.cons.injEq, ModelMessage.request.injEq, RequestPart.toolReturn.injEq,
    Content.dict.injEq, Prod.mk.injEq, Content.text.injEq, true_and, and_true] at equal
  exact page_ne equal

end QuAIA.Common
