import QuAIA.Common.ModelDump
import QuAIA.Library.Brackets

/-!
Contract: the message by which the orchestrator asks for a review of test cases, and
how the review agent takes the test cases out of it.

Owns: the message of `_request_test_cases_review`, the scan of
`_parse_test_cases_from_text`, and the condition under which the scan finds the
test cases that were sent.

Does not own: `model_validate`, a parameter of which only the round trip of dumps
is used. An exception of `json.loads` or of the validation is caught and skips the
group; the interpreter's limit on nesting is not modelled.
-/

set_option autoImplicit false

namespace QuAIA.Agents

open QuAIA.Common
open QuAIA.Library

/-! ## The message -/

/-- `{'test_cases': [tc.model_dump() for tc in test_cases]}`. -/
def requestJson (testCases : List TestCase) : Json :=
  .object [(Json.pointsOf "test_cases", .array (testCases.map TestCase.modelDump))]

def encoded (testCases : List TestCase) : List Char := Json.dumps (requestJson testCases)

/-- The message of `_request_test_cases_review`. -/
def reviewMessage (docContent : String) (testCases : List TestCase) : String :=
  "Requirement document content:\n" ++ docContent ++ "\n\n" ++
    "Test cases:\n" ++ String.ofList (encoded testCases)

/-! ## The scan -/

/-- The inner loop: the text up to the brace that closes the first one, and the rest. -/
def closeBrace : Nat → List Char → Option (List Char × List Char)
  | _, [] => none
  | depth, character :: rest =>
      let continued (depth : Nat) := (closeBrace depth rest).map fun parts =>
        (character :: parts.1, parts.2)
      if character = '{' then continued (depth + 1)
      else if character = '}' then
        if depth = 1 then some ([character], rest) else continued (depth - 1)
      else continued depth

/-- The body of the `try`. -/
def decodeRequest (modelValidate : Json → Option (List TestCase)) (group : List Char) :
    Option (List TestCase) :=
  match Json.loads group with
  | some data =>
      if data.hasKey (Json.pointsOf "test_cases") then modelValidate data else none
  | none => none

/-- The outer loop, over the text from `pos` on. Every pass takes a character, so the
length is fuel enough. -/
def scanRequests (modelValidate : Json → Option (List TestCase)) :
    Nat → List Char → Option (List TestCase)
  | 0, _ => none
  | fuel + 1, text =>
      match text.dropWhile (· != '{') with
      | [] => none
      | start =>
          match closeBrace 0 start with
          | none => none
          | some (group, rest) =>
              match decodeRequest modelValidate group with
              | some testCases => some testCases
              | none => scanRequests modelValidate fuel rest

/-- `_parse_test_cases_from_text`. -/
def parseTestCasesFromText (modelValidate : Json → Option (List TestCase)) (text : String) :
    List TestCase :=
  (scanRequests modelValidate text.toList.length text.toList).getD []

/-! ## The scan takes the outermost groups in order -/

variable {modelValidate : Json → Option (List TestCase)}

theorem closeBrace_eq_cut {depth : Nat} (positive : depth ≠ 0) (text : List Char) :
    closeBrace depth text = Brackets.cut '{' '}' depth text := by
  induction text generalizing depth with
  | nil => rfl
  | cons character rest inductionHypothesis =>
      unfold closeBrace Brackets.cut Brackets.depthStep
      by_cases isOpening : character = '{'
      · simp [isOpening, inductionHypothesis (Nat.succ_ne_zero depth)]
      by_cases isClosing : character = '}'
      · by_cases last : depth = 1
        · simp [isClosing, last]
        · have stillOpen : depth - 1 ≠ 0 := by omega
          simp [isClosing, last, stillOpen, inductionHypothesis stillOpen]
      · simp [isOpening, isClosing, positive, inductionHypothesis positive]

theorem closeBrace_opening (rest : List Char) :
    closeBrace 0 ('{' :: rest) = Brackets.cut '{' '}' 0 ('{' :: rest) := by
  rw [Brackets.cut_opening, ← closeBrace_eq_cut (by simp)]
  rfl

/-- `text.find("{", pos)`: what comes before the brace has none. -/
theorem find_brace (text : List Char) :
    ('{' ∉ text ∧ text.dropWhile (· != '{') = []) ∨
      ∃ before rest, text = before ++ '{' :: rest ∧ '{' ∉ before ∧
        text.dropWhile (· != '{') = '{' :: rest := by
  induction text with
  | nil => exact .inl ⟨by simp, rfl⟩
  | cons character others inductionHypothesis =>
      by_cases isBrace : character = '{'
      · subst isBrace
        exact .inr ⟨[], others, rfl, by simp, rfl⟩
      · have dropped : (character :: others).dropWhile (· != '{') =
            others.dropWhile (· != '{') := by
          simp [isBrace]
        rw [dropped]
        rcases inductionHypothesis with ⟨absent, missing⟩ | ⟨before, rest, rfl, absent, found⟩
        · exact .inl ⟨by simp [Ne.symm isBrace, absent], missing⟩
        · exact .inr ⟨character :: before, rest, rfl, by simp [Ne.symm isBrace, absent], found⟩

theorem scanRequests_eq {fuel : Nat} {text : List Char} (enough : text.length ≤ fuel) :
    scanRequests modelValidate fuel text =
      (Brackets.groups '{' '}' text).findSome? (decodeRequest modelValidate) := by
  induction fuel generalizing text with
  | zero =>
      have empty : text = [] := List.length_eq_zero_iff.mp (by omega)
      rw [empty]
      rfl
  | succ fuel inductionHypothesis =>
      unfold scanRequests
      rcases find_brace text with ⟨absent, missing⟩ | ⟨before, rest, rfl, absent, found⟩
      · have noGroups : Brackets.groups '{' '}' (text ++ []) = [] :=
          Brackets.groups_skip absent []
        rw [List.append_nil] at noGroups
        rw [missing, noGroups]
        rfl
      · rw [found, Brackets.groups_skip absent, Brackets.groups_opening]
        simp only [closeBrace_opening]
        cases parts : Brackets.cut '{' '}' 0 ('{' :: rest) with
        | none => rfl
        | some pair =>
            obtain ⟨group, remaining⟩ := pair
            have joined := congrArg List.length (Brackets.cut_append parts)
            have nonempty := List.length_pos_of_ne_nil (Brackets.cut_eq_some parts).1
            simp only [List.length_append, List.length_cons] at joined enough
            have remainingEnough : remaining.length ≤ fuel := by omega
            have shorter := inductionHypothesis remainingEnough
            cases decoded : decodeRequest modelValidate group with
            | none => simp [decoded, shorter]
            | some testCases => simp [decoded]

/-- What the text asks to review: the first of its groups that is a request. -/
def firstRequest (modelValidate : Json → Option (List TestCase)) (text : List Char) :
    Option (List TestCase) :=
  (Brackets.groups '{' '}' text).findSome? (decodeRequest modelValidate)

theorem parseTestCases_eq (text : String) :
    parseTestCasesFromText modelValidate text =
      (firstRequest modelValidate text.toList).getD [] := by
  unfold parseTestCasesFromText firstRequest
  rw [scanRequests_eq (Nat.le_refl _)]

/-! ## The encoded test cases -/

def separator : List Char := "\n\nTest cases:\n".toList

def encodedCases (testCases : List TestCase) : Json := .array (testCases.map TestCase.modelDump)

/-- The text of the request up to the value of its only field. -/
def encodedName : List Char :=
  '{' :: (Json.quote (Json.pointsOf "test_cases") ++ [':', ' '])

theorem reviewMessage_toList (docContent : String) (testCases : List TestCase) :
    (reviewMessage docContent testCases).toList =
      "Requirement document content:\n".toList ++
        (docContent.toList ++ (separator ++ encoded testCases)) := by
  have joined : separator = "\n\n".toList ++ "Test cases:\n".toList := by decide
  have back : (String.ofList (encoded testCases)).toList = encoded testCases :=
    String.toList_ofList
  unfold reviewMessage
  rw [joined, String.toList_append, String.toList_append, String.toList_append,
    String.toList_append, back]
  simp only [List.append_assoc]

theorem writable_encodedCases (testCases : List TestCase) :
    Json.Writable (encodedCases testCases) := by
  apply Json.Writable.array
  intro item member
  obtain ⟨testCase, _, rfl⟩ := List.mem_map.mp member
  exact testCase.writable_modelDump

theorem encoded_eq (testCases : List TestCase) :
    encoded testCases = encodedName ++ (Json.dumps (encodedCases testCases) ++ ['}']) := by
  simp [encoded, requestJson, encodedCases, Json.dumps, Json.dumpsFields, encodedName]

theorem loads_encoded (testCases : List TestCase) :
    Json.loads (encoded testCases) = some (requestJson testCases) := by
  apply Json.loads_dumps
  apply Json.Writable.object
  · intro field member
    cases List.mem_singleton.mp member
    exact pointsOf_valid "test_cases"
  · intro field member
    cases List.mem_singleton.mp member
    exact writable_encodedCases testCases

theorem decodeRequest_encoded {testCases : List TestCase}
    (roundTrip : modelValidate (requestJson testCases) = some testCases) :
    decodeRequest modelValidate (encoded testCases) = some testCases := by
  have keyed : (requestJson testCases).hasKey (Json.pointsOf "test_cases") = true := by
    simp [requestJson, Json.hasKey]
  unfold decodeRequest
  rw [loads_encoded]
  simp only [keyed, if_true, roundTrip]

theorem encoded_last (testCases : List TestCase) : ∃ start, encoded testCases = start ++ ['}'] := by
  rw [encoded_eq, ← List.append_assoc]
  exact ⟨_, rfl⟩

/-! ## Groups that are no request -/

theorem decodeRequest_of_loads {group : List Char} (unread : Json.loads group = none) :
    decodeRequest modelValidate group = none := by
  simp [decodeRequest, unread]

/-- A group that the separator stands in. -/
theorem decodeRequest_separator (modelValidate : Json → Option (List TestCase))
    (first rest : List Char) :
    decodeRequest modelValidate (first ++ (separator ++ rest)) = none := by
  apply decodeRequest_of_loads
  have noToken : Json.betweenStep 'T' = none := by decide
  have shape : separator = '\n' :: '\n' :: 'T' :: "est cases:\n".toList := by decide
  have unread := Json.loads_newline noToken (first ++ ['\n']) ("est cases:\n".toList ++ rest)
  rw [List.append_assoc] at unread
  rw [shape]
  exact unread

theorem test_cases_not_gap : ¬Json.OfGaps (Json.pointsOf "test_cases") := by
  intro gaps
  obtain ⟨character, isUnderscore, gap⟩ := gaps 95 (by decide)
  have same : character = '_' := by
    rw [← Char.ofNat_toNat character, isUnderscore]
  exact absurd (same ▸ gap) (by decide)

theorem test_cases_not_name {testCases : List TestCase} :
    Json.pointsOf "test_cases" ∉ Json.allNames (encodedCases testCases) := by
  intro member
  obtain ⟨item, inItems, named⟩ := Json.mem_allNamesOfItems member
  obtain ⟨testCase, _, rfl⟩ := List.mem_map.mp inItems
  obtain ⟨field, inFields, same⟩ := testCase.mem_fieldNames named
  have different : ∀ field ∈ TestCase.fieldNames ++ TestStep.fieldNames,
      Json.pointsOf field ≠ Json.pointsOf "test_cases" := by decide
  exact different field inFields same

/-- A group behind the first closing brace of the encoded test cases. -/
theorem decodeRequest_behind {testCases : List TestCase} {start rest group : List Char}
    (cut : encoded testCases = start ++ ['}'] ++ rest)
    (member : group ∈ Brackets.groups '{' '}' rest) :
    decodeRequest modelValidate group = none := by
  obtain ⟨before, body, behind, rfl, rfl⟩ := Brackets.mem_groups member
  have noBrace : '}' ∉ encodedName := by decide
  rw [encoded_eq] at cut
  rcases List.append_eq_append_iff.mp cut with ⟨middle, early, later⟩ | ⟨middle, early, later⟩
  · have inside : Json.dumps (encodedCases testCases) ++ ['}'] =
        (middle ++ before) ++ ('{' :: body ++ ['}'] ++ behind) :=
      later.trans (List.append_assoc middle before _).symm
    cases loaded : Json.loads ('{' :: body ++ ['}']) with
    | none => exact decodeRequest_of_loads loaded
    | some data =>
        cases keyed : data.hasKey (Json.pointsOf "test_cases") with
        | false =>
            unfold decodeRequest
            simp only [loaded, keyed, Bool.false_eq_true, if_false]
        | true =>
            have named := Json.name_of_fragment (writable_encodedCases testCases) inside loaded
              keyed test_cases_not_gap
            exact absurd named test_cases_not_name
  · have brace : '}' ∈ encodedName := by
      rw [early]
      simp
    exact absurd brace noBrace

/-! ## When the test cases are found -/

theorem encoded_opening (testCases : List TestCase) :
    ∃ rest, encoded testCases = '{' :: rest := by
  rw [encoded_eq]
  exact ⟨_, rfl⟩

/-- What follows a cut of the encoded test cases ends with a brace as well. -/
theorem rest_last {testCases : List TestCase} {first rest : List Char}
    (joined : encoded testCases = first ++ rest) (further : rest ≠ []) :
    ∃ start, rest = start ++ ['}'] := by
  obtain ⟨whole, isWhole⟩ := encoded_last testCases
  have last := congrArg List.getLast? (isWhole.symm.trans joined)
  rw [List.getLast?_append_of_ne_nil _ further, List.getLast?_concat,
    List.getLast?_eq_some_getLast further] at last
  have final := Option.some.inj last
  exact ⟨rest.dropLast, by rw [final, List.dropLast_append_getLast further]⟩

/-- A part of the encoded test cases up to an earlier brace is no request. -/
theorem decodeRequest_part (modelValidate : Json → Option (List TestCase))
    {testCases : List TestCase} {start rest : List Char}
    (joined : encoded testCases = start ++ ['}'] ++ rest) (further : rest ≠ []) :
    decodeRequest modelValidate (start ++ ['}']) = none := by
  apply decodeRequest_of_loads
  obtain ⟨more, rfl⟩ := rest_last joined further
  have read := loads_encoded testCases
  rw [joined] at read
  exact Json.loads_eq_none_of_longer read

theorem findSome_behind (modelValidate : Json → Option (List TestCase))
    {testCases : List TestCase} {start rest : List Char}
    (joined : encoded testCases = start ++ ['}'] ++ rest) :
    (Brackets.groups '{' '}' rest).findSome? (decodeRequest modelValidate) = none := by
  apply List.findSome?_eq_none_iff.mpr
  intro group member
  exact decodeRequest_behind joined member

theorem firstRequest_encoded {testCases : List TestCase}
    (roundTrip : modelValidate (requestJson testCases) = some testCases)
    (closes : Brackets.ClosesAtEnd '{' '}' (encoded testCases)) :
    firstRequest modelValidate (encoded testCases) = some testCases := by
  have parts := Brackets.closesAtEnd_iff.mp closes
  have decoded := decodeRequest_encoded roundTrip
  obtain ⟨rest, opens⟩ := encoded_opening testCases
  unfold firstRequest
  rw [opens] at parts decoded ⊢
  rw [Brackets.groups_opening, parts]
  simp [decoded]

theorem firstRequest_encoded_eq_none {testCases : List TestCase}
    (early : ¬Brackets.ClosesAtEnd '{' '}' (encoded testCases)) :
    firstRequest modelValidate (encoded testCases) = none := by
  rw [Brackets.closesAtEnd_iff] at early
  obtain ⟨inner, opens⟩ := encoded_opening testCases
  unfold firstRequest
  rw [opens, Brackets.groups_opening, ← opens]
  cases parts : Brackets.cut '{' '}' 0 (encoded testCases) with
  | none => rfl
  | some pair =>
      obtain ⟨first, rest⟩ := pair
      have joined := Brackets.cut_append parts
      have further : rest ≠ [] := by
        rintro rfl
        rw [List.append_nil] at joined
        exact early (joined ▸ parts)
      obtain ⟨start, rfl⟩ := Brackets.cut_opening_last (opens ▸ parts)
      have unread := decodeRequest_part modelValidate joined further
      have others := findSome_behind modelValidate joined
      simp only [List.findSome?_cons, unread, others]

/-- With a brace of the document still open, the next group holds the separator. -/
theorem findSome_open {depth : Nat} (stillOpen : depth ≠ 0) (current : List Char)
    (testCases : List TestCase) :
    (Brackets.groupsFrom '{' '}' depth current (separator ++ encoded testCases)).findSome?
      (decodeRequest modelValidate) = none := by
  have noOpening : '{' ∉ separator := by decide
  have noClosing : '}' ∉ separator := by decide
  rw [Brackets.groupsFrom_cut stillOpen, Brackets.cut_plain stillOpen noOpening noClosing]
  cases parts : Brackets.cut '{' '}' depth (encoded testCases) with
  | none => rfl
  | some pair =>
      obtain ⟨first, rest⟩ := pair
      have joined := Brackets.cut_append parts
      obtain ⟨start, rfl⟩ := Brackets.cut_last stillOpen parts
      have unread := decodeRequest_separator modelValidate current
        (start ++ ['}'])
      have others := findSome_behind modelValidate joined
      simp only [Option.map_some, List.findSome?_cons, unread, others]

/-- A request in the document comes first. Otherwise the test cases are looked for
behind what the document leaves open. -/
theorem firstRequest_message (docContent : String) (testCases : List TestCase) :
    firstRequest modelValidate (reviewMessage docContent testCases).toList =
      (firstRequest modelValidate docContent.toList).or
        ((Brackets.groupsFrom '{' '}' (Brackets.depthAfter '{' '}' 0 docContent.toList)
          (Brackets.openPart '{' '}' 0 [] docContent.toList)
          (separator ++ encoded testCases)).findSome? (decodeRequest modelValidate)) := by
  have noOpening : '{' ∉ "Requirement document content:\n".toList := by decide
  unfold firstRequest
  rw [reviewMessage_toList, Brackets.groups_skip noOpening]
  unfold Brackets.groups
  rw [Brackets.groupsFrom_append, List.findSome?_append]

theorem firstRequest_closed {docContent : String} (testCases : List TestCase)
    (closed : Brackets.depthAfter '{' '}' 0 docContent.toList = 0) :
    firstRequest modelValidate (reviewMessage docContent testCases).toList =
      (firstRequest modelValidate docContent.toList).or
        (firstRequest modelValidate (encoded testCases)) := by
  have noOpening : '{' ∉ separator := by decide
  have nothingOpen := Brackets.openPart_eq_nil (fun _ => rfl) closed
  have skipped : Brackets.groupsFrom '{' '}' 0 [] (separator ++ encoded testCases) =
      Brackets.groups '{' '}' (encoded testCases) := Brackets.groups_skip noOpening _
  rw [firstRequest_message, closed, nothingOpen, skipped]
  rfl

/-- The test cases that were sent are found exactly when the document itself first
asks for them, or asks for nothing, leaves no brace open, and no brace in a text of a
test case closes the encoded request early or keeps it open. -/
theorem parse_message_iff
    (modelValidate : Json → Option (List TestCase))
    (roundTrip : ∀ testCases, modelValidate (requestJson testCases) = some testCases)
    (docContent : String) (testCases : List TestCase) (nonempty : testCases ≠ []) :
    parseTestCasesFromText modelValidate (reviewMessage docContent testCases) = testCases ↔
      firstRequest modelValidate docContent.toList = some testCases ∨
        (firstRequest modelValidate docContent.toList = none ∧
          Brackets.depthAfter '{' '}' 0 docContent.toList = 0 ∧
          Brackets.ClosesAtEnd '{' '}' (encoded testCases)) := by
  rw [parseTestCases_eq]
  cases asked : firstRequest modelValidate docContent.toList with
  | some found =>
      rw [firstRequest_message, asked]
      simp
  | none =>
      by_cases closed : Brackets.depthAfter '{' '}' 0 docContent.toList = 0
      · rw [firstRequest_closed testCases closed, asked, Option.none_or]
        by_cases closes : Brackets.ClosesAtEnd '{' '}' (encoded testCases)
        · rw [firstRequest_encoded (roundTrip testCases) closes]
          simp [closed, closes]
        · rw [firstRequest_encoded_eq_none closes]
          simp [closes, Ne.symm nonempty]
      · rw [firstRequest_message, asked, Option.none_or, findSome_open closed]
        simp [closed, Ne.symm nonempty]

/-- `TestCaseReviewRequest.model_validate`, as far as dumps need it. -/
def validateRequest (data : Json) : Option (List TestCase) :=
  ((data.field? (Json.pointsOf "test_cases")).bind Json.items?).bind
    (List.mapM TestCase.modelValidate)

theorem validateRequest_requestJson (testCases : List TestCase) :
    validateRequest (requestJson testCases) = some testCases := by
  have found : (requestJson testCases).field? (Json.pointsOf "test_cases") =
      some (encodedCases testCases) := rfl
  have items : (encodedCases testCases).items? = some (testCases.map TestCase.modelDump) := rfl
  have each := mapM_map TestCase.modelValidate_modelDump testCases
  simp only [validateRequest, found, items, Option.bind_some, each]

/-- A document with braces in pairs. -/
theorem parse_message_pairs :
    parseTestCasesFromText validateRequest
      (reviewMessage "getUser(\x7bid: 1\x7d)" [TestCase.named "TC-1"]) = [TestCase.named "TC-1"] :=
  (parse_message_iff validateRequest validateRequest_requestJson "getUser(\x7bid: 1\x7d)"
    [TestCase.named "TC-1"] (by simp)).mpr
    (.inr ⟨by decide +kernel, by decide +kernel,
      Brackets.closesAtEnd_iff.mpr (by decide +kernel)⟩)

/-- A document that is one opening brace. -/
theorem test_cases_lost :
    (∀ testCases, validateRequest (requestJson testCases) = some testCases) ∧
      parseTestCasesFromText validateRequest (reviewMessage "\x7b" [TestCase.named "TC-1"]) ≠
        [TestCase.named "TC-1"] := by
  have asked : firstRequest validateRequest "\x7b".toList = none := by decide
  have stillOpen : Brackets.depthAfter '{' '}' 0 "\x7b".toList ≠ 0 := by decide
  refine ⟨validateRequest_requestJson, ?_⟩
  rw [parseTestCases_eq, firstRequest_message, asked, findSome_open stillOpen]
  simp

end QuAIA.Agents
