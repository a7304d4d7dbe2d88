import QuAIA.Library.Json.Walking
import QuAIA.Orchestrator.ReviewGuard

/-!
Contract: the endpoint that asks for a requirements review (`trigger_requirement_review`).

Owns: what is taken from the body of a request, the answer and the job that is queued; and on
which bodies the endpoint answers at all.

Does not own: the run of a review. After the body is read a request is not suspended: the lock
of the guard is never held by another one, and the queue has no limit.

Nesting has no limit here, where the interpreter's stack has one.
-/

set_option autoImplicit false

namespace QuAIA.Orchestrator

open QuAIA.Library
open QuAIA.Library.Fallible

/-! ## The code -/

/-- Python's `str` of the values that a body can hold. A text with a lone surrogate, which is no
`String`, is represented by some other one. -/
structure PythonStr where
  text : Json → String
  text_ofString : ∀ characters, text (.ofString characters) = characters
  text_ne_empty : ∀ value : Json, value.truthy = true → text value ≠ ""

/-- The work item, its project and the link to its document. -/
structure RequirementReviewRef where
  workItemId : String
  projectKey : Json
  feishuDoc : String

/-- The part of the orchestrator that the endpoint reads and writes. A job is either a review
or one that another endpoint has queued. -/
structure ReviewEndpoint (Job : Type) where
  requirementReviewGuard : RequirementReviewGuard
  pipelineQueue : List (RequirementReviewRef ⊕ Job)

/-- One turn of the inner loop, which a link ends. -/
def linkOfField (str : PythonStr) (formField : Json) : Except Json.Misuse (Option String) := do
  if (← formField.get "field_type_key").isText "link" then
    let fieldValue ← formField.get "field_value"
    return if fieldValue.truthy then some (str.text fieldValue) else none
  else return none

/-- One turn of the outer loop, which a document ends. -/
def linkOfNode (str : PythonStr) (node : Json) : Except Json.Misuse (Option String) := do
  let feishuDoc := (← Json.search (linkOfField str) (← node.get "node_form")).getD ""
  return if feishuDoc ≠ "" then some feishuDoc else none

def extractRequirementReviewRef (str : PythonStr) (meegoProjectKey : String) (body : Json) :
    Except Json.Misuse RequirementReviewRef := do
  let payload := (← body.get "payload").or body
  let workItemId := str.text ((← payload.get "id").or (.ofString ""))
  let projectKey := (← payload.get "project_simple_name").or (.ofString meegoProjectKey)
  let feishuDoc := (← Json.search (linkOfNode str) (← payload.get "nodes")).getD ""
  return ⟨workItemId, projectKey, feishuDoc⟩

section Endpoint

variable {Job : Type}

/-- The request has no body if its text is no JSON. An exception becomes an error status, and
leaves the endpoint as it was. -/
def triggerRequirementReview (str : PythonStr) (meegoProjectKey : String) (now : ℚ)
    (endpoint : ReviewEndpoint Job) (request : Option Json) :
    Except Json.Misuse Nat × ReviewEndpoint Job :=
  match request with
  | none => (.ok 204, endpoint)
  | some body =>
      if !body.isObject then (.ok 204, endpoint)
      else
        match extractRequirementReviewRef str meegoProjectKey body with
        | .error raised => (.error raised, endpoint)
        | .ok ref =>
            if ref.workItemId = "" then (.ok 204, endpoint)
            else if ref.feishuDoc = "" then (.ok 204, endpoint)
            else
              match endpoint.requirementReviewGuard.check ⟨now, ref.workItemId⟩ with
              | (some _, guard) => (.ok 204, { endpoint with requirementReviewGuard := guard })
              | (none, guard) => (.ok 202, ⟨guard, endpoint.pipelineQueue ++ [.inl ref]⟩)

/-! ## What the endpoint promises -/

/-- The event in a body. -/
def payloadOf (body : Json) : Json := (body.entry "payload").or body

def LacksId (body : Json) : Prop := ((payloadOf body).entry "id").truthy = false

def IsLink (formField : Json) : Prop :=
  (formField.entry "field_type_key").isText "link" = true ∧
    (formField.entry "field_value").truthy = true

instance (formField : Json) : Decidable (IsLink formField) :=
  inferInstanceAs (Decidable (_ ∧ _))

def HasLink (node : Json) : Prop :=
  ∃ formField ∈ (node.entry "node_form").itemsOf, IsLink formField

def LacksLink (body : Json) : Prop :=
  ¬∃ node ∈ ((payloadOf body).entry "nodes").itemsOf, HasLink node

/-- The answer is 202 exactly when one review has been queued, and 204 otherwise; and a body
without id or link leaves the endpoint as it was. -/
structure AnswersRequest (before : ReviewEndpoint Job) (request : Option Json)
    (answer : Except Json.Misuse Nat × ReviewEndpoint Job) : Prop where
  status : answer.1 = .ok 202 ∨ answer.1 = .ok 204
  accepted : answer.1 = .ok 202 ↔
    ∃ ref, answer.2.pipelineQueue = before.pipelineQueue ++ [.inl ref]
  dropped : answer.1 = .ok 204 ↔ answer.2.pipelineQueue = before.pipelineQueue
  untouched : ∀ body ∈ request, LacksId body ∨ LacksLink body → answer.2 = before

/-! ## Readable bodies -/

/-- A node that is an object, whose form is empty or a list of objects as far as its first
link. -/
def ReadableNode (node : Json) : Prop :=
  node.isObject = true ∧
    (node.entry "node_form").ReadableItems IsLink fun formField => formField.isObject = true

/-- The event is an object, whose nodes are none or readable as far as the first one with a
link. -/
def ReadableBody (body : Json) : Prop :=
  (payloadOf body).isObject = true ∧
    ((payloadOf body).entry "nodes").ReadableItems HasLink ReadableNode

variable (str : PythonStr)

theorem linkOfField_eq_ok_iff {formField : Json} {result : Option String} :
    linkOfField str formField = .ok result ↔
      formField.isObject = true ∧
        (if IsLink formField then some (str.text (formField.entry "field_value")) else none) =
          result := by
  rw [linkOfField, Json.get_bind_eq_ok_iff]
  refine and_congr_right fun object => ?_
  by_cases isLink : (formField.entry "field_type_key").isText "link" = true
  · rw [if_pos isLink, Json.get_bind_eq_ok_iff]
    simp [IsLink, isLink, object, pure, Except.pure]
  · simp [IsLink, isLink, pure, Except.pure]

theorem linkOfField_visits :
    Visits (linkOfField str) (fun formField => formField.isObject = true) IsLink where
  ends formField := by
    simp only [linkOfField_eq_ok_iff]
    exact ⟨fun ⟨_, object, _⟩ => object, fun object => ⟨_, object, rfl⟩⟩
  finds formField result ended := by
    rw [← (linkOfField_eq_ok_iff str |>.mp ended).2]
    split <;> simp_all

/-- The text of a link is not empty, so that a link that is found ends both loops. -/
theorem linkOfField_ne_empty {formField : Json} {link : String}
    (found : linkOfField str formField = .ok (some link)) : link ≠ "" := by
  have isLink := (linkOfField_eq_ok_iff str |>.mp found).2
  split at isLink
  · rename_i holds
    rw [← Option.some.inj isLink]
    exact str.text_ne_empty _ holds.2
  · cases isLink

theorem linkOfNode_eq_ok_iff {node : Json} {result : Option String} :
    linkOfNode str node = .ok result ↔
      node.isObject = true ∧
        Json.search (linkOfField str) (node.entry "node_form") = .ok result := by
  rw [linkOfNode, Json.get_bind_eq_ok_iff, bind_eq_ok_iff]
  refine and_congr_right fun object => ?_
  have same : ∀ link, Json.search (linkOfField str) (node.entry "node_form") = .ok link →
      (if link.getD "" ≠ "" then some (link.getD "") else none) = link := by
    intro link searched
    cases link with
    | none => rfl
    | some link =>
        obtain ⟨formField, visited⟩ := Json.exists_visit_of_search searched
        exact if_pos (linkOfField_ne_empty str visited)
  constructor
  · rintro ⟨link, searched, ended⟩
    rw [← Except.ok.inj ended]
    exact (same link searched).symm ▸ searched
  · intro searched
    exact ⟨result, searched, congrArg Except.ok (same result searched)⟩

theorem linkOfNode_ne_empty {node : Json} {link : String}
    (found : linkOfNode str node = .ok (some link)) : link ≠ "" := by
  obtain ⟨-, searched⟩ := (linkOfNode_eq_ok_iff str).mp found
  obtain ⟨formField, visited⟩ := Json.exists_visit_of_search searched
  exact linkOfField_ne_empty str visited

theorem linkOfNode_visits : Visits (linkOfNode str) ReadableNode HasLink where
  ends node := by
    have form := Json.search_visits (linkOfField_visits str) fun points => Bool.false_ne_true
    simp only [linkOfNode_eq_ok_iff, ReadableNode, exists_and_left, form.ends]
  finds node result ended := by
    have form := Json.search_visits (linkOfField_visits str) fun points => Bool.false_ne_true
    exact form.finds _ result (linkOfNode_eq_ok_iff str |>.mp ended).2

/-! ## The reference -/

variable {meegoProjectKey : String} {body : Json}

theorem workItemId_eq_empty_iff :
    str.text (((payloadOf body).entry "id").or (.ofString "")) = "" ↔ LacksId body := by
  unfold LacksId
  cases isTruthy : ((payloadOf body).entry "id").truthy with
  | false =>
      rw [Json.or_falsy isTruthy, str.text_ofString]
      exact iff_of_true rfl rfl
  | true =>
      rw [Json.or_truthy isTruthy]
      exact iff_of_false (str.text_ne_empty _ isTruthy) Bool.noConfusion

/-- What the reference of a body is made of. -/
theorem extractRequirementReviewRef_eq_ok_iff {ref : RequirementReviewRef} :
    extractRequirementReviewRef str meegoProjectKey body = .ok ref ↔
      body.isObject = true ∧ (payloadOf body).isObject = true ∧
        ∃ link, Json.search (linkOfNode str) ((payloadOf body).entry "nodes") = .ok link ∧
          ⟨str.text (((payloadOf body).entry "id").or (.ofString "")),
            ((payloadOf body).entry "project_simple_name").or (.ofString meegoProjectKey),
            link.getD ""⟩ = ref := by
  rw [extractRequirementReviewRef, Json.get_bind_eq_ok_iff]
  refine and_congr_right fun _ => ?_
  dsimp only
  rw [Json.get_bind_eq_ok_iff]
  refine and_congr_right fun object => ?_
  rw [Json.get_bind_eq_ok_iff, Json.get_bind_eq_ok_iff, bind_eq_ok_iff]
  constructor
  · rintro ⟨-, -, link, searched, ended⟩
    exact ⟨link, searched, Except.ok.inj ended⟩
  · rintro ⟨link, searched, rfl⟩
    exact ⟨object, object, link, searched, rfl⟩

theorem nodes_visits :
    Visits (Json.search (linkOfNode str)) (Json.ReadableItems HasLink ReadableNode)
      (fun nodes => ∃ node ∈ nodes.itemsOf, HasLink node) :=
  Json.search_visits (linkOfNode_visits str) fun _ readable => Bool.false_ne_true readable.1

theorem exists_extractRequirementReviewRef_iff (meegoProjectKey : String)
    (object : body.isObject = true) :
    (∃ ref, extractRequirementReviewRef str meegoProjectKey body = .ok ref) ↔
      ReadableBody body := by
  rw [ReadableBody, ← (nodes_visits str).ends]
  simp only [extractRequirementReviewRef_eq_ok_iff]
  constructor
  · rintro ⟨ref, -, isPayload, link, searched, -⟩
    exact ⟨isPayload, link, searched⟩
  · rintro ⟨isPayload, link, searched⟩
    exact ⟨_, object, isPayload, link, searched, rfl⟩

/-- A reference has a work item and a document exactly when the body has an id and a link. -/
theorem hasIdAndLink_iff {ref : RequirementReviewRef}
    (extracted : extractRequirementReviewRef str meegoProjectKey body = .ok ref) :
    (ref.workItemId = "" ↔ LacksId body) ∧ (ref.feishuDoc = "" ↔ LacksLink body) := by
  obtain ⟨-, -, link, searched, rfl⟩ := (extractRequirementReviewRef_eq_ok_iff str).mp extracted
  refine ⟨workItemId_eq_empty_iff str, ?_⟩
  rw [LacksLink, ← (nodes_visits str).finds _ link searched]
  cases link with
  | none => simp
  | some link =>
      obtain ⟨node, visited⟩ := Json.exists_visit_of_search searched
      simpa using linkOfNode_ne_empty str visited

/-! ## Answers -/

variable {before after : ReviewEndpoint Job} {request : Option Json}

theorem AnswersRequest.of_dropped (queue : after.pipelineQueue = before.pipelineQueue)
    (untouched : ∀ body ∈ request, LacksId body ∨ LacksLink body → after = before) :
    AnswersRequest before request (.ok 204, after) where
  status := .inr rfl
  accepted := by
    refine iff_of_false (fun same => by cases same) ?_
    rintro ⟨ref, grown⟩
    simp [queue] at grown
  dropped := iff_of_true rfl queue
  untouched := untouched

theorem AnswersRequest.of_accepted {ref : RequirementReviewRef}
    (queue : after.pipelineQueue = before.pipelineQueue ++ [.inl ref])
    (complete : ∀ body ∈ request, ¬LacksId body ∧ ¬LacksLink body) :
    AnswersRequest before request (.ok 202, after) where
  status := .inl rfl
  accepted := iff_of_true rfl ⟨ref, queue⟩
  dropped := by
    refine iff_of_false (fun same => by cases same) ?_
    simp [queue]
  untouched body member lacks :=
    absurd lacks (not_or.mpr (complete body member))

/-- A request whose body is read as far as the code reads it, if it is an object. -/
def ReadableRequest (request : Option Json) : Prop :=
  ∀ body ∈ request, body.isObject = true → ReadableBody body

theorem answersRequest_of_readable (now : ℚ) (readable : ReadableRequest request) :
    AnswersRequest before request
      (triggerRequirementReview str meegoProjectKey now before request) := by
  unfold triggerRequirementReview
  cases request with
  | none => exact .of_dropped rfl fun body member => by cases member
  | some body =>
      dsimp only
      split
      · exact .of_dropped rfl fun _ _ _ => rfl
      · rename_i isObject
        have object : body.isObject = true := by simpa using isObject
        obtain ⟨ref, extracted⟩ :=
          (exists_extractRequirementReviewRef_iff str meegoProjectKey object).mpr
            (readable body rfl object)
        obtain ⟨noId, noLink⟩ := hasIdAndLink_iff str extracted
        rw [extracted]
        dsimp only
        split
        · exact .of_dropped rfl fun _ _ _ => rfl
        · rename_i hasId
          split
          · exact .of_dropped rfl fun _ _ _ => rfl
          · rename_i hasLink
            have complete : ∀ other ∈ some body, ¬LacksId other ∧ ¬LacksLink other := by
              rintro other ⟨⟩
              exact ⟨fun lacks => hasId (noId.mpr lacks),
                fun lacks => hasLink (noLink.mpr lacks)⟩
            split
            · refine .of_dropped rfl fun other member lacks => ?_
              exact absurd lacks (not_or.mpr (complete other member))
            · exact .of_accepted rfl complete

/-- **Review webhook.** Every request is answered as promised exactly when its body, if it is
an object, can be read. -/
theorem answersRequest_iff (meegoProjectKey : String) (now : ℚ) (endpoint : ReviewEndpoint Job)
    (request : Option Json) :
    AnswersRequest endpoint request
        (triggerRequirementReview str meegoProjectKey now endpoint request) ↔
      ReadableRequest request := by
  refine ⟨?_, answersRequest_of_readable str now⟩
  rintro answers body rfl object
  rw [← exists_extractRequirementReviewRef_iff str meegoProjectKey object]
  have status := answers.status
  rw [triggerRequirementReview, object] at status
  cases extracted : extractRequirementReviewRef str meegoProjectKey body with
  | ok ref => exact ⟨ref, rfl⟩
  | error raised =>
      rw [extracted] at status
      rcases status with isStatus | isStatus <;> cases isStatus

end Endpoint

/-- The text of a string, and some text of any other value. -/
def textOfStrings : PythonStr where
  text value := value.text?.getD "value"
  text_ofString characters := by rw [Json.text?_ofString]; rfl
  text_ne_empty value isTrue := by
    cases isText : value.text? with
    | none => simp
    | some characters =>
        unfold Json.text? at isText
        split at isText
        · split at isText
          · rintro (rfl : characters = "")
            rename_i points _
            have noPoints : points = [] := by simpa using isText
            rw [noPoints] at isTrue
            cases isTrue
          · cases isText
        · cases isText

/-- `{"payload": "x"}`. -/
def payloadIsText : Json := .object [(Json.pointsOf "payload", .ofString "x")]

/-- A guard that has seen nothing, and no jobs. -/
def idleEndpoint : ReviewEndpoint Unit := ⟨.new 300 5, []⟩

/-- An event that is a text is not dropped: the endpoint raises. -/
theorem payloadIsText_raises :
    (triggerRequirementReview textOfStrings "union-platform" 0 idleEndpoint
        (some payloadIsText)).1 = .error .attributeError ∧
      ¬AnswersRequest idleEndpoint (some payloadIsText)
        (triggerRequirementReview textOfStrings "union-platform" 0 idleEndpoint
          (some payloadIsText)) := by
  have raises : (triggerRequirementReview textOfStrings "union-platform" 0 idleEndpoint
      (some payloadIsText)).1 = .error .attributeError := rfl
  refine ⟨raises, fun answers => ?_⟩
  rcases answers.status with status | status <;> rw [raises] at status <;> cases status

end QuAIA.Orchestrator
