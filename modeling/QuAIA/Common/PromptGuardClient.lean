import Mathlib.Algebra.GroupWithZero.Nat
import QuAIA.Common.CustomLlmWrapper
import QuAIA.Common.ServiceKeys
import QuAIA.Library.Json.Walking
import QuAIA.Services.PromptGuard

/-!
Contract: the guard of `CustomLlmWrapper` when it is the remote service.

Owns: the endpoint of the guard service, the client that posts a prompt to it and reads the
verdict, the prompts that pass, and when the wrapped model is called.

Does not own: the tokenizer, the classifier and the network. A classifier answers each text for
itself. Who answers in place of the service answers with an error status.
-/

set_option autoImplicit false

namespace QuAIA.Common.PromptGuardClient

open QuAIA.Library QuAIA.Services.PromptGuard

universe u v

variable {τ : Type u} {σ : Type v}

/-! ## The service -/

/-- `PromptGuardRequest`, with the key in the header. -/
structure GuardRequest (σ : Type v) where
  prompt : String
  promptDescription : String
  threshold : σ
  xApiKey : Option String

/-- A response with what `response.json()` returns or raises. -/
structure HttpReply where
  status : Nat
  body : Except String Json

/-- The tokenizer and the classifier of an instance, and what they raise for some chunks. -/
structure GuardModel (τ : Type u) (σ : Type v) where
  encode : Text → List τ
  decode : List τ → Text
  classify : Text → Classification σ
  raises : List Text → Option String

def GuardModel.chunks (model : GuardModel τ σ) (prompt promptDescription : String) : List Text :=
  classifiedChunks model.encode model.decode prompt.toList promptDescription.toList

/-- `get_instance` raises when the model cannot be loaded. -/
structure GuardService (τ : Type u) (σ : Type v) where
  internalServiceApiKey : Option String
  getInstance : Except String (GuardModel τ σ)

section Endpoint

variable [Zero σ] [LE σ] [DecidableLE σ]

/-- `is_injection` of the service's guard. -/
def GuardModel.isInjection (model : GuardModel τ σ) (request : GuardRequest σ) :
    Except String Bool :=
  match model.raises (model.chunks request.prompt request.promptDescription) with
  | some error => .error error
  | none =>
      .ok (Services.PromptGuard.isInjection model.encode model.decode
        (List.map model.classify) request.prompt.toList request.promptDescription.toList
        request.threshold)

def detailBody (detail : String) : Json :=
  .object [(Json.pointsOf "detail", .ofString detail)]

def promptGuardResponse (isInjection : Bool) : HttpReply :=
  ⟨200, .ok (.object [(Json.pointsOf "is_injection", .bool isInjection)])⟩

/-- `check_injection`, after the dependency that checks the key. What the dependency raises
beside an `HTTPException` ends in a plain text. -/
def GuardService.checkInjection (service : GuardService τ σ) (request : GuardRequest σ) :
    HttpReply :=
  match requireServiceAuth service.internalServiceApiKey request.xApiKey with
  | .error (.httpException status detail) => ⟨status, .ok (detailBody detail)⟩
  | .error _ => ⟨500, .error "Expecting value"⟩
  | .ok () =>
      match service.getInstance with
      | .error _ => ⟨500, .ok (detailBody "Internal server error")⟩
      | .ok model =>
          match model.isInjection request with
          | .error _ => ⟨500, .ok (detailBody "Internal server error")⟩
          | .ok isInjection => promptGuardResponse isInjection

end Endpoint

/-! ## The client -/

/-- What becomes of a post: it reaches the service, with the key as it arrives there, it is
refused on the way, or it raises. -/
inductive Delivery where
  | delivered (xApiKey : Option String)
  | refused (reply : HttpReply) (isError : 400 ≤ reply.status ∧ reply.status < 600)
  | raised (error : String)

structure ClientConfig where
  promptGuardServiceUrl : Option String
  internalServiceApiKey : Option String

/-- `raise_for_status`, with the texts cut. -/
def HttpReply.raiseForStatus (reply : HttpReply) : Except String Unit :=
  if 400 ≤ reply.status ∧ reply.status < 500 then .error s!"{reply.status} Client Error"
  else if 500 ≤ reply.status ∧ reply.status < 600 then .error s!"{reply.status} Server Error"
  else .ok ()

/-- The verdict of a response. An answer without one is read as `False`. -/
def HttpReply.verdict (reply : HttpReply) : Except String Bool := do
  reply.raiseForStatus
  let result ← reply.body
  match result.get "is_injection" with
  | .error _ => .error "object has no attribute 'get'"
  | .ok isInjection => .ok isInjection.truthy

section Client

variable [Zero σ] [LE σ] [DecidableLE σ]

def post (network : GuardRequest σ → Delivery) (service : GuardService τ σ)
    (request : GuardRequest σ) : Except String HttpReply :=
  match network request with
  | .delivered xApiKey => .ok (service.checkInjection { request with xApiKey })
  | .refused reply _ => .ok reply
  | .raised error => .error error

def guardRequest (client : ClientConfig) (threshold : σ) (prompt : GuardPrompt) :
    GuardRequest σ :=
  ⟨prompt.prompt, prompt.promptDescription, threshold, nonempty? client.internalServiceApiKey⟩

/-- `is_injection` of the client. -/
def isInjection (client : ClientConfig) (network : GuardRequest σ → Delivery)
    (service : GuardService τ σ) (threshold : σ) : PromptGuard := fun prompt =>
  match nonempty? client.promptGuardServiceUrl with
  | none => .error "PROMPT_GUARD_SERVICE_URL is not set in configuration"
  | some _ =>
      match post network service (guardRequest client threshold prompt) >>= HttpReply.verdict with
      | .error error => .error ("Failed to check prompt injection: " ++ error)
      | .ok verdict => .ok verdict

/-! ## Prompts that pass -/

/-- The prompt reaches the service with a key that the service accepts, its chunks are classified,
and none is positive. -/
def Passes (client : ClientConfig) (network : GuardRequest σ → Delivery)
    (service : GuardService τ σ) (threshold : σ) (prompt : GuardPrompt) : Prop :=
  (nonempty? client.promptGuardServiceUrl).isSome = true ∧
    ∃ xApiKey model,
      network (guardRequest client threshold prompt) = .delivered xApiKey ∧
      (nonempty? service.internalServiceApiKey = none ∨
        HasKey service.internalServiceApiKey xApiKey) ∧
      service.getInstance = .ok model ∧
      model.raises (model.chunks prompt.prompt prompt.promptDescription) = none ∧
      ∀ chunk ∈ model.chunks prompt.prompt prompt.promptDescription,
        (model.classify chunk).positive threshold = false

variable {client : ClientConfig} {network : GuardRequest σ → Delivery}
  {service : GuardService τ σ} {threshold : σ}

/-- An error status is no verdict. -/
theorem verdict_of_error {status : Nat} (isError : 400 ≤ status ∧ status < 600)
    (body : Except String Json) (verdict : Bool) :
    (⟨status, body⟩ : HttpReply).verdict ≠ .ok verdict := by
  intro ended
  unfold HttpReply.verdict at ended
  obtain ⟨_, raised, -⟩ := Fallible.bind_eq_ok_iff.mp ended
  unfold HttpReply.raiseForStatus at raised
  split at raised
  · cases raised
  · rename_i notClient
    have server : 500 ≤ status ∧ status < 600 := by
      dsimp only at notClient
      omega
    rw [if_pos server] at raised
    cases raised

theorem verdict_promptGuardResponse (isInjection : Bool) :
    (promptGuardResponse isInjection).verdict = .ok isInjection := by
  cases isInjection <;> rfl

/-- The service answers with a verdict exactly if it accepts the key and its model classifies. -/
theorem verdict_checkInjection_iff (service : GuardService τ σ) (request : GuardRequest σ)
    (verdict : Bool) :
    (service.checkInjection request).verdict = .ok verdict ↔
      requireServiceAuth service.internalServiceApiKey request.xApiKey = .ok () ∧
        ∃ model, service.getInstance = .ok model ∧ model.isInjection request = .ok verdict := by
  have unauthorized (body : Except String Json) :
      (⟨401, body⟩ : HttpReply).verdict ≠ .ok verdict :=
    verdict_of_error ⟨by decide, by decide⟩ body verdict
  have serverError (body : Except String Json) :
      (⟨500, body⟩ : HttpReply).verdict ≠ .ok verdict :=
    verdict_of_error ⟨by decide, by decide⟩ body verdict
  unfold GuardService.checkInjection
  cases auth : requireServiceAuth service.internalServiceApiKey request.xApiKey with
  | error error =>
      rcases requireServiceAuth_eq_error auth with rfl | ⟨message, rfl⟩
      · simp [unauthorized]
      · simp [serverError]
  | ok accepted =>
      cases loaded : service.getInstance with
      | error error => simp [serverError]
      | ok model =>
          cases classified : model.isInjection request with
          | error error => simp [classified, serverError]
          | ok answer => simp [classified, verdict_promptGuardResponse]

/-- The model finds a prompt clean exactly if it classifies all chunks, none as positive. -/
theorem isInjection_eq_ok_false_iff (model : GuardModel τ σ) (request : GuardRequest σ) :
    model.isInjection request = .ok false ↔
      model.raises (model.chunks request.prompt request.promptDescription) = none ∧
        ∀ chunk ∈ model.chunks request.prompt request.promptDescription,
          (model.classify chunk).positive request.threshold = false := by
  unfold GuardModel.isInjection
  cases model.raises (model.chunks request.prompt request.promptDescription) with
  | some error => simp
  | none =>
      have positiveChunk := isInjection_iff model.encode model.decode model.classify
        request.prompt.toList request.promptDescription.toList request.threshold
      rw [Except.ok.injEq, ← Bool.not_eq_true, positiveChunk]
      simp [GuardModel.chunks]

/-- The remote guard finds a prompt clean exactly if it passes. -/
theorem remote_isInjection_eq_ok_false_iff (prompt : GuardPrompt) :
    isInjection client network service threshold prompt = .ok false ↔
      Passes client network service threshold prompt := by
  unfold isInjection Passes
  cases nonempty? client.promptGuardServiceUrl with
  | none => simp
  | some url =>
      have answered : (match post network service (guardRequest client threshold prompt) >>=
            HttpReply.verdict with
          | .error error => .error ("Failed to check prompt injection: " ++ error)
          | .ok verdict => .ok verdict : Except String Bool) = .ok false ↔
          post network service (guardRequest client threshold prompt) >>= HttpReply.verdict =
            .ok false := by
        split
        · rename_i failed
          simp [failed]
        · rename_i ended
          simp [ended]
      refine answered.trans ?_
      unfold post
      cases sent : network (guardRequest client threshold prompt) with
      | raised error => simp [bind, Except.bind]
      | refused reply isError => simp [bind, Except.bind, verdict_of_error isError]
      | delivered xApiKey =>
          refine (verdict_checkInjection_iff service _ false).trans ?_
          rw [requireServiceAuth_eq_ok_iff]
          simp only [isInjection_eq_ok_false_iff]
          simp [guardRequest]

end Client

/-! ## The wrapper -/

/-- A run of tokens with what follows it in a window. -/
theorem prefix_of_window {tokens before run after left right : List τ} {start : Nat}
    (split : tokens = before ++ run ++ after)
    (isWindow : windowAt tokens start = left ++ run ++ right)
    (isBefore : before = tokens.take start ++ left) : right <+: after := by
  have fromStart : tokens.drop start = left ++ run ++ after := by
    have whole : tokens.take start ++ tokens.drop start =
        tokens.take start ++ (left ++ run ++ after) := by
      rw [List.take_append_drop]
      calc tokens = before ++ run ++ after := split
        _ = tokens.take start ++ left ++ run ++ after := by rw [← isBefore]
        _ = tokens.take start ++ (left ++ run ++ after) := by simp only [List.append_assoc]
    exact List.append_cancel_left whole
  have inTokens : left ++ run ++ right <+: left ++ run ++ after := by
    rw [← isWindow, ← fromStart]
    exact List.take_prefix maxTokenLength (tokens.drop start)
  exact (List.prefix_append_right_inj (left ++ run)).mp inTokens

/-- The run is in the chunk with its surroundings: in the whole prompt, or in a decoded window. -/
def SeenIn (model : GuardModel τ σ) (prompt : String) (before run after : List τ)
    (chunk : Text) : Prop :=
  prompt.toList <:+: chunk ∨
    ∃ outer left right, before = outer ++ left ∧ right <+: after ∧
      model.decode (left ++ run ++ right) <:+: chunk

/-- **Coverage.** A run of tokens that is no longer than the overlap and one more is seen. -/
theorem exists_chunk_of_run (model : GuardModel τ σ) (prompt promptDescription : String)
    {before run after : List τ} (split : model.encode prompt.toList = before ++ run ++ after)
    (short : run.length ≤ 129) :
    ∃ chunk ∈ model.chunks prompt promptDescription,
      SeenIn model prompt before run after chunk := by
  by_cases fits : (model.encode prompt.toList).length ≤ maxTokenLength
  · simp only [GuardModel.chunks, classifiedChunks, if_pos fits]
    by_cases noDescription : promptDescription.toList = []
    · exact ⟨prompt.toList, by simp [noDescription], Or.inl List.infix_rfl⟩
    · refine ⟨promptDescription.toList ++ prompt.toList, by simp [noDescription], Or.inl ?_⟩
      exact (List.suffix_append promptDescription.toList prompt.toList).isInfix
  · have long : maxTokenLength < (model.encode prompt.toList).length := Nat.lt_of_not_le fits
    obtain ⟨-, covers, -⟩ := splitPromptIntoChunks_covers long model.decode
    obtain ⟨start, isStart, left, right, isWindow, isBefore⟩ := covers before run after split short
    obtain ⟨chunk, classified, within⟩ :=
      infix_classifiedChunks model.decode promptDescription.toList long isStart
    refine ⟨chunk, classified, Or.inr ⟨_, left, right, isBefore, ?_, ?_⟩⟩
    · exact prefix_of_window split isWindow isBefore
    · rw [isWindow] at within
      exact within

section Wrapper

variable [Zero σ] [LE σ] [DecidableLE σ]

variable {config : GuardConfig}

/-- With the check enabled, the wrapped model is called exactly if the provider is known, the last
request can be logged, and the guard finds the prompt, if there is one, clean. -/
theorem called_iff_clean (call : WrapperCall) (guard : PromptGuard)
    (messages : List ModelMessage) (enabled : config.promptInjectionCheckEnabled = true) :
    (beforeWrapped call config guard messages).outcome = .ok () ↔
      config.promptGuardProvider = "protect_ai" ∧ logLatest call messages = .ok () ∧
        ∃ prompt, getPromptFromMessages messages = .ok prompt ∧
          ∀ checked ∈ prompt, guard checked = .ok false := by
  constructor
  · intro called
    obtain ⟨logged, valid, -⟩ := validated_of_called enabled called
    obtain ⟨known, prompt, isPrompt, -, clean⟩ := checked_of_validated valid
    exact ⟨known, logged, prompt, isPrompt, clean⟩
  · rintro ⟨known, logged, prompt, isPrompt, clean⟩
    cases prompt with
    | some prompt => rw [beforeWrapped_of_prompt enabled known isPrompt (clean prompt rfl) logged]
    | none =>
        unfold beforeWrapped validateForPromptInjection
        rw [if_pos enabled, isPrompt]
        dsimp only
        rw [if_pos known]
        dsimp only
        rw [logged]

/-- **The remote guard fails closed.** With the check enabled, the wrapped model is called exactly
if every prompt that is made from the history passes at the service, and then every run of 129
tokens of a checked prompt is seen in a chunk that the classifier found clean. -/
theorem wrapped_called_iff_prompts_pass (call : WrapperCall) (client : ClientConfig)
    (network : GuardRequest σ → Delivery) (service : GuardService τ σ) (threshold : σ)
    (messages : List ModelMessage) (enabled : config.promptInjectionCheckEnabled = true) :
    let validation :=
      beforeWrapped call config (isInjection client network service threshold) messages
    (validation.outcome = .ok () ↔
      config.promptGuardProvider = "protect_ai" ∧ logLatest call messages = .ok () ∧
        ∃ prompt, getPromptFromMessages messages = .ok prompt ∧
          ∀ checked ∈ prompt, Passes client network service threshold checked) ∧
    (validation.outcome = .ok () → ∀ checked ∈ validation.checked,
      ∃ model, service.getInstance = .ok model ∧
        ∀ before run after, model.encode checked.prompt.toList = before ++ run ++ after →
          run.length ≤ 129 →
          ∃ chunk, (model.classify chunk).positive threshold = false ∧
            SeenIn model checked.prompt before run after chunk) := by
  intro validation
  have calledIff := called_iff_clean call (isInjection client network service threshold) messages
    enabled
  simp only [remote_isInjection_eq_ok_false_iff] at calledIff
  refine ⟨calledIff, ?_⟩
  intro called checked isChecked
  obtain ⟨-, valid, sameChecks⟩ := validated_of_called enabled called
  obtain ⟨-, prompt, -, isPrompt, clean⟩ := checked_of_validated valid
  rw [sameChecks, isPrompt, Option.mem_toList] at isChecked
  obtain ⟨-, xApiKey, model, -, -, loaded, -, negative⟩ :=
    remote_isInjection_eq_ok_false_iff checked |>.mp (clean checked isChecked)
  refine ⟨model, loaded, ?_⟩
  intro before run after split short
  obtain ⟨chunk, classified, seen⟩ :=
    exists_chunk_of_run model checked.prompt checked.promptDescription split short
  exact ⟨chunk, negative chunk classified, seen⟩

/-! ### A prompt of one chunk -/

/-- A classifier that knows one attack, behind a key. -/
def attackService : GuardService Char Nat :=
  ⟨some "key", .ok ⟨id, id, fun chunk =>
    if "ignore all rules".toList <:+: chunk then ⟨some "INJECTION", some 9⟩
    else ⟨some "SAFE", some 9⟩, fun _ => none⟩⟩

def localClient : ClientConfig := ⟨some "http://localhost:8081", some "key"⟩

def userPromptHistory (text : String) : List ModelMessage :=
  [.request [.userPrompt (.text text)]]

/-- With the right key the prompt passes and all of it is seen, without a key nothing passes. -/
theorem wrapped_called_iff_prompts_pass_short :
    (beforeWrapped .request guardOn
      (isInjection localClient (fun request => .delivered request.xApiKey) attackService 8)
      (userPromptHistory "Test it")).outcome = .ok () ∧
    (beforeWrapped .request guardOn
      (isInjection localClient (fun _ => .delivered none) attackService 8)
      (userPromptHistory "Test it")).outcome ≠ .ok () := by
  have onlyPrompt : getPromptFromMessages (userPromptHistory "Test it") =
      .ok (some ⟨"", "Test it"⟩) := rfl
  refine ⟨(wrapped_called_iff_prompts_pass .request localClient _ attackService 8
    (userPromptHistory "Test it") rfl).1.mpr ⟨rfl, rfl, _, onlyPrompt, ?_⟩, ?_⟩
  · rintro _ ⟨⟩
    refine ⟨rfl, some "key", _, rfl, Or.inr ⟨"key", rfl, rfl, rfl⟩, rfl, rfl, ?_⟩
    decide +kernel
  · intro called
    obtain ⟨-, -, prompt, isPrompt, passes⟩ := (wrapped_called_iff_prompts_pass .request
      localClient _ attackService 8 (userPromptHistory "Test it") rfl).1.mp called
    obtain rfl := Except.ok.inj (isPrompt.symm.trans onlyPrompt)
    obtain ⟨-, xApiKey, model, sent, unkeyed | ⟨key, configured, given, -⟩, -⟩ :=
      passes _ rfl
    · cases unkeyed
    · cases sent
      cases given

end Wrapper

end QuAIA.Common.PromptGuardClient
