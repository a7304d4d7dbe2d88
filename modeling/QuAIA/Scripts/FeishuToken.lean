import QuAIA.Library.Binary64
import QuAIA.Library.SingleFlight

/-!
Contract: the tenant access token of the Feishu server (`_get_tenant_access_token`).

Owns: the cached token with its expiry; the fast path; what the answer to a refresh request makes
of the cache; and what holds of any number of concurrent callers.

Does not own: the request itself. Times are doubles, and so is the expiry computed from them.
-/

set_option autoImplicit false

namespace QuAIA.Scripts

open QuAIA.Library
open QuAIA.Library.SingleFlight (Phase Action Exclusive)

/-- A reading of the monotonic clock, in the first hundred million years. -/
structure Reading where
  seconds : ℚ
  nonneg : 0 ≤ seconds
  within : seconds < 2 ^ 52

/-- `_cached_tenant_access_token` and its expiry. -/
structure TokenCache where
  token : Option String
  expiresAt : ℚ

def TokenCache.initial : TokenCache := ⟨none, 0⟩

/-- The path without a request. An empty token counts as none. -/
def TokenCache.check (now : Reading) (cache : TokenCache) : Option String :=
  cache.token.filter fun token => token ≠ "" ∧ now.seconds < cache.expiresAt

/-- The answer to a refresh request: an exception, or a payload with the entries that are read.
An entry is `none` where it is missing, or is no number. Tokens are granted for whole seconds. -/
inductive TokenAnswer where
  | failed
  | payload (code : Option ℤ) (tenantAccessToken : Option String) (expire : Option ℤ)

/-- A minute before the end of a grant. Every operation is rounded. -/
def expiry (now : Reading) (expire : ℤ) : ℚ :=
  Binary64.nearest (Binary64.nearest (now.seconds + Binary64.nearest expire) - 60)

/-- The rest of the refresh. The token is stored before its expiry is computed. -/
def TokenCache.finish (now : Reading) (answer : TokenAnswer) (cache : TokenCache) :
    TokenCache × Option String :=
  match answer with
  | .failed => (cache, none)
  | .payload code tenantAccessToken expire =>
      if code ≠ some 0 then (cache, none)
      else
        match tenantAccessToken with
        | none => (cache, none)
        | some token =>
            let stored := { cache with token := some token }
            match expire with
            | none => (stored, none)
            | some expire => ({ stored with expiresAt := expiry now expire }, some token)

/-- `_get_tenant_access_token`. -/
def getTenantAccessToken : SingleFlight.Protocol TokenCache Reading TokenAnswer String :=
  ⟨TokenCache.check, TokenCache.finish⟩

abbrev TokenState := SingleFlight.State TokenCache String

def TokenState.initial : TokenState := ⟨.initial, none, .empty⟩

abbrev TokenEvent := Reading × Action TokenAnswer

def tokenStep : TokenState → TokenEvent → Option TokenState :=
  SingleFlight.step getTenantAccessToken

/-- A token is granted for more than a minute. -/
def TokenAnswer.LongLived : TokenAnswer → Prop
  | .payload (some 0) (some _) expire => ∃ granted ∈ expire, 60 < granted
  | _ => True

def GrantsLong (event : TokenEvent) : Prop :=
  match event.2 with
  | .answered _ answer => answer.LongLived
  | _ => True

def OneRequest (state : TokenState) : Prop :=
  ∀ first second, state.callers.get? first = some .requesting →
    state.callers.get? second = some .requesting → first = second

/-- A request begins only while no unexpired token is cached; a request that fails leaves token
and expiry alone; and a caller that returns gets the cached token before its expiry. -/
structure SafeSegment (state : TokenState) (now : Reading) (next : TokenState) : Prop where
  begins : ∀ caller, state.callers.get? caller ≠ some .requesting →
    next.callers.get? caller = some .requesting →
    ¬∃ token, state.shared.token = some token ∧ token ≠ "" ∧
      now.seconds < state.shared.expiresAt
  fails : ∀ caller, state.callers.get? caller = some .requesting →
    next.callers.get? caller = some .raised → next.shared = state.shared
  returns : ∀ caller token, state.callers.get? caller ≠ some (.returned token) →
    next.callers.get? caller = some (.returned token) →
    next.shared.token = some token ∧ now.seconds < next.shared.expiresAt

theorem TokenCache.check_eq_some {now : Reading} {cache : TokenCache} {token : String} :
    cache.check now = some token ↔
      cache.token = some token ∧ token ≠ "" ∧ now.seconds < cache.expiresAt := by
  rw [check, Option.filter_eq_some_iff, decide_eq_true_eq]

/-- The answers that leave the cache alone when they make the call raise: all but those with a
token that is stored before its expiry turns out to be missing. -/
theorem TokenCache.finish_raises {now : Reading} {answer : TokenAnswer} {cache after : TokenCache}
    (longLived : answer.LongLived) (raises : cache.finish now answer = (after, none)) :
    after = cache := by
  unfold finish at raises
  split at raises
  · exact (Prod.mk.inj raises).1.symm
  · rename_i code tenantAccessToken expire
    split at raises
    · exact (Prod.mk.inj raises).1.symm
    · rename_i succeeded
      rw [not_not] at succeeded
      subst succeeded
      split at raises
      · exact (Prod.mk.inj raises).1.symm
      · obtain ⟨granted, isGranted, -⟩ := longLived
        rw [isGranted] at raises
        cases raises

/-- The expiry lies after the reading, however the sums are rounded: the whole seconds before it
are doubles. -/
theorem lt_expiry (now : Reading) {expire : ℤ} (long : 60 < expire) :
    now.seconds < expiry now expire := by
  have floor := Nat.floor_le now.nonneg
  have ceiling := Nat.lt_floor_add_one now.seconds
  have within := now.within
  have granted : (61 : ℚ) ≤ Binary64.nearest expire :=
    calc (61 : ℚ) ≤ Binary64.nearest 61 := by
          exact_mod_cast Binary64.le_nearest (le_refl ((61 : ℕ) : ℚ)) (by norm_num)
      _ ≤ Binary64.nearest expire := Binary64.nearest_mono (mod_cast long)
  have sum : ((⌊now.seconds⌋₊ + 61 : ℕ) : ℚ) ≤
      Binary64.nearest (now.seconds + Binary64.nearest expire) :=
    calc ((⌊now.seconds⌋₊ + 61 : ℕ) : ℚ) ≤ Binary64.nearest (now.seconds + 61) :=
          Binary64.le_nearest (by push_cast; linarith) (by linarith)
      _ ≤ _ := Binary64.nearest_mono (by linarith)
  push_cast at sum
  calc now.seconds < ((⌊now.seconds⌋₊ + 1 : ℕ) : ℚ) := mod_cast ceiling
    _ ≤ Binary64.nearest ((⌊now.seconds⌋₊ + 1 : ℕ) : ℚ) :=
        Binary64.le_nearest le_rfl (by push_cast; linarith)
    _ ≤ expiry now expire := Binary64.nearest_mono (by push_cast; linarith)

theorem TokenCache.finish_returns {now : Reading} {answer : TokenAnswer}
    {cache after : TokenCache} {token : String} (longLived : answer.LongLived)
    (returned : cache.finish now answer = (after, some token)) :
    after.token = some token ∧ now.seconds < after.expiresAt := by
  unfold finish at returned
  split at returned
  · cases returned
  · rename_i code tenantAccessToken expire
    split at returned
    · cases returned
    · rename_i succeeded
      rw [not_not] at succeeded
      subst succeeded
      split at returned
      · cases returned
      · obtain ⟨granted, isGranted, long⟩ := longLived
        rw [isGranted] at returned
        cases returned
        exact ⟨rfl, lt_expiry now long⟩

theorem GrantsLong.answer {event : TokenEvent} (grants : GrantsLong event) {caller : Nat}
    {answer : TokenAnswer} (isAnswer : event.2 = .answered caller answer) : answer.LongLived := by
  rwa [GrantsLong, isAnswer] at grants

theorem safeSegment_step {state next : TokenState} {event : TokenEvent} (grants : GrantsLong event)
    (segment : tokenStep state event = some next) : SafeSegment state event.1 next := by
  have stepped := SingleFlight.stepped_of_step segment
  refine ⟨?_, ?_, ?_⟩
  · rintro caller before after ⟨token, unexpired⟩
    have missing := stepped.check_of_requests before after
    have found := TokenCache.check_eq_some.mpr unexpired
    exact absurd (found.symm.trans missing) nofun
  · intro caller before after
    rcases stepped.raised before after with same | ⟨answer, isAnswer, finished⟩
    · exact same
    · exact TokenCache.finish_raises (grants.answer isAnswer) finished
  · intro caller token before after
    rcases stepped.returned before after with ⟨same, checked⟩ | ⟨answer, isAnswer, finished⟩
    · obtain ⟨cached, -, unexpired⟩ := TokenCache.check_eq_some.mp checked
      rw [same]
      exact ⟨cached, unexpired⟩
    · exact TokenCache.finish_returns (grants.answer isAnswer) finished

theorem exclusive_initial : Exclusive TokenState.initial := by
  intro caller
  constructor
  · nofun
  · nofun

/-- **Single flight.** In every state of every interleaving at most one request is in flight, and
every segment is safe, if tokens are granted for more than a minute. -/
theorem token_singleFlight {events : List TokenEvent}
    (grants : ∀ event ∈ events, GrantsLong event) :
    StepSystem.Throughout tokenStep OneRequest .initial events ∧
      StepSystem.Along tokenStep
        (fun state event => ∀ next, tokenStep state event = some next →
          SafeSegment state event.1 next)
        .initial events := by
  have granted : StepSystem.Along tokenStep (fun _ event => GrantsLong event)
      TokenState.initial events := StepSystem.along_of_forall_event _ grants
  have kept : ∀ state event next, Exclusive state → GrantsLong event →
      tokenStep state event = some next → Exclusive next := by
    intro state event next exclusive _ segment
    exact exclusive.stepped (SingleFlight.stepped_of_step segment)
  constructor
  · have exclusive := StepSystem.throughout_of_along kept exclusive_initial granted
    exact StepSystem.throughout_mono (fun _ here _ _ => here.unique) exclusive
  · refine StepSystem.along_of_invariant kept ?_ exclusive_initial granted
    intro state event _ grantsHere next segment
    exact safeSegment_step grantsHere segment

def Reading.whole (seconds : Fin (2 ^ 52)) : Reading where
  seconds := (seconds : ℕ)
  nonneg := Nat.cast_nonneg _
  within := mod_cast seconds.isLt

/-- Two callers: the first one's request fails, the second one gets a token, and a third one is
served from the cache. -/
def threeCallers : List TokenEvent :=
  [(.whole 0, .call 1), (.whole 0, .acquire 1), (.whole 1, .call 2),
    (.whole 2, .answered 1 .failed), (.whole 2, .acquire 2),
    (.whole 3, .answered 2 (.payload (some 0) (some "t-1") (some 7200))), (.whole 7142, .call 3)]

theorem token_singleFlight_threeCallers :
    StepSystem.Throughout tokenStep OneRequest .initial threeCallers := by
  refine (token_singleFlight ?_).1
  simp [threeCallers, GrantsLong, TokenAnswer.LongLived]

end QuAIA.Scripts
