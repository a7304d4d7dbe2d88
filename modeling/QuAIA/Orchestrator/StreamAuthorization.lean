import QuAIA.Orchestrator.DashboardAuth

/-!
Contract: every run of the dashboard's authenticated endpoints.

Owns: that a stream token is honoured exactly from its minting to its expiry, whatever is minted,
purged and opened in between; how many tokens the store keeps; and that every open stream goes back
to a login with the configured credentials.

Does not own: the code, which is in `QuAIA.Orchestrator.DashboardAuth`.
-/

set_option autoImplicit false

namespace QuAIA.Orchestrator

open QuAIA.Common
open QuAIA.Library

variable {Token : Type} {config : DashboardAuthConfig} {jwt : JwtLibrary Token}
  {dashboard after : Dashboard} {ledger extended : AuthLedger Token} {event : DashboardEvent Token}

/-! ## The store of stream tokens -/

/-- The store reflects the tokens that were minted. -/
structure StoreInvariant (state : Dashboard × AuthLedger Token) : Prop where
  reflects : ExpiringStore.Reflects state.1.streamTokenStore state.2.mints
  past : ∀ mint ∈ state.2.mints, mint.time ≤ state.1.now

theorem StoreInvariant.later (invariant : StoreInvariant (dashboard, ledger))
    (forward : dashboard.now ≤ after.now)
    (sameStore : after.streamTokenStore = dashboard.streamTokenStore)
    (sameMints : extended.mints = ledger.mints) : StoreInvariant (after, extended) where
  reflects := by
    rw [sameStore, sameMints]
    exact invariant.reflects
  past mint member := le_trans (invariant.past mint (sameMints ▸ member)) forward

theorem StoreInvariant.stepped (invariant : StoreInvariant (dashboard, ledger))
    (forward : dashboard.now ≤ after.now)
    (stepped : DashboardStepped config jwt dashboard ledger event after extended) :
    StoreInvariant (after, extended) := by
  cases stepped with
  | unchanged => exact invariant.later forward rfl rfl
  | loggedIn _ _ => exact invariant.later forward rfl rfl
  | admitted _ => exact invariant.later forward rfl rfl
  | opened _ => exact invariant.later forward rfl rfl
  | streamed _ _ => exact invariant.later forward rfl rfl
  | @minted time readAt request token username read waits =>
      have recent : ∀ mint ∈ ledger.mints, mint.time ≤ time :=
        fun mint member => le_trans (invariant.past mint member) forward
      refine ⟨invariant.reflects.put recent token (username, readAt + streamTokenTtl), ?_⟩
      intro mint member
      rcases List.mem_cons.mp member with rfl | earlier
      · exact le_refl time
      · exact recent mint earlier

/-- What the validation answers and how large the store is, given the tokens that were minted. -/
structure StorePromise (state : Dashboard × AuthLedger Token) : Prop where
  honours : ∀ time, state.1.now ≤ time → ∀ token,
    validateStreamToken state.1.streamTokenStore time token =
      ((ExpiringStore.latest state.2.mints token).map Prod.snd).filter fun expiresAt =>
        time < expiresAt
  bounded : ∀ mint earlier, state.2.mints = mint :: earlier →
    state.1.streamTokenStore.entries.length ≤
      1 + earlier.countP fun older => mint.time < older.stored.2

theorem StoreInvariant.promise {state : Dashboard × AuthLedger Token}
    (invariant : StoreInvariant state) : StorePromise state where
  honours time recent token := by
    have past : ∀ mint ∈ state.2.mints, mint.time ≤ time :=
      fun mint member => le_trans (invariant.past mint member) recent
    rw [validateStreamToken_eq_find, invariant.reflects.find past, Option.filter_map]
    rfl
  bounded mint earlier isSplit := by
    have reflects := invariant.reflects
    rw [isSplit] at reflects
    exact reflects.length_le

/-! ## The chain behind a stream -/

/-- The access token that a login gave, and for how long. -/
def LoginRecord.Signed (config : DashboardAuthConfig) (jwt : JwtLibrary Token)
    (login : LoginRecord Token) : Prop :=
  ∃ exp ≤ login.time + config.lifetime,
    login.accessToken = jwt.encode ⟨login.username, exp, login.time⟩ config.jwtSecret

/-- Each record goes back to one of the stage before it, and each waiting request and open stream
to its record. -/
structure ChainInvariant (config : DashboardAuthConfig) (jwt : JwtLibrary Token)
    (state : Dashboard × AuthLedger Token) : Prop where
  logins : ∀ login ∈ state.2.logins,
    login.time ≤ state.1.now ∧ login.Granted config ∧ login.Signed config jwt
  checks : ∀ check ∈ state.2.checks,
    check.time ≤ state.1.now ∧ ∃ login ∈ state.2.logins, check.Follows config login
  admitted : ∀ username ∈ state.1.admitted, ∃ check ∈ state.2.checks, check.username = username
  mints : ∀ mint ∈ state.2.mints, ∃ check ∈ state.2.checks, MintFollows mint check
  openings : ∀ opening ∈ state.2.openings, ∃ mint ∈ state.2.mints, opening.Follows mint
  streams : ∀ entry ∈ state.1.streams,
    SseInvariant entry.1 entry.2 ∧ ∃ opening ∈ state.2.openings, opening.expiresAt = entry.1

theorem chainInvariant_initial (start : ℚ) :
    ChainInvariant config jwt (Dashboard.initial start, AuthLedger.empty) where
  logins _ member := absurd member List.not_mem_nil
  checks _ member := absurd member List.not_mem_nil
  admitted _ member := absurd member List.not_mem_nil
  mints _ member := absurd member List.not_mem_nil
  openings _ member := absurd member List.not_mem_nil
  streams _ member := absurd member List.not_mem_nil

/-- Records that a step adds in front keep the ones that others go back to. -/
theorem exists_mem_cons {α : Type} {property : α → Prop} {items : List α}
    (found : ∃ item ∈ items, property item) (added : α) :
    ∃ item ∈ added :: items, property item := by
  obtain ⟨item, member, holds⟩ := found
  exact ⟨item, List.mem_cons_of_mem _ member, holds⟩

section Steps

variable (invariant : ChainInvariant config jwt (dashboard, ledger)) {time : ℚ}
  (forward : dashboard.now ≤ time)

include invariant forward

theorem ChainInvariant.later :
    ChainInvariant config jwt ({ dashboard with now := time }, ledger) where
  logins login member :=
    have known := invariant.logins login member
    ⟨le_trans known.1 forward, known.2⟩
  checks check member :=
    have known := invariant.checks check member
    ⟨le_trans known.1 forward, known.2⟩
  admitted := invariant.admitted
  mints := invariant.mints
  openings := invariant.openings
  streams := invariant.streams

theorem ChainInvariant.loggedIn {readAt : ℚ} {username password : String}
    {response : TokenResponse Token} (read : readAt ≤ time)
    (granted : login config jwt readAt time username password = .ok response) :
    ChainInvariant config jwt ({ dashboard with now := time },
      { ledger with
        logins := ⟨time, username, password, response.accessToken⟩ :: ledger.logins }) := by
  have kept := invariant.later forward
  obtain ⟨configured, sameUsername, samePassword, signed⟩ := login_eq_ok granted
  refine { kept with logins := ?_, checks := ?_ }
  · intro login member
    rcases List.mem_cons.mp member with rfl | earlier
    · exact ⟨le_refl time, ⟨configured, sameUsername, samePassword⟩,
        readAt + config.lifetime, by linarith, congrArg TokenResponse.accessToken signed⟩
    · exact kept.logins login earlier
  · intro check member
    have known := kept.checks check member
    exact ⟨known.1, exists_mem_cons known.2 _⟩

theorem ChainInvariant.admits (lawful : jwt.Lawful) {token : Token} {username : String}
    (unforged : ∃ login ∈ ledger.logins, login.accessToken = token)
    (verified : verifyToken config jwt time token = some username) :
    ChainInvariant config jwt
      ({ dashboard with now := time, admitted := dashboard.admitted ++ [username] },
        { ledger with checks := ⟨time, token, username⟩ :: ledger.checks }) := by
  have kept := invariant.later forward
  obtain ⟨login, isLogin, rfl⟩ := unforged
  obtain ⟨past, granted, exp, within, signed⟩ := kept.logins login isLogin
  rw [signed] at verified
  obtain ⟨sameUsername, unexpired⟩ := verifyToken_own lawful granted.1 verified
  refine { kept with checks := ?_, admitted := ?_, mints := ?_ }
  · intro check member
    rcases List.mem_cons.mp member with rfl | earlier
    · exact ⟨le_refl time, login, isLogin,
        ⟨rfl, sameUsername, past, lt_of_lt_of_le unexpired within⟩⟩
    · exact kept.checks check earlier
  · intro other member
    rcases List.mem_append.mp member with earlier | isNew
    · exact exists_mem_cons (kept.admitted other earlier) _
    · exact ⟨_, List.mem_cons_self, (List.mem_singleton.mp isNew).symm⟩
  · intro mint member
    exact exists_mem_cons (kept.mints mint member) _

theorem ChainInvariant.minted {readAt : ℚ} {request : Nat} {token username : String}
    (read : readAt ≤ time) (waits : dashboard.admitted[request]? = some username) :
    ChainInvariant config jwt
      ({ dashboard with
          now := time
          admitted := dashboard.admitted.eraseIdx request
          streamTokenStore :=
            mintStreamToken dashboard.streamTokenStore readAt time token username },
        { ledger with
          mints := ⟨time, token, username, readAt + streamTokenTtl⟩ :: ledger.mints }) := by
  have kept := invariant.later forward
  refine { kept with admitted := ?_, mints := ?_, openings := ?_ }
  · intro other member
    exact kept.admitted other (List.mem_of_mem_eraseIdx member)
  · intro mint member
    rcases List.mem_cons.mp member with rfl | earlier
    · obtain ⟨check, isCheck, sameUsername⟩ :=
        kept.admitted username (List.mem_of_getElem? waits)
      exact ⟨check, isCheck, ⟨sameUsername.symm, (kept.checks check isCheck).1,
        by dsimp only; linarith⟩⟩
    · exact kept.mints mint earlier
  · intro opening member
    exact exists_mem_cons (kept.openings opening member) _

theorem ChainInvariant.opened (store : StoreInvariant (dashboard, ledger)) {expiresAt : ℚ}
    {token : String}
    (valid : validateStreamToken dashboard.streamTokenStore time token = some expiresAt) :
    ChainInvariant config jwt
      ({ dashboard with
          now := time
          streams := dashboard.streams ++ [(expiresAt, SseStream.create time)] },
        { ledger with openings := ⟨time, token, expiresAt⟩ :: ledger.openings }) := by
  have kept := invariant.later forward
  refine { kept with openings := ?_, streams := ?_ }
  · intro opening member
    rcases List.mem_cons.mp member with rfl | earlier
    · rw [store.promise.honours time forward token] at valid
      obtain ⟨found, unexpired⟩ := Option.filter_eq_some_iff.mp valid
      obtain ⟨stored, wrote, rfl⟩ := Option.map_eq_some_iff.mp found
      obtain ⟨mint, isLatest, rfl⟩ := Option.map_eq_some_iff.mp wrote
      have isMint := List.mem_of_find?_eq_some isLatest
      have sameToken : mint.key = token := by simpa using List.find?_some isLatest
      exact ⟨mint, isMint, ⟨sameToken.symm, rfl, le_trans (store.past mint isMint) forward,
        by simpa using unexpired⟩⟩
    · exact kept.openings opening earlier
  · intro entry member
    rcases List.mem_append.mp member with earlier | isNew
    · obtain ⟨sse, opening⟩ := kept.streams entry earlier
      exact ⟨sse, exists_mem_cons opening _⟩
    · rw [List.mem_singleton.mp isNew]
      exact ⟨sseInvariant_create expiresAt time, _, List.mem_cons_self, rfl⟩

theorem ChainInvariant.streamed {index : Nat} {action : SseAction} {entry : ℚ × SseStream}
    {stream : SseStream} (isOpen : dashboard.streams[index]? = some entry)
    (moved : sseStep entry.1 entry.2 (time, action) = some stream) :
    ChainInvariant config jwt
      ({ dashboard with now := time, streams := dashboard.streams.set index (entry.1, stream) },
        ledger) := by
  have kept := invariant.later forward
  refine { kept with streams := ?_ }
  intro other member
  rcases List.mem_or_eq_of_mem_set member with earlier | rfl
  · exact kept.streams other earlier
  · obtain ⟨sse, opening⟩ := kept.streams entry (List.mem_of_getElem? isOpen)
    exact ⟨sse.step moved, opening⟩

end Steps

theorem ChainInvariant.stepped (invariant : ChainInvariant config jwt (dashboard, ledger))
    (store : StoreInvariant (dashboard, ledger)) (lawful : jwt.Lawful)
    (unforged : Unforged config jwt (dashboard, ledger) event)
    (forward : dashboard.now ≤ event.1)
    (stepped : DashboardStepped config jwt dashboard ledger event after extended) :
    ChainInvariant config jwt (after, extended) := by
  cases stepped with
  | unchanged => exact invariant.later forward
  | loggedIn read granted => exact invariant.loggedIn forward read granted
  | @admitted time token username verified =>
      exact invariant.admits forward lawful
        (unforged token rfl (by rw [verified]; rfl)) verified
  | minted read waits => exact invariant.minted forward read waits
  | opened valid => exact invariant.opened forward store valid
  | streamed isOpen moved => exact invariant.streamed forward isOpen moved

/-! ## Every run -/

/-- **Stream tokens.** In every run, whatever is minted, purged and opened in between, a stream
token is honoured with the expiry of its last minting and exactly until then; and the store keeps
no more than the last token and those whose expiry lay ahead when it was minted. -/
theorem stream_token_honoured (config : DashboardAuthConfig) (jwt : JwtLibrary Token) (start : ℚ)
    (events : List (DashboardEvent Token)) :
    StepSystem.Throughout (recordedDashboardStep config jwt) StorePromise
      (Dashboard.initial start, AuthLedger.empty) events := by
  have initially :
      StoreInvariant (Dashboard.initial start, (AuthLedger.empty : AuthLedger Token)) :=
    ⟨ExpiringStore.reflects_empty, fun _ member => absurd member List.not_mem_nil⟩
  have noCondition : StepSystem.Along (recordedDashboardStep config jwt) (fun _ _ => True)
      (Dashboard.initial start, AuthLedger.empty) events :=
    StepSystem.along_of_forall (fun _ _ => trivial) _ events
  have invariant : StepSystem.Throughout (recordedDashboardStep config jwt) StoreInvariant
      (Dashboard.initial start, AuthLedger.empty) events := by
    refine StepSystem.throughout_of_along ?_ initially noCondition
    intro state event next here _ step
    obtain ⟨forward, isLater, stepped⟩ := dashboardStepped_of_step step
    exact here.stepped (isLater ▸ forward) stepped
  exact StepSystem.throughout_mono (fun _ here => here.promise) invariant

/-- What is promised of the open streams. -/
def StreamsAuthorized (config : DashboardAuthConfig) (state : Dashboard × AuthLedger Token) :
    Prop :=
  ∀ entry ∈ state.1.streams,
    Authorized config state.2 entry.1 ∧ SsePromise entry.1 entry.2

/-- **Only for those who logged in.** In every run in which no client forges a bearer token, behind
every stream stand a login with the configured credentials, a check of its token within its
lifetime, a stream token that was minted after the check, and an opening before the stream token's
expiry; and after that expiry the stream sends at most one item before the auth error. -/
theorem streams_authorized (config : DashboardAuthConfig) (jwt : JwtLibrary Token) (start : ℚ)
    (events : List (DashboardEvent Token)) (lawful : jwt.Lawful)
    (unforged : StepSystem.Along (recordedDashboardStep config jwt) (Unforged config jwt)
      (Dashboard.initial start, AuthLedger.empty) events) :
    StepSystem.Throughout (recordedDashboardStep config jwt) (StreamsAuthorized config)
      (Dashboard.initial start, AuthLedger.empty) events := by
  have initially : StoreInvariant (Dashboard.initial start, (AuthLedger.empty : AuthLedger Token)) ∧
      ChainInvariant config jwt (Dashboard.initial start, AuthLedger.empty) :=
    ⟨⟨ExpiringStore.reflects_empty, fun _ member => absurd member List.not_mem_nil⟩,
      chainInvariant_initial start⟩
  have invariant : StepSystem.Throughout (recordedDashboardStep config jwt)
      (fun state => StoreInvariant state ∧ ChainInvariant config jwt state)
      (Dashboard.initial start, AuthLedger.empty) events := by
    refine StepSystem.throughout_of_along ?_ initially unforged
    intro state event next here isUnforged step
    obtain ⟨forward, isLater, stepped⟩ := dashboardStepped_of_step step
    exact ⟨here.1.stepped (isLater ▸ forward) stepped,
      here.2.stepped here.1 lawful isUnforged forward stepped⟩
  refine StepSystem.throughout_mono ?_ invariant
  rintro state ⟨-, chain⟩ entry member
  obtain ⟨sse, opening, isOpening, sameExpiry⟩ := chain.streams entry member
  obtain ⟨mint, isMint, openingFollows⟩ := chain.openings opening isOpening
  obtain ⟨check, isCheck, mintFollows⟩ := chain.mints mint isMint
  obtain ⟨-, login, isLogin, checkFollows⟩ := chain.checks check isCheck
  exact ⟨⟨login, isLogin, check, isCheck, mint, isMint, opening, isOpening,
    (chain.logins login isLogin).2.1, checkFollows, mintFollows, openingFollows, sameExpiry⟩,
    sse.promise⟩

/-! ## A client that watches -/

/-- A library whose tokens are the claims with the secret they were signed with. -/
def symbolicJwt : JwtLibrary (JwtClaims × String) where
  encode claims secret := (claims, secret)
  decode token secret now :=
    if token.2 = secret then
      if now < ⌊token.1.iat⌋ then .error .invalidToken
      else if ⌊token.1.exp⌋ ≤ now then .error .expiredSignature
      else .ok (some token.1.sub)
    else .error .invalidToken

theorem symbolicJwt_lawful : symbolicJwt.Lawful := by
  intro claims secret now _
  simp [symbolicJwt]

def adminConfig : DashboardAuthConfig := ⟨"admin", "s3cret", "key", 24⟩

/-- One forged token is refused; the one that the login gave opens a stream. -/
def watchingRun : List (DashboardEvent (JwtClaims × String)) :=
  [(1, .login "admin" "s3cret" 1), (2, .streamToken (some (⟨"admin", 99999, 1⟩, "guess"))),
    (2, .streamToken (some (⟨"admin", 86401, 1⟩, "key"))), (3, .mint 0 "stream" 3),
    (4, .openStream "stream"), (5, .stream 0 .next)]

theorem streams_authorized_watching :
    ((StepSystem.run (recordedDashboardStep adminConfig symbolicJwt)
      (Dashboard.initial 0, AuthLedger.empty) watchingRun).map fun state =>
        state.1.streams.map Prod.fst) = some [303] ∧
    StepSystem.Throughout (recordedDashboardStep adminConfig symbolicJwt)
      (StreamsAuthorized adminConfig) (Dashboard.initial 0, AuthLedger.empty) watchingRun :=
  ⟨by decide +kernel,
    streams_authorized adminConfig symbolicJwt 0 watchingRun symbolicJwt_lawful (by decide +kernel)⟩

end QuAIA.Orchestrator
