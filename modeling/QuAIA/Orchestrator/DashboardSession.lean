import QuAIA.Library.ListReplace
import QuAIA.Orchestrator.StreamAuthorization

/-!
Contract: the session of the dashboard in a browser tab (`AuthContext.tsx`, `client.ts`), against
the orchestrator that answers its requests.

Owns: what the local storage and `AuthProvider` hold; the interceptors of the API client; the
requests under way, answered and delivered in any order; and what can end a session.

Does not own: other tabs, and what is displayed. The request of a logout, which no endpoint refuses,
is left out. The browser's clock may show anything; the orchestrator's clock does not go back.
-/

set_option autoImplicit false

namespace QuAIA.Orchestrator.Ui

open QuAIA.Common
open QuAIA.Library

variable {Token : Type}

/-! ## The tab -/

/-- The items of the local storage, which are written and removed together. -/
structure StoredSession (Token : Type) where
  token : Token
  expiresAt : ℚ
  username : String

/-- `new Date(...)` of a time, in milliseconds. -/
def date (time : ℚ) : Int := ⌊1000 * time⌋

/-- `login` and `verify` of `authApi`, and any other request of the API client. -/
inductive ApiCall where
  | login (username password : String)
  | verify
  | query
deriving DecidableEq

/-- `failed` is an answer that is no refusal, or none at all. -/
inductive ApiReply (Token : Type) where
  | granted (response : TokenResponse Token)
  | verified (username : String)
  | accepted
  | unauthorized
  | failed

inductive ApiPhase (Token : Type) where
  | sent
  | answered (reply : ApiReply Token)
  | closed

/-- A request with the bearer token that the interceptor has set. The number of logins before it is
bookkeeping. -/
structure ApiRequest (Token : Type) where
  call : ApiCall
  bearer : Option Token
  session : Nat
  phase : ApiPhase Token

/-- The local storage and the state of `AuthProvider`. The effect is due after a rendering with
another token. The number of logins is bookkeeping. -/
structure SessionTab (Token : Type) where
  stored : Option (StoredSession Token)
  token : Option Token
  username : Option String
  isLoading : Bool
  effectDue : Bool
  logins : Nat

namespace SessionTab

/-- The first rendering. -/
def mounted (stored : Option (StoredSession Token)) (logins : Nat) : SessionTab Token :=
  ⟨stored, stored.map StoredSession.token, stored.map StoredSession.username, true, true, logins⟩

/-- The items are removed and the state is reset. -/
def clear (tab : SessionTab Token) : SessionTab Token :=
  { tab with
    stored := none
    token := none
    username := none
    effectDue := tab.effectDue || tab.token.isSome }

/-- `login` after its answer. -/
def loggedIn (tab : SessionTab Token) (username : String) (response : TokenResponse Token) :
    SessionTab Token :=
  { tab with
    stored := some ⟨response.accessToken, response.expiresAt, username⟩
    token := some response.accessToken
    username := some username
    effectDue := true
    logins := tab.logins + 1 }

/-- The response interceptor, then what awaits the answer. -/
def receive (tab : SessionTab Token) : ApiCall → ApiReply Token → SessionTab Token
  | .login username _, .granted response => tab.loggedIn username response
  | .verify, .verified username => { tab with username := some username, isLoading := false }
  | .verify, .unauthorized => { tab.clear with isLoading := false }
  | .verify, .failed => { tab.clear with isLoading := false }
  | _, .unauthorized => tab.clear
  | _, _ => tab

def isTokenExpired (tab : SessionTab Token) (browserNow : Int) : Bool :=
  match tab.stored with
  | none => true
  | some session => date session.expiresAt ≤ browserNow

/-- `verifyAuth` up to its request, and whether it sends one. -/
def verifyAuth (tab : SessionTab Token) (browserNow : Int) : SessionTab Token × Bool :=
  let tab := { tab with effectDue := false }
  match tab.token with
  | none => ({ tab with isLoading := false }, false)
  | some _ =>
      if tab.isTokenExpired browserNow then ({ tab.clear with isLoading := false }, false)
      else (tab, true)

/-- A request of the API client. -/
def request (tab : SessionTab Token) (call : ApiCall) : ApiRequest Token :=
  ⟨call, tab.stored.map StoredSession.token, tab.logins, .sent⟩

end SessionTab

/-! ## The tab and the orchestrator -/

/-- What the orchestrator answers at a time. -/
def ApiRequest.answer (config : DashboardAuthConfig) (jwt : JwtLibrary Token) (readAt now : ℚ)
    (request : ApiRequest Token) : ApiReply Token :=
  match request.call with
  | .login username password =>
      match login config jwt readAt now username password with
      | .ok response => .granted response
      | .error (.httpException 401 _) => .unauthorized
      | .error _ => .failed
  | .verify =>
      match dashboardAuth config jwt now request.bearer with
      | .ok username => .verified username
      | .error _ => .unauthorized
  | .query =>
      match dashboardAuth config jwt now request.bearer with
      | .ok _ => .accepted
      | .error _ => .unauthorized

/-- `now` is the orchestrator's clock. -/
structure SessionWorld (Token : Type) where
  now : ℚ
  tab : SessionTab Token
  requests : List (ApiRequest Token)

/-- `verifyAuth` is the effect, `serve` an answer that the orchestrator makes, `deliver` one that
reaches the tab, and `fail` a request that has no answer, or another error than a refusal. -/
inductive SessionAction where
  | reload
  | submit (username password : String)
  | logout
  | verifyAuth (browserNow : Int)
  | query
  | serve (index : Nat) (readAt : ℚ)
  | deliver (index : Nat)
  | fail (index : Nat)

namespace SessionWorld

def initial (start : ℚ) : SessionWorld Token := ⟨start, .mounted none 0, []⟩

def send (world : SessionWorld Token) (call : ApiCall) : SessionWorld Token :=
  { world with requests := world.requests ++ [world.tab.request call] }

/-- The answer to a request reaches the tab. -/
def settle (world : SessionWorld Token) (index : Nat) (request : ApiRequest Token)
    (reply : ApiReply Token) : SessionWorld Token :=
  { world with
    tab := world.tab.receive request.call reply
    requests := world.requests.set index { request with phase := .closed } }

def handle (config : DashboardAuthConfig) (jwt : JwtLibrary Token) (earliest : ℚ)
    (world : SessionWorld Token) : SessionAction → Option (SessionWorld Token)
  | .reload =>
      some { world with tab := .mounted world.tab.stored world.tab.logins, requests := [] }
  | .submit username password =>
      -- The login page is there only without a token.
      if world.tab.token.isNone then some (world.send (.login username password)) else none
  | .logout => some { world with tab := world.tab.clear }
  | .verifyAuth browserNow =>
      if world.tab.effectDue then
        match world.tab.verifyAuth browserNow with
        | (tab, true) => some ({ world with tab := tab }.send .verify)
        | (tab, false) => some { world with tab := tab }
      else none
  | .query => some (world.send .query)
  | .serve index readAt =>
      match world.requests[index]? with
      | some request =>
          match request.phase with
          | .sent =>
              if earliest ≤ readAt ∧ readAt ≤ world.now then
                let reply := request.answer config jwt readAt world.now
                some { world with
                  requests := world.requests.set index { request with phase := .answered reply } }
              else none
          | _ => none
      | none => none
  | .deliver index =>
      match world.requests[index]? with
      | some request =>
          match request.phase with
          | .answered reply => some (world.settle index request reply)
          | _ => none
      | none => none
  | .fail index =>
      match world.requests[index]? with
      | some request =>
          match request.phase with
          | .closed => none
          | _ => some (world.settle index request .failed)
      | none => none

def step (config : DashboardAuthConfig) (jwt : JwtLibrary Token) (world : SessionWorld Token)
    (event : ℚ × SessionAction) : Option (SessionWorld Token) :=
  if world.now ≤ event.1 then { world with now := event.1 }.handle config jwt world.now event.2
  else none

/-- What ends a session. A refusal answers a request that was sent before the session began, or it
comes after the session's expiry. -/
inductive EndsSession (world : SessionWorld Token) (session : StoredSession Token) :
    SessionAction → Prop
  | loggedOut : EndsSession world session .logout
  | expired {browserNow : Int} (isExpired : date session.expiresAt ≤ browserNow) :
      EndsSession world session (.verifyAuth browserNow)
  | unverified {index : Nat} {request : ApiRequest Token}
      (isSent : world.requests[index]? = some request) (isVerify : request.call = .verify) :
      EndsSession world session (.fail index)
  | refused {index : Nat} {request : ApiRequest Token}
      (isSent : world.requests[index]? = some request)
      (isRefused : request.phase = .answered .unauthorized)
      (stale : request.session < world.tab.logins ∨ ⌊session.expiresAt⌋ ≤ world.now) :
      EndsSession world session (.deliver index)
  | replaced {index : Nat} {request : ApiRequest Token} {username password : String}
      {response : TokenResponse Token} (isSent : world.requests[index]? = some request)
      (isLogin : request.call = .login username password)
      (isGranted : request.phase = .answered (.granted response)) :
      EndsSession world session (.deliver index)

/-- The session goes on through an event exactly if nothing ends it. -/
def SessionKept (config : DashboardAuthConfig) (jwt : JwtLibrary Token)
    (world : SessionWorld Token) (event : ℚ × SessionAction) : Prop :=
  ∀ session ∈ world.tab.stored, ∀ next, world.step config jwt event = some next →
    ((next.tab.stored = some session ∧ next.tab.logins = world.tab.logins) ↔
      ¬ EndsSession { world with now := event.1 } session event.2)

end SessionWorld

/-- The service has signed the token of the session for the configured user, and for no longer than
configured. -/
structure Issued (config : DashboardAuthConfig) (jwt : JwtLibrary Token) (now : ℚ)
    (session : StoredSession Token) : Prop where
  configured : config.isConfigured = true
  username : session.username = config.username
  signed : ∃ issuedAt ≤ now, session.expiresAt ≤ issuedAt + config.lifetime ∧
    session.token = jwt.encode ⟨config.username, session.expiresAt, issuedAt⟩ config.jwtSecret

/-- A request that was sent in the session is refused only when the session has expired. -/
structure SentIn (now : ℚ) (session : StoredSession Token) (request : ApiRequest Token) : Prop where
  bearer : request.bearer = some session.token
  noLogin : ∀ username password, request.call ≠ .login username password
  answered : ∀ reply, request.phase = .answered reply →
    (reply = .unauthorized ∧ ⌊session.expiresAt⌋ ≤ now) ∨ reply = .verified session.username ∨
      reply = .accepted

/-- The tab shows the session that is stored, and the service has given it. -/
structure TabSound (config : DashboardAuthConfig) (jwt : JwtLibrary Token) (now : ℚ)
    (tab : SessionTab Token) : Prop where
  shown : tab.token = tab.stored.map StoredSession.token
  named : ∀ session ∈ tab.stored, tab.username = some session.username
  issued : ∀ session ∈ tab.stored, Issued config jwt now session

/-- The service accepts the session until it expires. -/
structure SessionSound (config : DashboardAuthConfig) (jwt : JwtLibrary Token)
    (world : SessionWorld Token) : Prop where
  tab : TabSound config jwt world.now world.tab
  sentIn : ∀ session ∈ world.tab.stored, ∀ request ∈ world.requests,
    request.session = world.tab.logins → SentIn world.now session request

/-! ## Answers and checks in the tab -/

namespace SessionTab

variable {tab : SessionTab Token} {session : StoredSession Token} {call : ApiCall}
  {reply : ApiReply Token}

theorem receive_kept_iff (isStored : tab.stored = some session) :
    ((tab.receive call reply).stored = some session ∧
        (tab.receive call reply).logins = tab.logins) ↔
      ¬ (reply = .unauthorized ∨ (call = .verify ∧ reply = .failed) ∨
        ∃ username password response, call = .login username password ∧
          reply = .granted response) := by
  cases call <;> cases reply <;> simp [receive, clear, loggedIn, isStored]

theorem stored_of_receive (isStored : session ∈ (tab.receive call reply).stored)
    (same : (tab.receive call reply).logins = tab.logins) : tab.stored = some session := by
  cases call <;> cases reply <;> simp_all [receive, clear, loggedIn]

theorem logins_le_receive : tab.logins ≤ (tab.receive call reply).logins := by
  cases call <;> cases reply <;> simp [receive, clear, loggedIn]

theorem verifyAuth_kept_iff {browserNow : Int} (isStored : tab.stored = some session)
    (shown : tab.token = tab.stored.map StoredSession.token) :
    ((tab.verifyAuth browserNow).1.stored = some session ∧
        (tab.verifyAuth browserNow).1.logins = tab.logins) ↔
      ¬ date session.expiresAt ≤ browserNow := by
  rw [isStored] at shown
  by_cases expired : date session.expiresAt ≤ browserNow <;>
    simp [verifyAuth, isTokenExpired, isStored, shown, expired, clear]

theorem verifyAuth_cases (tab : SessionTab Token) (browserNow : Int) :
    (∃ isLoading, (tab.verifyAuth browserNow).1 =
      { tab with effectDue := false, isLoading := isLoading }) ∨
    (tab.verifyAuth browserNow).1 =
      { { tab with effectDue := false }.clear with isLoading := false } := by
  unfold verifyAuth
  dsimp only
  split
  · exact Or.inl ⟨false, rfl⟩
  · split
    · exact Or.inr rfl
    · exact Or.inl ⟨tab.isLoading, rfl⟩

theorem logins_verifyAuth (tab : SessionTab Token) (browserNow : Int) :
    (tab.verifyAuth browserNow).1.logins = tab.logins := by
  rcases tab.verifyAuth_cases browserNow with ⟨isLoading, same⟩ | cleared
  · rw [same]
  · rw [cleared]
    rfl

theorem stored_of_verifyAuth {browserNow : Int}
    (isStored : session ∈ (tab.verifyAuth browserNow).1.stored) : tab.stored = some session := by
  rcases tab.verifyAuth_cases browserNow with ⟨isLoading, same⟩ | cleared
  · rw [same] at isStored
    exact isStored
  · rw [cleared] at isStored
    cases isStored

end SessionTab

/-! ## Requests -/

/-- What a reply says is so. -/
def ReplySound (config : DashboardAuthConfig) (jwt : JwtLibrary Token) (now : ℚ) :
    ApiCall → ApiReply Token → Prop
  | .login username _, .granted response =>
      Issued config jwt now ⟨response.accessToken, response.expiresAt, username⟩
  | .verify, .verified username => username = config.username
  | _, _ => True

/-- A request that was sent before the last login may be refused at any time; it is not one of the
session. -/
structure RequestSound (config : DashboardAuthConfig) (jwt : JwtLibrary Token) (now : ℚ)
    (tab : SessionTab Token) (request : ApiRequest Token) : Prop where
  notLater : request.session ≤ tab.logins
  bearer : ∀ token ∈ request.bearer, config.isConfigured = true ∧
    ∃ exp iat, token = jwt.encode ⟨config.username, exp, iat⟩ config.jwtSecret
  reply : ∀ reply, request.phase = .answered reply → ReplySound config jwt now request.call reply
  definite : request.call = .verify → request.phase ≠ .answered .failed
  sentIn : ∀ session ∈ tab.stored, request.session = tab.logins → SentIn now session request

structure SessionInvariant (config : DashboardAuthConfig) (jwt : JwtLibrary Token)
    (world : SessionWorld Token) : Prop where
  tab : TabSound config jwt world.now world.tab
  requests : ∀ request ∈ world.requests, RequestSound config jwt world.now world.tab request

section Rules

variable {config : DashboardAuthConfig} {jwt : JwtLibrary Token} {now time : ℚ}
  {tab next : SessionTab Token} {session : StoredSession Token} {request : ApiRequest Token}
  {call : ApiCall} {reply : ApiReply Token}

theorem Issued.later (issued : Issued config jwt now session) (forward : now ≤ time) :
    Issued config jwt time session :=
  let ⟨issuedAt, past, signed⟩ := issued.signed
  { issued with signed := ⟨issuedAt, past.trans forward, signed⟩ }

theorem SentIn.later (sentIn : SentIn now session request) (forward : now ≤ time) :
    SentIn time session request where
  bearer := sentIn.bearer
  noLogin := sentIn.noLogin
  answered reply isAnswered :=
    (sentIn.answered reply isAnswered).imp_left fun refused => ⟨refused.1, refused.2.trans forward⟩

theorem ReplySound.later (sound : ReplySound config jwt now call reply) (forward : now ≤ time) :
    ReplySound config jwt time call reply := by
  unfold ReplySound at sound ⊢
  split at sound
  · exact Issued.later sound forward
  · exact sound
  · trivial

theorem TabSound.later (sound : TabSound config jwt now tab) (forward : now ≤ time) :
    TabSound config jwt time tab :=
  { sound with issued := fun session isStored => (sound.issued session isStored).later forward }

theorem tabSound_clear (tab : SessionTab Token) : TabSound config jwt now tab.clear :=
  ⟨rfl, fun _ isStored => absurd isStored (Option.not_mem_none _),
    fun _ isStored => absurd isStored (Option.not_mem_none _)⟩

/-- Only the token, the session and the name count. -/
theorem TabSound.congr (sound : TabSound config jwt now tab) (sameStored : next.stored = tab.stored)
    (sameToken : next.token = tab.token) (sameUsername : next.username = tab.username) :
    TabSound config jwt now next where
  shown := by rw [sameToken, sameStored, sound.shown]
  named session isStored := by
    rw [sameUsername]
    exact sound.named session (sameStored ▸ isStored)
  issued session isStored := sound.issued session (sameStored ▸ isStored)

theorem TabSound.verifyAuth (sound : TabSound config jwt now tab) (browserNow : Int) :
    TabSound config jwt now (tab.verifyAuth browserNow).1 := by
  rcases tab.verifyAuth_cases browserNow with ⟨isLoading, same⟩ | cleared
  · rw [same]
    exact sound.congr rfl rfl rfl
  · rw [cleared]
    exact (tabSound_clear { tab with effectDue := false }).congr rfl rfl rfl

theorem TabSound.receive (sound : TabSound config jwt now tab)
    (replied : ReplySound config jwt now call reply) :
    TabSound config jwt now (tab.receive call reply) := by
  have cleared : TabSound config jwt now { tab.clear with isLoading := false } :=
    (tabSound_clear tab).congr rfl rfl rfl
  unfold SessionTab.receive
  split
  · refine ⟨rfl, ?_, ?_⟩
    · rintro session ⟨⟩
      rfl
    · rintro session ⟨⟩
      exact replied
  · refine ⟨sound.shown, ?_, sound.issued⟩
    intro session isStored
    have isName : _ = config.username := replied
    rw [(sound.issued session isStored).username, ← isName]
  · exact cleared
  · exact cleared
  · exact tabSound_clear tab
  · exact sound

/-- A request that the tab sends now is one of its session. -/
theorem TabSound.send (sound : TabSound config jwt now tab)
    (noLogin : ∀ username password, call = .login username password → tab.token = none) :
    RequestSound config jwt now tab (tab.request call) where
  notLater := le_refl _
  bearer token isBearer := by
    obtain ⟨session, isStored, rfl⟩ := Option.map_eq_some_iff.mp isBearer
    obtain ⟨issuedAt, -, -, signed⟩ := (sound.issued session isStored).signed
    exact ⟨(sound.issued session isStored).configured, session.expiresAt, issuedAt, signed⟩
  reply _ isAnswered := nomatch isAnswered
  definite _ isAnswered := nomatch isAnswered
  sentIn session isStored _ := by
    refine ⟨congrArg (Option.map StoredSession.token) isStored, ?_, fun _ isAnswered =>
      nomatch isAnswered⟩
    intro username password isLogin
    have noToken := noLogin username password isLogin
    rw [sound.shown, isStored] at noToken
    cases noToken

theorem RequestSound.later (sound : RequestSound config jwt now tab request) (forward : now ≤ time)
    (more : tab.logins ≤ next.logins)
    (same : ∀ session ∈ next.stored, next.logins = tab.logins → tab.stored = some session) :
    RequestSound config jwt time next request where
  notLater := sound.notLater.trans more
  bearer := sound.bearer
  reply reply isAnswered := (sound.reply reply isAnswered).later forward
  definite := sound.definite
  sentIn session isStored isSent := by
    -- No request was sent in a session that has yet to begin, so there was no login.
    have sameLogins : next.logins = tab.logins :=
      le_antisymm (isSent ▸ sound.notLater) more
    exact (sound.sentIn session (same session isStored sameLogins)
      (isSent.trans sameLogins)).later forward

/-- The request is over. -/
theorem RequestSound.closed (sound : RequestSound config jwt now tab request) :
    RequestSound config jwt now tab { request with phase := .closed } where
  notLater := sound.notLater
  bearer := sound.bearer
  reply _ isAnswered := nomatch isAnswered
  definite _ isAnswered := nomatch isAnswered
  sentIn session isStored isSent :=
    have sent := sound.sentIn session isStored isSent
    ⟨sent.bearer, sent.noLogin, fun _ isAnswered => nomatch isAnswered⟩

/-! ## The answers -/

/-- The token of a session passes the check until the session expires. -/
theorem Issued.verifyToken_eq (issued : Issued config jwt now session) (lawful : jwt.Lawful) :
    verifyToken config jwt now session.token =
      if ⌊session.expiresAt⌋ ≤ now then none else some session.username := by
  obtain ⟨issuedAt, past, -, signed⟩ := issued.signed
  have notTooEarly : ¬ now < ⌊issuedAt⌋ := not_lt.mpr ((Int.floor_le issuedAt).trans past)
  rw [signed, verifyToken_encode lawful issued.configured, issued.username]
  simp only [notTooEarly, false_or]

theorem issued_of_login {readAt : ℚ} {username password : String} {response : TokenResponse Token}
    (read : readAt ≤ now)
    (granted : login config jwt readAt now username password = .ok response) :
    Issued config jwt now ⟨response.accessToken, response.expiresAt, username⟩ := by
  obtain ⟨configured, rfl, -, rfl⟩ := login_eq_ok granted
  exact ⟨configured, rfl, now, le_refl now, by linarith, rfl⟩

theorem RequestSound.replySound (sound : RequestSound config jwt now tab request)
    (lawful : jwt.Lawful) {readAt : ℚ} (read : readAt ≤ now) :
    ReplySound config jwt now request.call (request.answer config jwt readAt now) := by
  unfold ApiRequest.answer
  cases request.call with
  | login username password =>
      dsimp only
      cases granted : login config jwt readAt now username password with
      | ok response => exact issued_of_login read granted
      | error failure => split <;> trivial
  | verify =>
      dsimp only
      cases checked : dashboardAuth config jwt now request.bearer with
      | ok username =>
          obtain ⟨token, isBearer, verified⟩ := dashboardAuth_eq_ok.mp checked
          obtain ⟨configured, exp, iat, rfl⟩ := sound.bearer token isBearer
          exact (verifyToken_own lawful configured verified).1
      | error failure => trivial
  | query => split <;> trivial

theorem answer_ne_failed {readAt : ℚ} (isVerify : request.call = .verify) :
    request.answer config jwt readAt now ≠ .failed := by
  rw [ApiRequest.answer, isVerify]
  dsimp only
  split <;> simp

theorem SentIn.answer_cases (sent : SentIn now session request)
    (issued : Issued config jwt now session) (lawful : jwt.Lawful) {readAt : ℚ} :
    (request.answer config jwt readAt now = .unauthorized ∧ ⌊session.expiresAt⌋ ≤ now) ∨
      request.answer config jwt readAt now = .verified session.username ∨
      request.answer config jwt readAt now = .accepted := by
  unfold ApiRequest.answer
  rw [sent.bearer]
  cases isCall : request.call with
  | login username password => exact absurd isCall (sent.noLogin username password)
  | verify =>
      by_cases expired : ⌊session.expiresAt⌋ ≤ now <;>
        simp [dashboardAuth, issued.verifyToken_eq lawful, expired]
  | query =>
      by_cases expired : ⌊session.expiresAt⌋ ≤ now <;>
        simp [dashboardAuth, issued.verifyToken_eq lawful, expired]

/-- The orchestrator answers the request. -/
theorem RequestSound.served (sound : RequestSound config jwt now tab request)
    (ofTab : TabSound config jwt now tab) (lawful : jwt.Lawful) {readAt : ℚ} (read : readAt ≤ now) :
    RequestSound config jwt now tab
      { request with phase := .answered (request.answer config jwt readAt now) } where
  notLater := sound.notLater
  bearer := sound.bearer
  reply := by
    rintro reply ⟨⟩
    exact sound.replySound lawful read
  definite isVerify isFailed := by
    injection isFailed with isFailed
    exact answer_ne_failed isVerify isFailed
  sentIn session isStored isSent := by
    have sent := sound.sentIn session isStored isSent
    refine ⟨sent.bearer, sent.noLogin, ?_⟩
    rintro reply ⟨⟩
    exact sent.answer_cases (ofTab.issued session isStored) lawful

end Rules

/-! ## The steps -/

namespace SessionWorld

/-- The steps, at the time that the orchestrator's clock shows. -/
inductive Stepped (config : DashboardAuthConfig) (jwt : JwtLibrary Token)
    (world : SessionWorld Token) : SessionAction → SessionWorld Token → Prop
  | reloaded : Stepped config jwt world .reload
      { world with tab := .mounted world.tab.stored world.tab.logins, requests := [] }
  | submitted {username password : String} (noToken : world.tab.token = none) :
      Stepped config jwt world (.submit username password)
        (world.send (.login username password))
  | loggedOut : Stepped config jwt world .logout { world with tab := world.tab.clear }
  | decided {browserNow : Int} : Stepped config jwt world (.verifyAuth browserNow)
      { world with tab := (world.tab.verifyAuth browserNow).1 }
  | verifying {browserNow : Int} : Stepped config jwt world (.verifyAuth browserNow)
      ({ world with tab := (world.tab.verifyAuth browserNow).1 }.send .verify)
  | queried : Stepped config jwt world .query (world.send .query)
  | served {index : Nat} {request : ApiRequest Token} {readAt : ℚ}
      (isSent : world.requests[index]? = some request) (read : readAt ≤ world.now) :
      Stepped config jwt world (.serve index readAt)
        { world with
          requests := world.requests.set index
            { request with phase := .answered (request.answer config jwt readAt world.now) } }
  | delivered {index : Nat} {request : ApiRequest Token} {reply : ApiReply Token}
      (isSent : world.requests[index]? = some request)
      (isAnswered : request.phase = .answered reply) :
      Stepped config jwt world (.deliver index) (world.settle index request reply)
  | failed {index : Nat} {request : ApiRequest Token}
      (isSent : world.requests[index]? = some request) :
      Stepped config jwt world (.fail index) (world.settle index request .failed)

section Steps

variable {config : DashboardAuthConfig} {jwt : JwtLibrary Token} {world next : SessionWorld Token}
  {session : StoredSession Token} {action : SessionAction}

theorem stepped_of_step {event : ℚ × SessionAction}
    (step : world.step config jwt event = some next) :
    world.now ≤ event.1 ∧ Stepped config jwt { world with now := event.1 } event.2 next := by
  obtain ⟨time, action⟩ := event
  by_cases forward : world.now ≤ time
  swap
  · rw [SessionWorld.step, if_neg forward] at step
    cases step
  rw [SessionWorld.step, if_pos forward] at step
  refine ⟨forward, ?_⟩
  cases action with
  | reload =>
      cases step
      exact .reloaded
  | submit username password =>
      simp only [handle] at step
      split at step
      · rename_i noToken
        cases step
        exact .submitted (Option.isNone_iff_eq_none.mp noToken)
      · cases step
  | logout =>
      cases step
      exact .loggedOut
  | verifyAuth browserNow =>
      simp only [handle] at step
      split at step
      · split at step
        · rename_i tab verified
          cases step
          have isTab : (world.tab.verifyAuth browserNow).1 = tab := congrArg Prod.fst verified
          exact isTab ▸ .verifying
        · rename_i tab verified
          cases step
          have isTab : (world.tab.verifyAuth browserNow).1 = tab := congrArg Prod.fst verified
          exact isTab ▸ .decided
      · cases step
  | query =>
      cases step
      exact .queried
  | serve index readAt =>
      simp only [handle] at step
      split at step
      · rename_i request isSent
        split at step
        · split at step
          · rename_i read
            cases step
            exact .served isSent read.2
          · cases step
        · cases step
      · cases step
  | deliver index =>
      simp only [handle] at step
      split at step
      · rename_i request isSent
        split at step
        · rename_i reply isAnswered
          cases step
          exact .delivered isSent isAnswered
        · cases step
      · cases step
  | fail index =>
      simp only [handle] at step
      split at step
      · rename_i request isSent
        split at step
        · cases step
        · cases step
          exact .failed isSent
      · cases step

/-! ## Every run -/

theorem invariant_initial (start : ℚ) : SessionInvariant config jwt (initial start) where
  tab := ⟨rfl, fun _ isStored => absurd isStored (Option.not_mem_none _),
    fun _ isStored => absurd isStored (Option.not_mem_none _)⟩
  requests _ member := absurd member List.not_mem_nil

section Invariant

variable (invariant : SessionInvariant config jwt world)
include invariant

theorem invariant_later {time : ℚ} (forward : world.now ≤ time) :
    SessionInvariant config jwt { world with now := time } where
  tab := invariant.tab.later forward
  requests request member :=
    (invariant.requests request member).later forward (le_refl _) fun _ isStored _ => isStored

theorem invariant_tab {tab : SessionTab Token} (sound : TabSound config jwt world.now tab)
    (more : world.tab.logins ≤ tab.logins)
    (same : ∀ session ∈ tab.stored, tab.logins = world.tab.logins →
      world.tab.stored = some session) :
    SessionInvariant config jwt { world with tab := tab } where
  tab := sound
  requests request member :=
    (invariant.requests request member).later (le_refl _) more same

theorem invariant_send {call : ApiCall}
    (noLogin : ∀ username password, call = .login username password → world.tab.token = none) :
    SessionInvariant config jwt (world.send call) where
  tab := invariant.tab
  requests := forall_mem_concat invariant.requests (invariant.tab.send noLogin)

theorem invariant_settle {index : Nat} {request : ApiRequest Token} {reply : ApiReply Token}
    (isSent : world.requests[index]? = some request)
    (replied : ReplySound config jwt world.now request.call reply) :
    SessionInvariant config jwt (world.settle index request reply) := by
  have sound := invariant.requests request (List.mem_of_getElem? isSent)
  have closed : SessionInvariant config jwt
      { world with requests := world.requests.set index { request with phase := .closed } } :=
    ⟨invariant.tab, forall_mem_set invariant.requests sound.closed⟩
  exact invariant_tab closed (invariant.tab.receive replied) SessionTab.logins_le_receive
    fun session isStored same => SessionTab.stored_of_receive isStored same

theorem invariant_verifyAuth (browserNow : Int) :
    SessionInvariant config jwt
      { world with tab := (world.tab.verifyAuth browserNow).1 } :=
  invariant_tab invariant (invariant.tab.verifyAuth browserNow)
    (world.tab.logins_verifyAuth browserNow).ge
    fun _ isStored _ => SessionTab.stored_of_verifyAuth isStored

theorem invariant_stepped (lawful : jwt.Lawful) (stepped : Stepped config jwt world action next) :
    SessionInvariant config jwt next := by
  cases stepped with
  | reloaded =>
      refine ⟨⟨rfl, ?_, invariant.tab.issued⟩, fun _ member => absurd member List.not_mem_nil⟩
      intro session isStored
      exact congrArg (Option.map StoredSession.username) isStored
  | submitted noToken => exact invariant_send invariant fun _ _ _ => noToken
  | loggedOut =>
      exact invariant_tab invariant (tabSound_clear world.tab) (le_refl _)
        fun _ isStored _ => absurd isStored (Option.not_mem_none _)
  | decided => exact invariant_verifyAuth invariant _
  | verifying =>
      exact invariant_send (invariant_verifyAuth invariant _) fun _ _ isLogin => nomatch isLogin
  | queried => exact invariant_send invariant fun _ _ isLogin => nomatch isLogin
  | served isSent read =>
      have sound := invariant.requests _ (List.mem_of_getElem? isSent)
      exact ⟨invariant.tab, forall_mem_set invariant.requests
        (sound.served invariant.tab lawful read)⟩
  | delivered isSent isAnswered =>
      have sound := invariant.requests _ (List.mem_of_getElem? isSent)
      exact invariant_settle invariant isSent (sound.reply _ isAnswered)
  | failed isSent =>
      refine invariant_settle invariant isSent ?_
      unfold ReplySound
      split <;> trivial

/-- An answer to a request of the session refuses it only when it has expired. -/
theorem ends_deliver_iff (isStored : world.tab.stored = some session) {index : Nat}
    {request : ApiRequest Token} {reply : ApiReply Token}
    (isSent : world.requests[index]? = some request)
    (isAnswered : request.phase = .answered reply) :
    EndsSession world session (.deliver index) ↔
      reply = .unauthorized ∨ (request.call = .verify ∧ reply = .failed) ∨
        ∃ username password response, request.call = .login username password ∧
          reply = .granted response := by
  have sound := invariant.requests request (List.mem_of_getElem? isSent)
  constructor
  · intro ends
    cases ends with
    | refused isSame isRefused _ =>
        obtain rfl := Option.some.inj (isSent.symm.trans isSame)
        exact Or.inl (ApiPhase.answered.inj (isAnswered.symm.trans isRefused))
    | replaced isSame isLogin isGranted =>
        obtain rfl := Option.some.inj (isSent.symm.trans isSame)
        exact Or.inr (Or.inr ⟨_, _, _, isLogin,
          ApiPhase.answered.inj (isAnswered.symm.trans isGranted)⟩)
  · rintro (rfl | ⟨isVerify, rfl⟩ | ⟨username, password, response, isLogin, rfl⟩)
    · refine .refused isSent isAnswered ?_
      -- Either the request is older than the session, or the orchestrator has read its token.
      rcases sound.notLater.lt_or_eq with earlier | sameSession
      · exact Or.inl earlier
      · refine Or.inr ?_
        rcases (sound.sentIn session isStored sameSession).answered _ isAnswered with
          refused | verified | accepted
        · exact refused.2
        · cases verified
        · cases accepted
    · exact absurd isAnswered (sound.definite isVerify)
    · exact .replaced isSent isLogin isAnswered

theorem kept_iff (isStored : world.tab.stored = some session)
    (stepped : Stepped config jwt world action next) :
    (next.tab.stored = some session ∧ next.tab.logins = world.tab.logins) ↔
      ¬ EndsSession world session action := by
  have checks : ∀ browserNow, EndsSession world session (.verifyAuth browserNow) ↔
      date session.expiresAt ≤ browserNow :=
    fun browserNow => ⟨fun | .expired isExpired => isExpired, .expired⟩
  cases stepped with
  | reloaded => exact iff_of_true ⟨isStored, rfl⟩ (fun ends => nomatch ends)
  | submitted noToken => exact iff_of_true ⟨isStored, rfl⟩ (fun ends => nomatch ends)
  | loggedOut => exact iff_of_false (fun kept => nomatch kept.1) (not_not_intro .loggedOut)
  | decided =>
      rw [checks]
      exact SessionTab.verifyAuth_kept_iff isStored invariant.tab.shown
  | verifying =>
      rw [checks]
      exact SessionTab.verifyAuth_kept_iff isStored invariant.tab.shown
  | queried => exact iff_of_true ⟨isStored, rfl⟩ (fun ends => nomatch ends)
  | served isSent read => exact iff_of_true ⟨isStored, rfl⟩ (fun ends => nomatch ends)
  | delivered isSent isAnswered =>
      rw [ends_deliver_iff invariant isStored isSent isAnswered]
      exact SessionTab.receive_kept_iff isStored
  | @failed index request isSent =>
      have ends : EndsSession world session (.fail index) ↔ request.call = .verify := by
        constructor
        · rintro (_ | _ | ⟨isSame, isVerify⟩)
          obtain rfl := Option.some.inj (isSent.symm.trans isSame)
          exact isVerify
        · exact .unverified isSent
      rw [ends]
      refine (SessionTab.receive_kept_iff isStored).trans (not_congr ?_)
      simp

end Invariant

/-- **A session goes on.** In every run of the tab and the orchestrator, with requests answered,
delivered and lost in any order and whatever the browser's clock shows: a session that is stored was
given by the service, and is what the tab shows; its requests are accepted until it expires; and it
goes on through an event exactly if the event is no logout, no delivery of another login's token or
of a refusal, no failure of a verification, and no check after its expiry. A refusal is that of a
request of an earlier session, unless the session has expired. -/
theorem session_kept (lawful : jwt.Lawful) (start : ℚ) (events : List (ℚ × SessionAction)) :
    StepSystem.Throughout (step config jwt) (SessionSound config jwt) (initial start) events ∧
      StepSystem.Along (step config jwt) (SessionKept config jwt) (initial start) events := by
  have preserved : ∀ world event next, SessionInvariant config jwt world → True →
      step config jwt world event = some next → SessionInvariant config jwt next := by
    intro world event next invariant _ step
    obtain ⟨forward, stepped⟩ := stepped_of_step step
    exact invariant_stepped (invariant_later invariant forward) lawful stepped
  have noCondition : StepSystem.Along (step config jwt) (fun _ _ => True) (initial start) events :=
    StepSystem.along_of_forall (fun _ _ => trivial) _ events
  constructor
  · refine StepSystem.throughout_mono ?_
      (StepSystem.throughout_of_along preserved (invariant_initial start) noCondition)
    intro world invariant
    refine ⟨invariant.tab, ?_⟩
    intro session isStored request member isSent
    exact (invariant.requests request member).sentIn session isStored isSent
  · refine StepSystem.along_of_invariant preserved ?_ (invariant_initial start) noCondition
    intro world event invariant _ session isStored next step
    obtain ⟨forward, stepped⟩ := stepped_of_step step
    exact kept_iff (invariant_later invariant forward) isStored stepped

end Steps

/-- A query is sent when the session is about to expire. The user logs out and in again before the
orchestrator refuses it, and the refusal ends the new session. -/
def lateRefusal : List (ℚ × SessionAction) :=
  [(1, .verifyAuth 1000), (1, .submit "admin" "s3cret"), (1, .serve 0 1), (1, .deliver 0),
    (2, .verifyAuth 2000), (2, .serve 1 2), (3, .deliver 1), (86400, .query), (86400, .logout),
    (86400, .submit "admin" "s3cret"), (86401, .serve 3 86401), (86401, .deliver 3),
    (86402, .serve 2 86402)]

theorem session_kept_lateRefusal :
    (StepSystem.run (step adminConfig symbolicJwt) (initial 0) lateRefusal).map
        (fun world => world.tab.stored.map StoredSession.expiresAt) = some (some 172801) ∧
      (StepSystem.run (step adminConfig symbolicJwt) (initial 0)
        (lateRefusal ++ [(86403, .deliver 2)])).map (fun world => world.tab.stored.isSome) =
          some false ∧
      StepSystem.Along (step adminConfig symbolicJwt) (SessionKept adminConfig symbolicJwt)
        (initial 0) (lateRefusal ++ [(86403, .deliver 2)]) :=
  ⟨by decide +kernel, by decide +kernel, (session_kept symbolicJwt_lawful 0 _).2⟩

end SessionWorld

end QuAIA.Orchestrator.Ui
