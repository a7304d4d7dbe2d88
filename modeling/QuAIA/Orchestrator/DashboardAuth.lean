import Mathlib.Data.Rat.Floor
import QuAIA.Common.ServiceKeys
import QuAIA.Library.ExpiringStore
import QuAIA.Library.Fallible
import QuAIA.Orchestrator.SseStream

/-!
Contract: who may watch the dashboard's event streams (`auth.py` and the stream tokens of
`main.py`).

Owns: logins and the tokens they give; the check of a bearer token; the store of stream tokens with
its purge; the endpoints that mint a stream token and open a stream, interleaved at their
suspension points; and that behind every stream stands a login with the configured credentials.

Does not own: signatures. Tokens of the JWT library are of any type; the rules ask that the library
reads its own tokens back, and that clients present no others that it accepts. Times are readings
of one clock, in seconds.
-/

set_option autoImplicit false

namespace QuAIA.Orchestrator

open QuAIA.Common
open QuAIA.Library

variable {Token : Type}

/-! ## Logins -/

/-- `config.DashboardAuthConfig`; a variable that is not set is the empty text. -/
structure DashboardAuthConfig where
  username : String
  password : String
  jwtSecret : String
  jwtExpireHours : Int

namespace DashboardAuthConfig

def isConfigured (config : DashboardAuthConfig) : Bool :=
  config.username ≠ "" && config.password ≠ "" && config.jwtSecret ≠ ""

/-- `timedelta(hours=...)`. -/
def lifetime (config : DashboardAuthConfig) : ℚ := 3600 * config.jwtExpireHours

end DashboardAuthConfig

/-- The claims of `create_token`. -/
structure JwtClaims where
  sub : String
  exp : ℚ
  iat : ℚ
deriving DecidableEq

inductive JwtFailure where
  | expiredSignature
  | invalidToken
deriving DecidableEq

/-- The `jwt` package: `decode` checks a token at a time and gives its `sub`. -/
structure JwtLibrary (Token : Type) where
  encode : JwtClaims → String → Token
  decode : Token → String → ℚ → Except JwtFailure (Option String)

/-- A token is read back from the second it was issued in and until the second it expires in. -/
def JwtLibrary.Lawful (jwt : JwtLibrary Token) : Prop :=
  ∀ claims secret now, secret ≠ "" → jwt.decode (jwt.encode claims secret) secret now =
    if now < ⌊claims.iat⌋ then .error .invalidToken
    else if ⌊claims.exp⌋ ≤ now then .error .expiredSignature
    else .ok (some claims.sub)

structure TokenResponse (Token : Type) where
  accessToken : Token
  expiresAt : ℚ

/-- `AuthService.authenticate`. -/
def authenticate (config : DashboardAuthConfig) (username password : String) :
    Except PyError Bool :=
  if config.isConfigured then do
    let usernameOk ← compareDigest username config.username
    let passwordOk ← compareDigest password config.password
    pure (usernameOk && passwordOk)
  else .ok false

/-- `AuthService.create_token`, which reads the clock for the expiry and once more for `iat`. -/
def createToken (config : DashboardAuthConfig) (jwt : JwtLibrary Token) (readAt now : ℚ)
    (username : String) : Except PyError (TokenResponse Token) :=
  if config.isConfigured then
    let expiresAt := readAt + config.lifetime
    .ok ⟨jwt.encode ⟨username, expiresAt, now⟩ config.jwtSecret, expiresAt⟩
  else .error (.httpException 503 "Authentication is not configured.")

/-- The endpoint `login`. -/
def login (config : DashboardAuthConfig) (jwt : JwtLibrary Token) (readAt now : ℚ)
    (username password : String) : Except PyError (TokenResponse Token) := do
  if ← authenticate config username password then createToken config jwt readAt now username
  else .error (.httpException 401 "Invalid username or password")

/-- `AuthService.verify_token`. -/
def verifyToken (config : DashboardAuthConfig) (jwt : JwtLibrary Token) (now : ℚ)
    (token : Token) : Option String :=
  if config.jwtSecret = "" then none
  else
    match jwt.decode token config.jwtSecret now with
    | .ok sub => sub
    | .error _ => none

/-- `DashboardAuthBearer.__call__`; without a bearer header the base class raises. -/
def dashboardAuth (config : DashboardAuthConfig) (jwt : JwtLibrary Token) (now : ℚ)
    (credentials : Option Token) : Except PyError String :=
  match credentials with
  | none => .error (.httpException 401 "Not authenticated")
  | some token =>
      match verifyToken config jwt now token with
      | none => .error (.httpException 401 "Invalid or expired token")
      | some username => .ok username

/-! ## Stream tokens -/

/-- `_STREAM_TOKEN_TTL`. -/
def streamTokenTtl : ℚ := 300

/-- `_mint_stream_token`: the expiry is computed before the lock is taken, and the clock is read
again under it. -/
def mintStreamToken (store : Dict String (String × ℚ)) (readAt now : ℚ) (token username : String) :
    Dict String (String × ℚ) :=
  ExpiringStore.put store now token (username, readAt + streamTokenTtl)

/-- `_validate_stream_token`. -/
def validateStreamToken (store : Dict String (String × ℚ)) (now : ℚ) (token : String) : Option ℚ :=
  match store.get? token with
  | none => none
  | some (_, expiresAt) => if now < expiresAt then some expiresAt else none

/-! ## The endpoints, interleaved -/

/-- The stream tokens, the requests for one that have passed `dashboard_auth` and wait for their
handler, and the open streams with the expiry each was opened with. -/
structure Dashboard where
  now : ℚ
  streamTokenStore : Dict String (String × ℚ)
  admitted : List String
  streams : List (ℚ × SseStream)

/-- What clients ask for, and the segments that follow. A minted token is what
`secrets.token_urlsafe` gave. -/
inductive DashboardRequest (Token : Type) where
  | login (username password : String) (readAt : ℚ)
  | streamToken (credentials : Option Token)
  | mint (request : Nat) (token : String) (readAt : ℚ)
  | openStream (token : String)
  | stream (index : Nat) (action : SseAction)

abbrev DashboardEvent (Token : Type) := ℚ × DashboardRequest Token

namespace Dashboard

def initial (start : ℚ) : Dashboard := ⟨start, .empty, [], []⟩

/-- The segment of a request at a time; a refused request changes nothing. -/
def handle (config : DashboardAuthConfig) (jwt : JwtLibrary Token) (dashboard : Dashboard)
    (now : ℚ) : DashboardRequest Token → Option Dashboard
  | .login _ _ readAt =>
      if dashboard.now ≤ readAt ∧ readAt ≤ now then some { dashboard with now := now } else none
  | .streamToken credentials =>
      match dashboardAuth config jwt now credentials with
      | .ok username =>
          some { dashboard with now := now, admitted := dashboard.admitted ++ [username] }
      | .error _ => some { dashboard with now := now }
  | .mint request token readAt =>
      if dashboard.now ≤ readAt ∧ readAt ≤ now then
        (dashboard.admitted[request]?).map fun username =>
          { dashboard with
            now := now
            admitted := dashboard.admitted.eraseIdx request
            streamTokenStore :=
              mintStreamToken dashboard.streamTokenStore readAt now token username }
      else none
  | .openStream token =>
      match validateStreamToken dashboard.streamTokenStore now token with
      | some expiresAt =>
          some { dashboard with
            now := now
            streams := dashboard.streams ++ [(expiresAt, SseStream.create now)] }
      | none => some { dashboard with now := now }
  | .stream index action =>
      (dashboard.streams[index]?).bind fun entry =>
        (sseStep entry.1 entry.2 (now, action)).map fun stream =>
          { dashboard with now := now, streams := dashboard.streams.set index (entry.1, stream) }

def step (config : DashboardAuthConfig) (jwt : JwtLibrary Token) (dashboard : Dashboard)
    (event : DashboardEvent Token) : Option Dashboard :=
  if dashboard.now ≤ event.1 then dashboard.handle config jwt event.1 event.2 else none

end Dashboard

/-! ## What happened -/

structure LoginRecord (Token : Type) where
  time : ℚ
  username : String
  password : String
  accessToken : Token

/-- A request that passed `dashboard_auth`. -/
structure CheckRecord (Token : Type) where
  time : ℚ
  credentials : Token
  username : String

structure OpeningRecord where
  time : ℚ
  token : String
  expiresAt : ℚ

/-- The logins that gave a token, the checks that passed, the stream tokens that were minted with
the newest first, and the streams that were opened. -/
structure AuthLedger (Token : Type) where
  logins : List (LoginRecord Token)
  checks : List (CheckRecord Token)
  mints : List (ExpiringStore.Write String String ℚ)
  openings : List OpeningRecord

namespace AuthLedger

def empty : AuthLedger Token := ⟨[], [], [], []⟩

def record (config : DashboardAuthConfig) (jwt : JwtLibrary Token) (dashboard : Dashboard)
    (event : DashboardEvent Token) (_ : Dashboard) (ledger : AuthLedger Token) :
    AuthLedger Token :=
  match event.2 with
  | .login username password readAt =>
      match login config jwt readAt event.1 username password with
      | .ok response =>
          { ledger with
            logins := ⟨event.1, username, password, response.accessToken⟩ :: ledger.logins }
      | .error _ => ledger
  | .streamToken credentials =>
      match credentials, dashboardAuth config jwt event.1 credentials with
      | some token, .ok username =>
          { ledger with checks := ⟨event.1, token, username⟩ :: ledger.checks }
      | _, _ => ledger
  | .mint request token readAt =>
      match dashboard.admitted[request]? with
      | some username =>
          { ledger with
            mints := ⟨event.1, token, username, readAt + streamTokenTtl⟩ :: ledger.mints }
      | none => ledger
  | .openStream token =>
      match validateStreamToken dashboard.streamTokenStore event.1 token with
      | some expiresAt =>
          { ledger with openings := ⟨event.1, token, expiresAt⟩ :: ledger.openings }
      | none => ledger
  | .stream _ _ => ledger

end AuthLedger

/-- The dashboard beside its ledger. -/
def recordedDashboardStep (config : DashboardAuthConfig) (jwt : JwtLibrary Token) :
    Dashboard × AuthLedger Token → DashboardEvent Token → Option (Dashboard × AuthLedger Token) :=
  StepSystem.observed (Dashboard.step config jwt) (AuthLedger.record config jwt)

/-- The bearer token that a request presents. -/
def DashboardRequest.credentials : DashboardRequest Token → Option Token
  | .streamToken credentials => credentials
  | _ => none

/-- A bearer token that the library accepts was given by a login. -/
def Unforged (config : DashboardAuthConfig) (jwt : JwtLibrary Token)
    (state : Dashboard × AuthLedger Token) (event : DashboardEvent Token) : Prop :=
  ∀ token ∈ event.2.credentials, (verifyToken config jwt event.1 token).isSome →
    ∃ login ∈ state.2.logins, login.accessToken = token

instance [DecidableEq Token] (config : DashboardAuthConfig) (jwt : JwtLibrary Token)
    (state : Dashboard × AuthLedger Token) (event : DashboardEvent Token) :
    Decidable (Unforged config jwt state event) :=
  inferInstanceAs (Decidable (∀ token ∈ event.2.credentials, _ → _))

/-- A login with the configured credentials. -/
def LoginRecord.Granted (config : DashboardAuthConfig) (login : LoginRecord Token) : Prop :=
  config.isConfigured = true ∧ login.username = config.username ∧
    login.password = config.password

/-- The check passed with the token of the login, within its lifetime. -/
structure CheckRecord.Follows (config : DashboardAuthConfig) (check : CheckRecord Token)
    (login : LoginRecord Token) : Prop where
  credentials : check.credentials = login.accessToken
  username : check.username = login.username
  after : login.time ≤ check.time
  within : check.time < login.time + config.lifetime

/-- The stream token was minted for a request that had passed the check; it is valid for no longer
than its lifetime. -/
structure MintFollows (mint : ExpiringStore.Write String String ℚ) (check : CheckRecord Token) :
    Prop where
  username : mint.stored.1 = check.username
  after : check.time ≤ mint.time
  expiry : mint.stored.2 ≤ mint.time + streamTokenTtl

/-- The stream was opened with the stream token, before it expired. -/
structure OpeningRecord.Follows (opening : OpeningRecord)
    (mint : ExpiringStore.Write String String ℚ) : Prop where
  token : opening.token = mint.key
  expiresAt : opening.expiresAt = mint.stored.2
  after : mint.time ≤ opening.time
  within : opening.time < mint.stored.2

/-- Behind a stream with this expiry stand an opening, a stream token, a check and a login. -/
def Authorized (config : DashboardAuthConfig) (ledger : AuthLedger Token) (expiresAt : ℚ) : Prop :=
  ∃ login ∈ ledger.logins, ∃ check ∈ ledger.checks, ∃ mint ∈ ledger.mints,
    ∃ opening ∈ ledger.openings, login.Granted config ∧ check.Follows config login ∧
      MintFollows mint check ∧ opening.Follows mint ∧ opening.expiresAt = expiresAt

/-! ## The functions -/

/-- A login is granted only with the configured credentials, and its token carries them. -/
theorem login_eq_ok {config : DashboardAuthConfig} {jwt : JwtLibrary Token} {readAt now : ℚ}
    {username password : String} {response : TokenResponse Token}
    (granted : login config jwt readAt now username password = .ok response) :
    config.isConfigured = true ∧ username = config.username ∧ password = config.password ∧
      response = ⟨jwt.encode ⟨username, readAt + config.lifetime, now⟩ config.jwtSecret,
        readAt + config.lifetime⟩ := by
  obtain ⟨accepted, isAccepted, answered⟩ := Fallible.bind_eq_ok_iff.mp granted
  cases accepted with
  | false => cases answered
  | true =>
      by_cases configured : config.isConfigured = true
      · rw [authenticate, if_pos configured] at isAccepted
        obtain ⟨usernameOk, first, rest⟩ := Fallible.bind_eq_ok_iff.mp isAccepted
        obtain ⟨passwordOk, second, both⟩ := Fallible.bind_eq_ok_iff.mp rest
        have bothOk : (usernameOk && passwordOk) = true := Except.ok.inj both
        rw [compareDigest_eq_ok first, compareDigest_eq_ok second, Bool.and_eq_true,
          decide_eq_true_eq, decide_eq_true_eq] at bothOk
        rw [if_pos rfl, createToken, if_pos configured] at answered
        exact ⟨configured, bothOk.1, bothOk.2, (Except.ok.inj answered).symm⟩
      · rw [authenticate, if_neg configured] at isAccepted
        cases isAccepted

theorem DashboardAuthConfig.jwtSecret_ne {config : DashboardAuthConfig}
    (configured : config.isConfigured = true) : config.jwtSecret ≠ "" := by
  simp only [isConfigured, Bool.and_eq_true, decide_eq_true_eq] at configured
  exact configured.2

/-- A token that the service signed passes the check from its `iat` to its expiry. -/
theorem verifyToken_encode {config : DashboardAuthConfig} {jwt : JwtLibrary Token}
    (lawful : jwt.Lawful) (configured : config.isConfigured = true) (claims : JwtClaims) (now : ℚ) :
    verifyToken config jwt now (jwt.encode claims config.jwtSecret) =
      if now < ⌊claims.iat⌋ ∨ ⌊claims.exp⌋ ≤ now then none else some claims.sub := by
  have isSet := DashboardAuthConfig.jwtSecret_ne configured
  rw [verifyToken, if_neg isSet, lawful claims config.jwtSecret now isSet]
  by_cases tooEarly : now < ⌊claims.iat⌋
  · rw [if_pos tooEarly, if_pos (Or.inl tooEarly)]
  · by_cases expired : ⌊claims.exp⌋ ≤ now
    · rw [if_neg tooEarly, if_pos expired, if_pos (Or.inr expired)]
    · rw [if_neg tooEarly, if_neg expired, if_neg (not_or.mpr ⟨tooEarly, expired⟩)]

/-- A token that a login gave passes the check for its user, within its lifetime. -/
theorem verifyToken_own {config : DashboardAuthConfig} {jwt : JwtLibrary Token}
    (lawful : jwt.Lawful) (configured : config.isConfigured = true) {claims : JwtClaims} {now : ℚ}
    {username : String}
    (verified : verifyToken config jwt now (jwt.encode claims config.jwtSecret) = some username) :
    username = claims.sub ∧ now < claims.exp := by
  rw [verifyToken_encode lawful configured] at verified
  by_cases refused : now < ⌊claims.iat⌋ ∨ ⌊claims.exp⌋ ≤ now
  · rw [if_pos refused] at verified
    cases verified
  · rw [if_neg refused] at verified
    have unexpired : now < ⌊claims.exp⌋ := not_le.mp (not_or.mp refused).2
    exact ⟨(Option.some.inj verified).symm, lt_of_lt_of_le unexpired (Int.floor_le _)⟩

theorem dashboardAuth_eq_ok {config : DashboardAuthConfig} {jwt : JwtLibrary Token} {now : ℚ}
    {credentials : Option Token} {username : String} :
    dashboardAuth config jwt now credentials = .ok username ↔
      ∃ token, credentials = some token ∧ verifyToken config jwt now token = some username := by
  cases credentials with
  | none => simp [dashboardAuth]
  | some token =>
      cases verified : verifyToken config jwt now token <;> simp [dashboardAuth, verified]

/-- The validation is a read of the store. -/
theorem validateStreamToken_eq_find (store : Dict String (String × ℚ)) (now : ℚ) (token : String) :
    validateStreamToken store now token = (ExpiringStore.find store now token).map Prod.snd := by
  unfold validateStreamToken ExpiringStore.find
  cases found : store.get? token with
  | none => rfl
  | some stored => by_cases unexpired : now < stored.2 <;> simp [Option.filter, unexpired]

/-! ## The steps -/

/-- The steps, each with what it found. -/
inductive DashboardStepped (config : DashboardAuthConfig) (jwt : JwtLibrary Token)
    (dashboard : Dashboard) (ledger : AuthLedger Token) :
    DashboardEvent Token → Dashboard → AuthLedger Token → Prop
  | unchanged {time : ℚ} {request : DashboardRequest Token} :
      DashboardStepped config jwt dashboard ledger (time, request)
        { dashboard with now := time } ledger
  | loggedIn {time readAt : ℚ} {username password : String} {response : TokenResponse Token}
      (read : readAt ≤ time)
      (granted : login config jwt readAt time username password = .ok response) :
      DashboardStepped config jwt dashboard ledger (time, .login username password readAt)
        { dashboard with now := time }
        { ledger with
          logins := ⟨time, username, password, response.accessToken⟩ :: ledger.logins }
  | admitted {time : ℚ} {token : Token} {username : String}
      (verified : verifyToken config jwt time token = some username) :
      DashboardStepped config jwt dashboard ledger (time, .streamToken (some token))
        { dashboard with now := time, admitted := dashboard.admitted ++ [username] }
        { ledger with checks := ⟨time, token, username⟩ :: ledger.checks }
  | minted {time readAt : ℚ} {request : Nat} {token username : String}
      (read : readAt ≤ time) (waits : dashboard.admitted[request]? = some username) :
      DashboardStepped config jwt dashboard ledger (time, .mint request token readAt)
        { dashboard with
          now := time
          admitted := dashboard.admitted.eraseIdx request
          streamTokenStore :=
            mintStreamToken dashboard.streamTokenStore readAt time token username }
        { ledger with
          mints := ⟨time, token, username, readAt + streamTokenTtl⟩ :: ledger.mints }
  | opened {time expiresAt : ℚ} {token : String}
      (valid : validateStreamToken dashboard.streamTokenStore time token = some expiresAt) :
      DashboardStepped config jwt dashboard ledger (time, .openStream token)
        { dashboard with
          now := time
          streams := dashboard.streams ++ [(expiresAt, SseStream.create time)] }
        { ledger with openings := ⟨time, token, expiresAt⟩ :: ledger.openings }
  | streamed {time : ℚ} {index : Nat} {action : SseAction} {entry : ℚ × SseStream}
      {stream : SseStream} (isOpen : dashboard.streams[index]? = some entry)
      (moved : sseStep entry.1 entry.2 (time, action) = some stream) :
      DashboardStepped config jwt dashboard ledger (time, .stream index action)
        { dashboard with now := time, streams := dashboard.streams.set index (entry.1, stream) }
        ledger

section Steps

variable {config : DashboardAuthConfig} {jwt : JwtLibrary Token}
  {state next : Dashboard × AuthLedger Token} {event : DashboardEvent Token}

theorem dashboardStepped_of_step (step : recordedDashboardStep config jwt state event = some next) :
    state.1.now ≤ event.1 ∧ next.1.now = event.1 ∧
      DashboardStepped config jwt state.1 state.2 event next.1 next.2 := by
  obtain ⟨dashboard, ledger⟩ := state
  obtain ⟨time, request⟩ := event
  obtain ⟨after, recorded⟩ := next
  obtain ⟨moved, isRecorded⟩ := StepSystem.observed_eq_some.mp step
  dsimp only at moved isRecorded ⊢
  subst isRecorded
  by_cases forward : dashboard.now ≤ time
  swap
  · rw [Dashboard.step, if_neg forward] at moved
    cases moved
  rw [Dashboard.step, if_pos forward] at moved
  refine ⟨forward, ?_⟩
  cases request with
  | login username password readAt =>
      by_cases read : dashboard.now ≤ readAt ∧ readAt ≤ time
      · rw [Dashboard.handle, if_pos read] at moved
        cases moved
        refine ⟨rfl, ?_⟩
        cases granted : login config jwt readAt time username password with
        | error _ => simpa [AuthLedger.record, granted] using DashboardStepped.unchanged
        | ok response =>
            simpa [AuthLedger.record, granted] using DashboardStepped.loggedIn read.2 granted
      · rw [Dashboard.handle, if_neg read] at moved
        cases moved
  | streamToken credentials =>
      cases checked : dashboardAuth config jwt time credentials with
      | error _ =>
          simp only [Dashboard.handle, checked, Option.some.injEq] at moved
          subst moved
          cases credentials <;>
            simpa [AuthLedger.record, checked] using DashboardStepped.unchanged
      | ok username =>
          obtain ⟨token, rfl, verified⟩ := dashboardAuth_eq_ok.mp checked
          simp only [Dashboard.handle, checked, Option.some.injEq] at moved
          subst moved
          simpa [AuthLedger.record, checked] using DashboardStepped.admitted verified
  | mint request token readAt =>
      by_cases read : dashboard.now ≤ readAt ∧ readAt ≤ time
      · rw [Dashboard.handle, if_pos read] at moved
        obtain ⟨username, waits, rfl⟩ := Option.map_eq_some_iff.mp moved
        simpa [AuthLedger.record, waits] using DashboardStepped.minted read.2 waits
      · rw [Dashboard.handle, if_neg read] at moved
        cases moved
  | openStream token =>
      cases valid : validateStreamToken dashboard.streamTokenStore time token with
      | none =>
          simp only [Dashboard.handle, valid, Option.some.injEq] at moved
          subst moved
          simpa [AuthLedger.record, valid] using DashboardStepped.unchanged
      | some expiresAt =>
          simp only [Dashboard.handle, valid, Option.some.injEq] at moved
          subst moved
          simpa [AuthLedger.record, valid] using DashboardStepped.opened valid
  | stream index action =>
      obtain ⟨entry, isOpen, streamed⟩ := Option.bind_eq_some_iff.mp moved
      obtain ⟨stream, stepped, rfl⟩ := Option.map_eq_some_iff.mp streamed
      exact ⟨rfl, DashboardStepped.streamed isOpen stepped⟩

end Steps

end QuAIA.Orchestrator
