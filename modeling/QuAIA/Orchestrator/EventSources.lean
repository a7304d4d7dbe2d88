import QuAIA.Library.ListReplace
import QuAIA.Library.StepSystem

/-!
Contract: the event streams of the dashboard in a browser tab (`useSseEvents`, `getStreamToken`).

Owns: the effects that are mounted, each with its variables and with what it has left behind in the
browser (calls that await a token, timers, open event sources); the token that they share; and
that, in every order of these, an effect has one connection, one attempt or one timer until it is
cleaned up, and no connection afterwards.

Does not own: what the events carry. A closed event source fires no event, and React cleans an
effect up once.
-/

set_option autoImplicit false

namespace QuAIA.Orchestrator.Ui

open QuAIA.Library

/-! ## The token -/

/-- `_cached`, with the milliseconds of `Date`. -/
structure CachedToken where
  token : String
  expiresAt : Int
deriving DecidableEq

/-- A call of `getStreamToken`: its request is under way, or its promise has resolved. -/
inductive TokenRequest where
  | posting
  | resolved (token : String)
deriving DecidableEq

/-- `getStreamToken` up to its first suspension. -/
def getStreamToken (cached : Option CachedToken) (now : Int) : TokenRequest :=
  match cached with
  | some cached => if cached.expiresAt - now > 30000 then .resolved cached.token else .posting
  | none => .posting

/-! ## One effect -/

def initialRetryDelay : Nat := 1000

/-- `MAX_RETRY_DELAY_MS`. -/
def maxRetryDelayMs : Nat := 30000

structure EventSource where
  id : Nat
  token : String
deriving DecidableEq

/-- The variables `es`, `retryDelay` and `cancelled` of an effect, and what it has in the browser.
The numbers of sources opened, and of failures since the last event, are bookkeeping. -/
structure SseClient where
  es : Option EventSource
  retryDelay : Nat
  cancelled : Bool
  requests : List TokenRequest
  timers : List Nat
  sources : List EventSource
  opened : Nat
  failures : Nat
deriving DecidableEq

namespace SseClient

def new : SseClient := ⟨none, initialRetryDelay, false, [], [], [], 0, 0⟩

/-- `connect` up to its suspension. -/
def connect (client : SseClient) (cached : Option CachedToken) (now : Int) : SseClient :=
  if client.cancelled then client
  else { client with requests := client.requests ++ [getStreamToken cached now] }

/-- `es?.close()`. -/
def close (client : SseClient) : SseClient :=
  match client.es with
  | some es => { client with sources := client.sources.filter fun source => source.id ≠ es.id }
  | none => client

/-- The timer of the next attempt, with the doubled delay for the one after it. -/
def scheduleRetry (client : SseClient) : SseClient :=
  if client.cancelled then client
  else { client with
    timers := client.timers ++ [client.retryDelay]
    retryDelay := min (client.retryDelay * 2) maxRetryDelayMs
    failures := client.failures + 1 }

/-- `connect` after the token was obtained. -/
def openSource (client : SseClient) (token : String) : SseClient :=
  if client.cancelled then client
  else
    let source : EventSource := ⟨client.opened, token⟩
    { client with
      es := some source
      sources := client.sources ++ [source]
      opened := client.opened + 1 }

/-- The handlers of `auth_error` and of `onerror`. -/
def lost (client : SseClient) : SseClient :=
  { client.close with es := none }.scheduleRetry

/-- The handler of a named event. -/
def received (client : SseClient) : SseClient :=
  { client with retryDelay := initialRetryDelay, failures := 0 }

/-- The function that the effect returns. -/
def cleanUp (client : SseClient) : SseClient :=
  { client with cancelled := true }.close

end SseClient

/-! ## The tab -/

/-- The effects in the order of their mounting. The tokens that were minted, and those that a
server has declared expired, are bookkeeping. -/
structure SseTab where
  cached : Option CachedToken
  clients : List SseClient
  minted : List String
  expired : List String
deriving DecidableEq

inductive TabEvent where
  | mounted (now : Int)
  | posted (client request : Nat) (token : String) (expiresAt : Int)
  | postFailed (client request : Nat)
  | resumed (client request : Nat)
  | message (client source : Nat)
  | authError (client source : Nat)
  | failed (client source : Nat)
  | fired (client timer : Nat) (now : Int)
  | unmounted (client : Nat)
deriving DecidableEq

namespace SseTab

def initial : SseTab := ⟨none, [], [], []⟩

def update (tab : SseTab) (index : Nat) (client : SseClient) : SseTab :=
  { tab with clients := tab.clients.set index client }

def step (tab : SseTab) : TabEvent → Option SseTab
  | .mounted now =>
      some { tab with clients := tab.clients ++ [SseClient.new.connect tab.cached now] }
  | .posted index request token expiresAt => do
      let client ← tab.clients[index]?
      match client.requests[request]? with
      | some .posting =>
          let requests := client.requests.set request (.resolved token)
          let tab := { tab with cached := some ⟨token, expiresAt⟩, minted := tab.minted ++ [token] }
          return tab.update index { client with requests := requests }
      | _ => none
  | .postFailed index request => do
      let client ← tab.clients[index]?
      match client.requests[request]? with
      | some .posting =>
          let requests := client.requests.eraseIdx request
          return tab.update index { client with requests := requests }.scheduleRetry
      | _ => none
  | .resumed index request => do
      let client ← tab.clients[index]?
      match client.requests[request]? with
      | some (.resolved token) =>
          let requests := client.requests.eraseIdx request
          return tab.update index ({ client with requests := requests }.openSource token)
      | _ => none
  | .message index source => do
      let client ← tab.clients[index]?
      let _ ← client.sources[source]?
      return tab.update index client.received
  | .authError index source => do
      let client ← tab.clients[index]?
      let expired ← client.sources[source]?
      let tab := { tab with cached := none, expired := tab.expired ++ [expired.token] }
      return tab.update index client.lost
  | .failed index source => do
      let client ← tab.clients[index]?
      let _ ← client.sources[source]?
      return tab.update index client.lost
  | .fired index timer now => do
      let client ← tab.clients[index]?
      let _ ← client.timers[timer]?
      let timers := client.timers.eraseIdx timer
      return tab.update index ({ client with timers := timers }.connect tab.cached now)
  | .unmounted index => do
      let client ← tab.clients[index]?
      if client.cancelled then none else return tab.update index client.cleanUp

end SseTab

/-! ## The invariant -/

/-- The delay of the attempt after a number of failures in a row. -/
def backoff (failures : Nat) : Nat := min (1000 * 2 ^ failures) 30000

theorem backoff_succ (failures : Nat) :
    min (backoff failures * 2) maxRetryDelayMs = backoff (failures + 1) := by
  unfold backoff maxRetryDelayMs
  rw [Nat.pow_succ]
  omega

namespace SseClient

/-- What keeps an effect going. -/
def pending (client : SseClient) : Nat :=
  client.requests.length + client.timers.length + client.sources.length

/-- One connection, attempt or timer; the open source is the one in the variable; and the delays
follow the failures. -/
structure Sound (client : SseClient) : Prop where
  running : client.cancelled = false → client.pending = 1 ∧ client.sources = client.es.toList
  stopped : client.cancelled = true → client.pending ≤ 1 ∧ client.sources = []
  delay : client.retryDelay = backoff client.failures
  timers : ∀ delay ∈ client.timers, ∃ earlier,
    client.failures = earlier + 1 ∧ delay = backoff earlier

section Sound

variable {client : SseClient} {cached : Option CachedToken} {now : Int} {index : Nat}

theorem Sound.pending_le (sound : client.Sound) : client.pending ≤ 1 := by
  cases isCancelled : client.cancelled with
  | true => exact (sound.stopped isCancelled).1
  | false => exact (sound.running isCancelled).1.le

theorem sound_new (cached : Option CachedToken) (now : Int) : (new.connect cached now).Sound where
  running _ := ⟨rfl, rfl⟩
  stopped := nofun
  delay := rfl
  timers := nofun

/-- Closing the source in the variable closes the only one that is open. -/
theorem close_sources (sources : client.sources = client.es.toList) :
    client.close.sources = [] := by
  unfold close
  split
  · rename_i es isSome
    simp [sources, isSome]
  · rename_i isNone
    rw [sources, isNone]
    rfl

theorem close_eq (client : SseClient) : client.close = { client with
    sources := client.close.sources } := by
  unfold close
  split
  · rfl
  · rfl

/-- What is left when the one thing that keeps an effect going has ended. -/
structure Idle (client : SseClient) : Prop where
  requests : client.requests = []
  timers : client.timers = []
  sources : client.sources = []
  es : client.cancelled = false → client.es = none
  delay : client.retryDelay = backoff client.failures

theorem Idle.stopped (idle : client.Idle) (isCancelled : client.cancelled = true) :
    client.Sound where
  running isRunning := absurd (isRunning.symm.trans isCancelled) (by decide)
  stopped _ := by simp [pending, idle.requests, idle.timers, idle.sources]
  delay := idle.delay
  timers delay member := by
    rw [idle.timers] at member
    exact absurd member List.not_mem_nil

theorem Idle.scheduleRetry (idle : client.Idle) : client.scheduleRetry.Sound := by
  cases isCancelled : client.cancelled with
  | true =>
      rw [SseClient.scheduleRetry, if_pos isCancelled]
      exact idle.stopped isCancelled
  | false =>
      rw [SseClient.scheduleRetry, if_neg (by rw [isCancelled]; decide)]
      refine ⟨fun _ => ⟨?_, ?_⟩, fun stopped => ?_, ?_, ?_⟩
      · simp [pending, idle.requests, idle.timers, idle.sources]
      · rw [idle.sources, idle.es isCancelled]
        rfl
      · exact absurd (isCancelled.symm.trans stopped) (by decide)
      · show min (client.retryDelay * 2) maxRetryDelayMs = backoff (client.failures + 1)
        rw [idle.delay, backoff_succ]
      · rw [idle.timers]
        intro delay member
        exact ⟨client.failures, rfl, (List.mem_singleton.mp member).trans idle.delay⟩

theorem Idle.openSource (idle : client.Idle) (token : String) :
    (client.openSource token).Sound := by
  cases isCancelled : client.cancelled with
  | true =>
      rw [SseClient.openSource, if_pos isCancelled]
      exact idle.stopped isCancelled
  | false =>
      rw [SseClient.openSource, if_neg (by rw [isCancelled]; decide)]
      refine ⟨fun _ => ⟨?_, ?_⟩, fun stopped => ?_, idle.delay, ?_⟩
      · simp [pending, idle.requests, idle.timers, idle.sources]
      · rw [idle.sources]
        rfl
      · exact absurd (isCancelled.symm.trans stopped) (by decide)
      · rw [idle.timers]
        exact fun _ member => absurd member List.not_mem_nil

theorem Idle.connect (idle : client.Idle) (cached : Option CachedToken) (now : Int) :
    (client.connect cached now).Sound := by
  cases isCancelled : client.cancelled with
  | true =>
      rw [SseClient.connect, if_pos isCancelled]
      exact idle.stopped isCancelled
  | false =>
      rw [SseClient.connect, if_neg (by rw [isCancelled]; decide)]
      refine ⟨fun _ => ⟨?_, ?_⟩, fun stopped => ?_, idle.delay, ?_⟩
      · simp [pending, idle.requests, idle.timers, idle.sources]
      · rw [idle.sources, idle.es isCancelled]
        rfl
      · exact absurd (isCancelled.symm.trans stopped) (by decide)
      · rw [idle.timers]
        exact fun _ member => absurd member List.not_mem_nil

/-- An effect whose source is not open has none in its variable. -/
theorem Sound.es_eq_none (sound : client.Sound) (noSources : client.sources = [])
    (isRunning : client.cancelled = false) : client.es = none := by
  have same := (sound.running isRunning).2
  rw [noSources] at same
  exact Option.toList_eq_nil_iff.mp same.symm

/-- The call that ends was all that kept the effect going. -/
theorem Sound.idle_of_request (sound : client.Sound) {request : TokenRequest}
    (found : client.requests[index]? = some request) :
    Idle { client with requests := client.requests.eraseIdx index } := by
  obtain ⟨inside, -⟩ := List.getElem?_eq_some_iff.mp found
  have atMostOne := sound.pending_le
  unfold pending at atMostOne
  have noSources : client.sources = [] := List.length_eq_zero_iff.mp (by omega)
  have noTimers : client.timers = [] := List.length_eq_zero_iff.mp (by omega)
  refine ⟨?_, noTimers, noSources, sound.es_eq_none noSources, sound.delay⟩
  apply List.length_eq_zero_iff.mp
  rw [List.length_eraseIdx_of_lt inside]
  omega

theorem Sound.idle_of_timer (sound : client.Sound) {delay : Nat}
    (found : client.timers[index]? = some delay) :
    Idle { client with timers := client.timers.eraseIdx index } := by
  obtain ⟨inside, -⟩ := List.getElem?_eq_some_iff.mp found
  have atMostOne := sound.pending_le
  unfold pending at atMostOne
  have noSources : client.sources = [] := List.length_eq_zero_iff.mp (by omega)
  have noRequests : client.requests = [] := List.length_eq_zero_iff.mp (by omega)
  refine ⟨noRequests, ?_, noSources, sound.es_eq_none noSources, sound.delay⟩
  apply List.length_eq_zero_iff.mp
  rw [List.length_eraseIdx_of_lt inside]
  omega

/-- An open source belongs to an effect that runs, and is all that keeps it going. -/
theorem Sound.of_source (sound : client.Sound) {source : EventSource}
    (found : client.sources[index]? = some source) :
    client.cancelled = false ∧ client.requests = [] ∧ client.timers = [] := by
  obtain ⟨inside, -⟩ := List.getElem?_eq_some_iff.mp found
  have atMostOne := sound.pending_le
  unfold pending at atMostOne
  refine ⟨?_, List.length_eq_zero_iff.mp (by omega), List.length_eq_zero_iff.mp (by omega)⟩
  cases isCancelled : client.cancelled with
  | false => rfl
  | true =>
      rw [(sound.stopped isCancelled).2] at inside
      exact absurd inside (Nat.not_lt_zero _)

theorem Sound.lost (sound : client.Sound) {source : EventSource}
    (found : client.sources[index]? = some source) : client.lost.Sound := by
  obtain ⟨isRunning, noRequests, noTimers⟩ := sound.of_source found
  have closed := close_sources (sound.running isRunning).2
  apply Idle.scheduleRetry
  rw [close_eq, closed]
  exact ⟨noRequests, noTimers, rfl, fun _ => rfl, sound.delay⟩

theorem Sound.received (sound : client.Sound) {source : EventSource}
    (found : client.sources[index]? = some source) : client.received.Sound := by
  obtain ⟨isRunning, -, noTimers⟩ := sound.of_source found
  refine ⟨sound.running, sound.stopped, rfl, ?_⟩
  intro delay member
  have inTimers : delay ∈ client.timers := member
  rw [noTimers] at inTimers
  exact absurd inTimers List.not_mem_nil

theorem Sound.cleanUp (sound : client.Sound) (isRunning : client.cancelled = false) :
    client.cleanUp.Sound := by
  have closed : SseClient.sources (close { client with cancelled := true }) = [] :=
    close_sources (sound.running isRunning).2
  rw [SseClient.cleanUp, close_eq, closed]
  refine ⟨nofun, fun _ => ⟨?_, rfl⟩, sound.delay, sound.timers⟩
  have atMostOne := sound.pending_le
  unfold pending at atMostOne ⊢
  show client.requests.length + client.timers.length + 0 ≤ 1
  omega

/-- An answer changes no number of calls. -/
theorem Sound.answered (sound : client.Sound) (request : TokenRequest) :
    Sound { client with requests := client.requests.set index request } := by
  have same : pending { client with requests := client.requests.set index request } =
      client.pending := by
    simp [pending]
  refine ⟨fun isRunning => ?_, fun isCancelled => ?_, sound.delay, sound.timers⟩
  · rw [same]
    exact sound.running isRunning
  · rw [same]
    exact sound.stopped isCancelled

end Sound

/-! ## Tokens of an effect -/

def tokens (client : SseClient) : List String :=
  (client.requests.filterMap fun request =>
      match request with
      | .posting => none
      | .resolved token => some token) ++
    client.sources.map EventSource.token

section Tokens

variable {client : SseClient} {cached : Option CachedToken} {now : Int} {index : Nat}

theorem tokens_eraseIdx_subset :
    tokens { client with requests := client.requests.eraseIdx index } ⊆ client.tokens :=
  List.append_subset.mpr
    ⟨fun _ member => List.mem_append_left _
        (((List.eraseIdx_sublist _ _).filterMap _).subset member),
      fun _ member => List.mem_append_right _ member⟩

theorem tokens_connect_subset {minted : List String} (kept : client.tokens ⊆ minted)
    (shared : ∀ token ∈ cached, token.token ∈ minted) :
    (client.connect cached now).tokens ⊆ minted := by
  unfold connect
  split
  · exact kept
  · obtain ⟨requests, sources⟩ := List.append_subset.mp kept
    refine List.append_subset.mpr ⟨?_, sources⟩
    rw [List.filterMap_append]
    refine List.append_subset.mpr ⟨requests, ?_⟩
    unfold getStreamToken
    split
    · rename_i token
      split
      · intro other member
        obtain rfl := List.mem_singleton.mp member
        exact shared token rfl
      · exact List.nil_subset _
    · exact List.nil_subset _

theorem tokens_close_subset : client.close.tokens ⊆ client.tokens := by
  unfold close
  split
  · exact List.append_subset.mpr
      ⟨fun _ member => List.mem_append_left _ member,
        fun _ member => List.mem_append_right _ ((List.filter_sublist.map _).subset member)⟩
  · exact fun _ member => member

theorem tokens_scheduleRetry : client.scheduleRetry.tokens = client.tokens := by
  unfold scheduleRetry
  split
  · rfl
  · rfl

theorem tokens_lost_subset : client.lost.tokens ⊆ client.tokens := by
  rw [lost, tokens_scheduleRetry]
  exact tokens_close_subset

theorem tokens_openSource_subset {token : String} {minted : List String}
    (kept : client.tokens ⊆ minted) (isMinted : token ∈ minted) :
    (client.openSource token).tokens ⊆ minted := by
  unfold openSource
  split
  · exact kept
  · obtain ⟨requests, sources⟩ := List.append_subset.mp kept
    refine List.append_subset.mpr ⟨requests, ?_⟩
    rw [List.map_append]
    refine List.append_subset.mpr ⟨sources, ?_⟩
    intro other member
    obtain rfl := List.mem_singleton.mp member
    exact isMinted

theorem tokens_answered_subset {token : String} :
    tokens { client with requests := client.requests.set index (.resolved token) } ⊆
      client.tokens ++ [token] := by
  refine List.append_subset.mpr ⟨?_, fun _ member => ?_⟩
  · intro other member
    obtain ⟨request, isRequest, same⟩ := List.mem_filterMap.mp member
    rcases List.mem_or_eq_of_mem_set isRequest with before | rfl
    · exact List.mem_append_left _
        (List.mem_append_left _ (List.mem_filterMap.mpr ⟨request, before, same⟩))
    · exact List.mem_append_right _ (List.mem_singleton.mpr (Option.some.inj same).symm)
  · exact List.mem_append_left _ (List.mem_append_right _ member)

end Tokens

end SseClient

/-! ## Steps -/

namespace SseTab

/-- The steps: a mounting, or one effect that goes on. -/
inductive Stepped (tab : SseTab) : TabEvent → SseTab → Prop
  | mounted {now : Int} : Stepped tab (.mounted now)
      { tab with clients := tab.clients ++ [SseClient.new.connect tab.cached now] }
  | posted {index request : Nat} {token : String} {expiresAt : Int} {client : SseClient}
      (found : tab.clients[index]? = some client) :
      Stepped tab (.posted index request token expiresAt)
      { tab with
        cached := some ⟨token, expiresAt⟩
        minted := tab.minted ++ [token]
        clients := tab.clients.set index
          { client with requests := client.requests.set request (.resolved token) } }
  | moved {event : TabEvent} {index : Nat} {client after : SseClient} {expired : List String}
      {cached : Option CachedToken} (found : tab.clients[index]? = some client)
      (sound : client.Sound → after.Sound)
      (tokens : client.tokens ⊆ tab.minted →
        (∀ shared ∈ tab.cached, shared.token ∈ tab.minted) → after.tokens ⊆ tab.minted)
      (clears : expired = [] ∧ cached = tab.cached ∨ expired ⊆ client.tokens ∧ cached = none) :
      Stepped tab event
        { tab with
          cached := cached
          clients := tab.clients.set index after
          expired := tab.expired ++ expired }

section Steps

variable {tab next : SseTab} {event : TabEvent}

theorem stepped_of_step (isStep : tab.step event = some next) : tab.Stepped event next := by
  have unchanged : ∀ index client after, tab.clients[index]? = some client →
      (client.Sound → after.Sound) →
      (client.tokens ⊆ tab.minted → (∀ shared ∈ tab.cached, shared.token ∈ tab.minted) →
        after.tokens ⊆ tab.minted) →
      tab.Stepped event (tab.update index after) := by
    intro index client after found sound tokens
    have moved : tab.Stepped event
        { tab with clients := tab.clients.set index after, expired := tab.expired ++ [] } :=
      .moved found sound tokens (Or.inl ⟨rfl, rfl⟩)
    rwa [List.append_nil] at moved
  cases event with
  | mounted now =>
      cases isStep
      exact .mounted
  | posted index request token expiresAt =>
      simp only [step, Option.bind_eq_bind, Option.bind_eq_some_iff] at isStep
      obtain ⟨client, found, rest⟩ := isStep
      split at rest
      · cases rest
        exact .posted found
      · cases rest
  | postFailed index request =>
      simp only [step, Option.bind_eq_bind, Option.bind_eq_some_iff] at isStep
      obtain ⟨client, found, rest⟩ := isStep
      split at rest
      · rename_i isPosting
        cases rest
        refine unchanged _ _ _ found (fun sound => (sound.idle_of_request isPosting).scheduleRetry)
          fun kept _ => ?_
        rw [SseClient.tokens_scheduleRetry]
        exact List.Subset.trans SseClient.tokens_eraseIdx_subset kept
      · cases rest
  | resumed index request =>
      simp only [step, Option.bind_eq_bind, Option.bind_eq_some_iff] at isStep
      obtain ⟨client, found, rest⟩ := isStep
      split at rest
      · rename_i token resolved
        cases rest
        refine unchanged _ _ _ found
          (fun sound => (sound.idle_of_request resolved).openSource token) fun kept _ => ?_
        apply SseClient.tokens_openSource_subset
          (List.Subset.trans SseClient.tokens_eraseIdx_subset kept)
        apply kept
        exact List.mem_append_left _ (List.mem_filterMap.mpr
          ⟨.resolved token, List.mem_of_getElem? resolved, rfl⟩)
      · cases rest
  | message index source =>
      simp only [step, Option.bind_eq_bind, Option.bind_eq_some_iff] at isStep
      obtain ⟨client, found, isSource, opened, rest⟩ := isStep
      cases rest
      exact unchanged _ _ _ found (fun sound => sound.received opened) fun kept _ => kept
  | authError index source =>
      simp only [step, Option.bind_eq_bind, Option.bind_eq_some_iff] at isStep
      obtain ⟨client, found, isSource, opened, rest⟩ := isStep
      cases rest
      refine .moved found (fun sound => sound.lost opened)
        (fun kept _ => List.Subset.trans SseClient.tokens_lost_subset kept) (Or.inr ⟨?_, rfl⟩)
      intro token member
      obtain rfl := List.mem_singleton.mp member
      exact List.mem_append_right _ (List.mem_map_of_mem (List.mem_of_getElem? opened))
  | failed index source =>
      simp only [step, Option.bind_eq_bind, Option.bind_eq_some_iff] at isStep
      obtain ⟨client, found, isSource, opened, rest⟩ := isStep
      cases rest
      exact unchanged _ _ _ found (fun sound => sound.lost opened) fun kept _ =>
        List.Subset.trans SseClient.tokens_lost_subset kept
  | fired index timer now =>
      simp only [step, Option.bind_eq_bind, Option.bind_eq_some_iff] at isStep
      obtain ⟨client, found, delay, pending, rest⟩ := isStep
      cases rest
      exact unchanged _ _ _ found (fun sound => (sound.idle_of_timer pending).connect _ _)
        fun kept shared => SseClient.tokens_connect_subset kept shared
  | unmounted index =>
      simp only [step, Option.bind_eq_bind, Option.bind_eq_some_iff] at isStep
      obtain ⟨client, found, rest⟩ := isStep
      split at rest
      · cases rest
      · rename_i isRunning
        cases rest
        rw [Bool.not_eq_true] at isRunning
        exact unchanged _ _ _ found (fun sound => sound.cleanUp isRunning) fun kept _ =>
          List.Subset.trans SseClient.tokens_close_subset kept

end Steps

/-! ## Runs -/

/-- Every effect is sound, every token that is held was minted, and the shared one is the last of
them and not one that was declared expired. -/
structure Sound (tab : SseTab) : Prop where
  clients : ∀ client ∈ tab.clients, client.Sound
  tokens : ∀ client ∈ tab.clients, client.tokens ⊆ tab.minted
  cached : ∀ shared ∈ tab.cached,
    tab.minted.getLast? = some shared.token ∧ shared.token ∉ tab.expired
  expired : tab.expired ⊆ tab.minted

theorem sound_initial : initial.Sound where
  clients _ member := absurd member List.not_mem_nil
  tokens _ member := absurd member List.not_mem_nil
  cached := nofun
  expired := List.nil_subset _

/-- A token that is minted is a new one. -/
def MintsNew (tab : SseTab) : TabEvent → Prop
  | .posted _ _ token _ => token ∉ tab.minted
  | _ => True

instance (tab : SseTab) : DecidablePred tab.MintsNew
  | .posted _ _ token _ => inferInstanceAs (Decidable (token ∉ tab.minted))
  | .mounted _ => instDecidableTrue
  | .postFailed _ _ => instDecidableTrue
  | .resumed _ _ => instDecidableTrue
  | .message _ _ => instDecidableTrue
  | .authError _ _ => instDecidableTrue
  | .failed _ _ => instDecidableTrue
  | .fired _ _ _ => instDecidableTrue
  | .unmounted _ => instDecidableTrue

theorem sound_step (tab : SseTab) (event : TabEvent) (next : SseTab) (sound : tab.Sound)
    (mintsNew : tab.MintsNew event) (isStep : tab.step event = some next) : next.Sound := by
  have shared : ∀ shared ∈ tab.cached, shared.token ∈ tab.minted := fun token isCached =>
    List.mem_of_getLast? (sound.cached token isCached).1
  cases stepped_of_step isStep with
  | mounted =>
      refine ⟨forall_mem_concat sound.clients (SseClient.sound_new _ _),
        forall_mem_concat sound.tokens ?_, sound.cached, sound.expired⟩
      exact SseClient.tokens_connect_subset (List.nil_subset _) shared
  | @posted index request token expiresAt client found =>
      have member := List.mem_of_getElem? found
      have longer : ∀ tokens : List String, tokens ⊆ tab.minted → tokens ⊆ tab.minted ++ [token] :=
        fun tokens kept => List.Subset.trans kept (List.subset_append_left _ _)
      refine ⟨forall_mem_set sound.clients ((sound.clients client member).answered _),
        forall_mem_set (fun other isClient => longer _ (sound.tokens other isClient)) ?_, ?_,
        longer _ sound.expired⟩
      · exact List.Subset.trans SseClient.tokens_answered_subset (List.append_subset.mpr
          ⟨longer _ (sound.tokens client member), List.subset_append_right _ _⟩)
      · intro cached isCached
        obtain rfl := Option.some.inj isCached
        exact ⟨List.getLast?_concat,
          fun isExpired => mintsNew (sound.expired isExpired)⟩
  | @moved _ index client after expired cached found keepsSound tokens clears =>
      have member := List.mem_of_getElem? found
      have kept := sound.tokens client member
      refine ⟨forall_mem_set sound.clients (keepsSound (sound.clients client member)),
        forall_mem_set sound.tokens (tokens kept shared), ?_, ?_⟩
      · rcases clears with ⟨rfl, rfl⟩ | ⟨-, rfl⟩
        · rw [List.append_nil]
          exact sound.cached
        · exact nofun
      · refine List.append_subset.mpr ⟨sound.expired, ?_⟩
        rcases clears with ⟨rfl, -⟩ | ⟨declared, -⟩
        · exact List.nil_subset _
        · exact List.Subset.trans declared kept

/-- What a tab has at any time: for an effect that is mounted one connection, one attempt or one
timer; for one that was cleaned up no connection; as many connections as mounted effects at most;
delays that double with each failure in a row up to the maximum; and a shared token that is the last
one answered and that no server has declared expired. The timer of an effect that was cleaned up is
left to fire, and then opens nothing. -/
structure StaysConnected (tab : SseTab) : Prop where
  mounted : ∀ client ∈ tab.clients, client.cancelled = false → client.pending = 1
  unmounted : ∀ client ∈ tab.clients, client.cancelled = true → client.sources = []
  connections : (tab.clients.map fun client => client.sources.length).sum ≤
    tab.clients.countP fun client => !client.cancelled
  delays : ∀ client ∈ tab.clients, ∀ delay ∈ client.timers, ∃ earlier,
    client.failures = earlier + 1 ∧ delay = min (1000 * 2 ^ earlier) 30000
  token : ∀ shared ∈ tab.cached,
    tab.minted.getLast? = some shared.token ∧ shared.token ∉ tab.expired

theorem connections_le (clients : List SseClient) (sound : ∀ client ∈ clients, client.Sound) :
    (clients.map fun client => client.sources.length).sum ≤
      clients.countP fun client => !client.cancelled := by
  induction clients with
  | nil => exact Nat.le_refl _
  | cons client rest inductionHypothesis =>
      have others := inductionHypothesis fun other member =>
        sound other (List.mem_cons_of_mem _ member)
      have mine := sound client List.mem_cons_self
      rw [List.map_cons, List.sum_cons, List.countP_cons]
      cases isCancelled : client.cancelled with
      | true =>
          rw [(mine.stopped isCancelled).2]
          simpa using others
      | false =>
          have single := (mine.running isCancelled).1
          unfold SseClient.pending at single
          simp only [Bool.not_false, if_true]
          omega

theorem Sound.staysConnected {tab : SseTab} (sound : tab.Sound) : tab.StaysConnected where
  mounted client member isRunning := ((sound.clients client member).running isRunning).1
  unmounted client member isCancelled := ((sound.clients client member).stopped isCancelled).2
  connections := connections_le tab.clients sound.clients
  delays client member := (sound.clients client member).timers
  token := sound.cached

/-- **One connection for each stream.** In every state of every run of a tab, in whatever order its
effects are mounted and cleaned up, requests are answered or fail, timers fire, and connections
deliver, fail or are refused, and as long as minted tokens are new. -/
theorem tab_stays_connected {events : List TabEvent}
    (mintsNew : StepSystem.Along step MintsNew initial events) :
    StepSystem.Throughout step StaysConnected initial events := by
  have sound : StepSystem.Throughout step Sound initial events :=
    StepSystem.throughout_of_along sound_step sound_initial mintsNew
  exact StepSystem.throughout_mono (fun _ holds => holds.staysConnected) sound

/-- Two streams share a token. Its expiry is declared on the first, which mints a new one and then
fails twice; the second is cleaned up while it waits for its timer. -/
def twoStreams : List TabEvent :=
  [.mounted 0, .posted 0 0 "token-1" 300000, .resumed 0 0, .message 0 0, .mounted 1000,
    .resumed 1 0, .authError 0 0, .fired 0 0 301000, .failed 1 0, .posted 0 0 "token-2" 600000,
    .resumed 0 0, .unmounted 1, .failed 0 0, .fired 1 0 302000, .fired 0 0 303000, .resumed 0 0,
    .failed 0 0]

theorem tab_stays_connected_twoStreams :
    StepSystem.Throughout step StaysConnected initial twoStreams ∧
      (StepSystem.run step initial twoStreams).map (fun tab => tab.clients.map SseClient.timers) =
        some [[4000], []] :=
  ⟨tab_stays_connected (by decide), by decide⟩

end SseTab

end QuAIA.Orchestrator.Ui
