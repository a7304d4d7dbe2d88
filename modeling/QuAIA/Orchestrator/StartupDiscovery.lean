import QuAIA.Library.Json
import QuAIA.Orchestrator.Discovery
import QuAIA.Services.TimeText

/-!
Contract: the discovery at startup (`_discover_agents_with_startup_retry`).

Owns: the URLs of a pass, the passes up to the one after which it returns, the probes of a pass in
every order, and what is registered when it returns.

Does not own: digits of other scripts. Requests are served, and the periodic tasks begin, after
the startup discovery is over, so that nobody else changes the registry.
-/

set_option autoImplicit false

namespace QuAIA.Orchestrator

open QuAIA.Library

/-! ## The URLs of a pass -/

/-- The settings `REMOTE_EXECUTION_AGENT_HOSTS` and `AGENT_DISCOVERY_PORTS`. -/
structure DiscoveryConfig where
  remoteExecutionAgentHosts : String
  agentDiscoveryPorts : String

section Urls

variable (otherDigit : Char → Option Nat)

/-- The white space that `int` ignores. The four separators before the space are not among it. -/
def isIntSpace (character : Char) : Bool :=
  Text.isSpace character && !decide (0x1C ≤ character.toNat ∧ character.toNat ≤ 0x1F)

/-- `int(text)` of a text without a minus. An underscore may stand between two digits. -/
def readPort (text : List Char) : Option Nat :=
  let trimmed := ((text.dropWhile isIntSpace).reverse.dropWhile isIntSpace).reverse
  let unsigned :=
    match trimmed with
    | '+' :: rest => rest
    | rest => rest
  let groups := unsigned.splitOn '_'
  if groups.all (fun group => !group.isEmpty && group.all (Services.DateTime.isDecimal otherDigit))
      ∧ groups.flatten.length ≤ Json.maxIntDigits then
    some (Services.DateTime.int otherDigit groups.flatten)
  else none

namespace DiscoveryConfig

variable (config : DiscoveryConfig)

def isComplete : Bool := config.remoteExecutionAgentHosts ≠ "" ∧ config.agentDiscoveryPorts ≠ ""

def baseUrls : List String :=
  (config.remoteExecutionAgentHosts.toList.splitOn ',').map fun url =>
    String.ofList (Text.strip url)

/-- The two ends of the port range. -/
def portRange : Option (Nat × Nat) :=
  match config.agentDiscoveryPorts.toList.splitOn '-' with
  | [startPort, endPort] => do
      return (← readPort otherDigit startPort, ← readPort otherDigit endPort)
  | _ => none

/-- `remote_agent_urls` of `_discover_agents`, which is empty where it returns early. -/
def remoteAgentUrls : List String :=
  if config.isComplete then
    match config.portRange otherDigit with
    | some (startPort, endPort) =>
        config.baseUrls.flatMap fun baseUrl =>
          (List.range' startPort (endPort + 1 - startPort)).map fun port => s!"{baseUrl}:{port}"
    | none => []
  else []

end DiscoveryConfig

end Urls

example : (DiscoveryConfig.mk "http://a, http://b" "8_001-8002").remoteAgentUrls (fun _ => none) =
    ["http://a:8001", "http://a:8002", "http://b:8001", "http://b:8002"] := by decide +kernel

theorem mem_remoteAgentUrls {otherDigit : Char → Option Nat} {config : DiscoveryConfig}
    (complete : config.isComplete = true) {startPort endPort port : Nat} {baseUrl : String}
    (isRange : config.portRange otherDigit = some (startPort, endPort))
    (isBase : baseUrl ∈ config.baseUrls) (reached : startPort ≤ port) (inRange : port ≤ endPort) :
    s!"{baseUrl}:{port}" ∈ config.remoteAgentUrls otherDigit := by
  rw [DiscoveryConfig.remoteAgentUrls, if_pos complete, isRange]
  refine List.mem_flatMap.mpr ⟨baseUrl, isBase, List.mem_map.mpr ⟨port, ?_, rfl⟩⟩
  rw [List.mem_range'_1]
  omega

/-! ## The code -/

/-- Where the startup discovery is: in `gather`, between two passes, or over. -/
inductive StartupPhase where
  | gathering
  | sleeping
  | returned
  | raised
deriving DecidableEq

/-- `passStart` is the place of the first probe of the current pass. `before` is the registry at
its beginning, and `answers` are the cards that its probes fetched. -/
structure StartupDiscovery where
  world : DiscoveryWorld
  attempt : Nat
  previousCount : Option Nat
  phase : StartupPhase
  passStart : Nat
  before : AgentRegistry
  answers : List (String × Option AgentCard)

inductive StartupEvent where
  | probed (index : Nat)
  | fetched (index : Nat) (card : Option AgentCard) (newAgentId : AgentId)
  | gathered
  | slept

/-- `len(await agent_registry.get_all_cards())`. -/
def AgentRegistry.count (registry : AgentRegistry) : Nat := registry.cards.entries.length

namespace StartupDiscovery

def registry (startup : StartupDiscovery) : AgentRegistry := startup.world.registry

/-- The beginning of a pass. -/
def startPass (urls : List String) (world : DiscoveryWorld) (attempt : Nat)
    (previousCount : Option Nat) : StartupDiscovery where
  world := { world with probes := world.probes ++ urls.dedup.map .scheduled }
  attempt := attempt
  previousCount := previousCount
  phase := .gathering
  passStart := world.probes.length
  before := world.registry
  answers := []

/-- Without attempts the loop is not entered. -/
def initial (urls : List String) (maxAttempts : Nat) : StartupDiscovery :=
  if maxAttempts = 0 then ⟨.initial, 0, none, .returned, 0, .empty, []⟩
  else startPass urls .initial 1 none

/-- Without an interface the subscript raises, and `gather` with it. -/
def fetchRaises : Option AgentCard → Bool
  | some card => card.supportedInterfaces.isEmpty
  | none => false

/-- The loop after a pass. -/
def passEnded (startup : StartupDiscovery) (maxAttempts : Nat) : StartupDiscovery :=
  let currentCount := startup.registry.count
  if startup.previousCount = some currentCount then { startup with phase := .returned }
  else
    { startup with
      previousCount := some currentCount
      phase := if startup.attempt < maxAttempts then .sleeping else .returned }

def step (urls : List String) (maxAttempts : Nat) (startup : StartupDiscovery) :
    StartupEvent → Option StartupDiscovery
  | .probed index =>
      (startup.world.step (.probed index)).map fun world => { startup with world }
  | .fetched index card newAgentId =>
      match startup.world.probes[index]? with
      | some (.fetching url) =>
          (startup.world.step (.fetched index card newAgentId)).map fun world =>
            { startup with
              world
              phase := if fetchRaises card then .raised else startup.phase
              answers := startup.answers ++ [(url, card)] }
      | _ => none
  | .gathered =>
      if startup.phase = .gathering ∧
          ∀ probe ∈ startup.world.probes.drop startup.passStart, probe = .finished then
        some (startup.passEnded maxAttempts)
      else none
  | .slept =>
      if startup.phase = .sleeping then
        some (startPass urls startup.world (startup.attempt + 1) startup.previousCount)
      else none

end StartupDiscovery

/-! ## Known URLs -/

namespace AgentRegistry

variable {registry : AgentRegistry}

theorem knowsUrl_eq_true_iff (named : registry.getCard "" = none) (url : String) :
    registry.knowsUrl url = true ↔
      ∃ agentId card, registry.getCard agentId = some card ∧
        card.supportedInterfaces.head? = some url := by
  constructor
  · intro known
    by_contra nobody
    push Not at nobody
    have missing := getAgentIdByUrl_eq_none_iff.mpr nobody
    rw [knowsUrl, missing] at known
    cases known
  · rintro ⟨agentId, card, found, isUrl⟩
    cases known : registry.knowsUrl url with
    | true => rfl
    | false =>
        cases isAgent : registry.getAgentIdByUrl url with
        | none => exact absurd isUrl (getAgentIdByUrl_eq_none_iff.mp isAgent agentId card found)
        | some other =>
            rw [knowsUrl, isAgent, Option.any_some, decide_eq_false_iff_not, ne_eq,
              Decidable.not_not] at known
            obtain ⟨entry, isFound, isEmpty⟩ := Option.map_eq_some_iff.mp isAgent
            have stored : registry.getCard entry.1 = some entry.2 :=
              (Dict.mem_entries_iff _ _ _).mp (List.mem_of_find?_eq_some isFound)
            rw [isEmpty, known, named] at stored
            cases stored

/-- A new id keeps the known URLs, and adds that of its card. -/
theorem knowsUrl_register (named : registry.getCard "" = none) {newAgentId : AgentId}
    (isNamed : newAgentId ≠ "") (fresh : registry.getCard newAgentId = none) (card : AgentCard)
    (url : String) :
    (registry.register newAgentId card).knowsUrl url = true ↔
      card.supportedInterfaces.head? = some url ∨ registry.knowsUrl url = true := by
  have stillNamed : (registry.register newAgentId card).getCard "" = none := by
    rw [getCard_register, if_neg (Ne.symm isNamed)]
    exact named
  rw [knowsUrl_eq_true_iff stillNamed, knowsUrl_eq_true_iff named]
  constructor
  · rintro ⟨agentId, other, found, isUrl⟩
    rw [getCard_register] at found
    split at found
    · cases found
      exact Or.inl isUrl
    · exact Or.inr ⟨agentId, other, found, isUrl⟩
  · rintro (isUrl | ⟨agentId, other, found, isUrl⟩)
    · exact ⟨newAgentId, card, by rw [getCard_register, if_pos rfl], isUrl⟩
    · refine ⟨agentId, other, ?_, isUrl⟩
      rw [getCard_register, if_neg]
      · exact found
      · rintro rfl
        rw [fresh] at found
        cases found

theorem count_register {newAgentId : AgentId} (fresh : registry.getCard newAgentId = none)
    (card : AgentCard) : (registry.register newAgentId card).count = registry.count + 1 := by
  have cards : (registry.register newAgentId card).cards = registry.cards.set newAgentId card := by
    unfold register
    split <;> rfl
  have written : (registry.cards.set newAgentId card).entries =
      registry.cards.entries ++ [(newAgentId, card)] :=
    Dict.write_of_fresh ((Dict.lookup_eq_none_iff _ _).mp fresh) card
  rw [count, cards, written, List.length_append]
  rfl

/-- What the fetch of a card under a new id does to the known URLs and to the count. -/
theorem cardFetched_grows (named : registry.getCard "" = none) {newAgentId : AgentId}
    (isNamed : newAgentId ≠ "") (fresh : registry.getCard newAgentId = none)
    (fetched : Option AgentCard) :
    (∀ url, registry.knowsUrl url = true →
      (cardFetched registry newAgentId fetched).knowsUrl url = true) ∧
    (∀ card url, fetched = some card → card.supportedInterfaces.head? = some url →
      (cardFetched registry newAgentId fetched).knowsUrl url = true) ∧
    (cardFetched registry newAgentId fetched = registry ∨
      (cardFetched registry newAgentId fetched).count = registry.count + 1) := by
  cases fetched with
  | none =>
      refine ⟨fun url known => known, ?_, Or.inl rfl⟩
      intro card url isCard
      cases isCard
  | some card =>
      cases interfaces : card.supportedInterfaces with
      | nil =>
          have same : cardFetched registry newAgentId (some card) = registry := by
            rw [cardFetched, interfaces]
          rw [same]
          refine ⟨fun url known => known, ?_, Or.inl rfl⟩
          rintro other url ⟨⟩ isUrl
          rw [interfaces] at isUrl
          cases isUrl
      | cons cardUrl others =>
          have isFirst : card.supportedInterfaces.head? = some cardUrl := by rw [interfaces]; rfl
          cases known : registry.knowsUrl cardUrl with
          | true =>
              have same : cardFetched registry newAgentId (some card) = registry := by
                simp only [cardFetched, interfaces, known, if_true]
              rw [same]
              refine ⟨fun url known => known, ?_, Or.inl rfl⟩
              rintro other url ⟨⟩ isUrl
              obtain rfl := Option.some.inj (isFirst.symm.trans isUrl)
              exact known
          | false =>
              have registered : cardFetched registry newAgentId (some card) =
                  registry.register newAgentId card := by
                simp only [cardFetched, interfaces, known, Bool.false_eq_true, if_false]
              rw [registered]
              refine ⟨?_, ?_, Or.inr (count_register fresh card)⟩
              · intro url known
                exact (knowsUrl_register named isNamed fresh card url).mpr (Or.inr known)
              · rintro other url ⟨⟩ isUrl
                exact (knowsUrl_register named isNamed fresh card url).mpr (Or.inl isUrl)

end AgentRegistry

namespace StartupDiscovery

/-! ## Steps -/

/-- What became of a URL in the current pass: it is known, or its probe goes on, or has fetched. -/
def Covered (startup : StartupDiscovery) (url : String) : Prop :=
  startup.registry.knowsUrl url = true ∨ .scheduled url ∈ startup.world.probes ∨
    .fetching url ∈ startup.world.probes ∨ ∃ card, (url, card) ∈ startup.answers

structure Invariant (urls : List String) (maxAttempts : Nat) (startup : StartupDiscovery) :
    Prop where
  discovered : startup.registry.Discovered
  attempts : startup.attempt ≤ maxAttempts
  again : startup.phase = .sleeping → startup.attempt < maxAttempts
  older : ∀ probe ∈ startup.world.probes.take startup.passStart, probe = .finished
  idle : startup.phase = .sleeping ∨ startup.phase = .returned →
    ∀ probe ∈ startup.world.probes, probe = .finished
  covered : 1 ≤ startup.attempt → ∀ url ∈ urls, startup.Covered url
  answered : ∀ url card own, (url, some card) ∈ startup.answers →
    card.supportedInterfaces.head? = some own → startup.registry.knowsUrl own = true
  grown : startup.registry = startup.before ∨ startup.before.count < startup.registry.count
  previous : ∀ count, startup.previousCount = some count →
    startup.phase = .gathering ∨ startup.phase = .raised → count = startup.before.count
  slept : startup.phase = .sleeping → startup.previousCount = some startup.registry.count
  early : startup.phase = .returned → startup.attempt < maxAttempts →
    startup.registry = startup.before

/-- A fetched card gets an id that no agent has. -/
def NewIds (startup : StartupDiscovery) : StartupEvent → Prop
  | .fetched _ _ newAgentId => startup.registry.getCard newAgentId = none
  | _ => True

variable {urls : List String} {maxAttempts : Nat} {startup next : StartupDiscovery}

theorem mem_set_or {probes : List UrlDiscovery} {index : Nat} {old new probe : UrlDiscovery}
    (found : probes[index]? = some old) (member : probe ∈ probes) :
    probe = old ∨ probe ∈ probes.set index new := by
  obtain ⟨before, after, split, updated⟩ := exists_split_of_getElem? found new
  rw [split] at member
  rw [updated]
  rcases List.mem_append.mp member with isBefore | rest
  · exact Or.inr (List.mem_append_left _ isBefore)
  · rcases List.mem_cons.mp rest with isOld | isAfter
    · exact Or.inl isOld
    · exact Or.inr (List.mem_append_right _ (List.mem_cons_of_mem new isAfter))

theorem new_mem_set {probes : List UrlDiscovery} {index : Nat} {old : UrlDiscovery}
    (found : probes[index]? = some old) (new : UrlDiscovery) : new ∈ probes.set index new := by
  obtain ⟨before, after, -, updated⟩ := exists_split_of_getElem? found new
  rw [updated]
  exact List.mem_append_right before List.mem_cons_self

/-- A probe of an earlier pass is over, so that a step changes none. -/
theorem Invariant.take_set (invariant : Invariant urls maxAttempts startup) {index : Nat}
    {old : UrlDiscovery} (found : startup.world.probes[index]? = some old)
    (running : old ≠ .finished) (new : UrlDiscovery) :
    (startup.world.probes.set index new).take startup.passStart =
      startup.world.probes.take startup.passStart := by
  have later : startup.passStart ≤ index := by
    by_contra early
    have inTake : old ∈ startup.world.probes.take startup.passStart := by
      have atIndex : (startup.world.probes.take startup.passStart)[index]? = some old := by
        rw [List.getElem?_take_of_lt (by omega)]
        exact found
      exact List.mem_of_getElem? atIndex
    exact running (invariant.older old inTake)
  rw [List.take_set_of_le later]

inductive Stepped (urls : List String) (maxAttempts : Nat) (startup : StartupDiscovery) :
    StartupEvent → StartupDiscovery → Prop
  | probed {index : Nat} {url : String}
      (found : startup.world.probes[index]? = some (.scheduled url)) :
      Stepped urls maxAttempts startup (.probed index)
        { startup with
          world := ⟨startup.registry, startup.world.probes.set index
            (processUrlDiscovery startup.registry url)⟩ }
  | fetched {index : Nat} {url : String} {card : Option AgentCard} {newAgentId : AgentId}
      (found : startup.world.probes[index]? = some (.fetching url)) (isNamed : newAgentId ≠ "") :
      Stepped urls maxAttempts startup (.fetched index card newAgentId)
        { startup with
          world := ⟨cardFetched startup.registry newAgentId card,
            startup.world.probes.set index .finished⟩
          phase := if fetchRaises card then .raised else startup.phase
          answers := startup.answers ++ [(url, card)] }
  | gathered (isGathering : startup.phase = .gathering)
      (ended : ∀ probe ∈ startup.world.probes.drop startup.passStart, probe = .finished) :
      Stepped urls maxAttempts startup .gathered (startup.passEnded maxAttempts)
  | slept (isSleeping : startup.phase = .sleeping) :
      Stepped urls maxAttempts startup .slept
        (startPass urls startup.world (startup.attempt + 1) startup.previousCount)

theorem stepped_of_step {event : StartupEvent}
    (isStep : startup.step urls maxAttempts event = some next) :
    Stepped urls maxAttempts startup event next := by
  cases event with
  | probed index =>
      obtain ⟨world, worldStep, rfl⟩ := Option.map_eq_some_iff.mp isStep
      simp only [DiscoveryWorld.step] at worldStep
      split at worldStep
      · rename_i url found
        obtain rfl := Option.some.inj worldStep
        exact .probed found
      · cases worldStep
  | fetched index card newAgentId =>
      simp only [step] at isStep
      split at isStep
      · rename_i url found
        obtain ⟨world, worldStep, rfl⟩ := Option.map_eq_some_iff.mp isStep
        simp only [DiscoveryWorld.step, found] at worldStep
        split at worldStep
        · cases worldStep
        · rename_i isNamed
          obtain rfl := Option.some.inj worldStep
          exact .fetched found isNamed
      · cases isStep
  | gathered =>
      simp only [step] at isStep
      split at isStep
      · rename_i ended
        obtain rfl := Option.some.inj isStep
        exact .gathered ended.1 ended.2
      · cases isStep
  | slept =>
      simp only [step] at isStep
      split at isStep
      · rename_i isSleeping
        obtain rfl := Option.some.inj isStep
        exact .slept isSleeping
      · cases isStep

/-- While a probe is not over, its pass is not either. -/
theorem Invariant.running (invariant : Invariant urls maxAttempts startup) {index : Nat}
    {old : UrlDiscovery} (found : startup.world.probes[index]? = some old)
    (unfinished : old ≠ .finished) :
    startup.phase ≠ .sleeping ∧ startup.phase ≠ .returned := by
  have member := List.mem_of_getElem? found
  exact ⟨fun isSleeping => unfinished (invariant.idle (Or.inl isSleeping) old member),
    fun isReturned => unfinished (invariant.idle (Or.inr isReturned) old member)⟩

theorem Invariant.probed (invariant : Invariant urls maxAttempts startup) {index : Nat}
    {url : String} (found : startup.world.probes[index]? = some (.scheduled url)) :
    Invariant urls maxAttempts
      { startup with
        world := ⟨startup.registry, startup.world.probes.set index
          (processUrlDiscovery startup.registry url)⟩ } := by
  obtain ⟨notSleeping, notReturned⟩ := invariant.running found (by intro same; cases same)
  refine { invariant with older := ?_, idle := ?_, covered := ?_ }
  · dsimp only
    rw [invariant.take_set found (by intro same; cases same)]
    exact invariant.older
  · rintro (isSleeping | isReturned)
    · exact absurd isSleeping notSleeping
    · exact absurd isReturned notReturned
  · intro begun other member
    have isNew := new_mem_set found (processUrlDiscovery startup.registry url)
    rcases invariant.covered begun other member with known | scheduled | fetching | answered
    · exact Or.inl known
    · rcases mem_set_or found scheduled with same | stays
      · obtain rfl := UrlDiscovery.scheduled.inj same
        unfold processUrlDiscovery at isNew ⊢
        cases known : startup.registry.knowsUrl other with
        | true => exact Or.inl known
        | false =>
            rw [known, if_neg Bool.false_ne_true] at isNew
            rw [if_neg Bool.false_ne_true]
            exact Or.inr (Or.inr (Or.inl isNew))
      · exact Or.inr (Or.inl stays)
    · rcases mem_set_or found fetching with same | stays
      · cases same
      · exact Or.inr (Or.inr (Or.inl stays))
    · exact Or.inr (Or.inr (Or.inr answered))

theorem Invariant.fetched (invariant : Invariant urls maxAttempts startup) {index : Nat}
    {url : String} (found : startup.world.probes[index]? = some (.fetching url))
    {newAgentId : AgentId} (isNamed : newAgentId ≠ "")
    (fresh : startup.registry.getCard newAgentId = none) (card : Option AgentCard) :
    Invariant urls maxAttempts
      { startup with
        world := ⟨cardFetched startup.registry newAgentId card,
          startup.world.probes.set index .finished⟩
        phase := if fetchRaises card then .raised else startup.phase
        answers := startup.answers ++ [(url, card)] } := by
  obtain ⟨notSleeping, notReturned⟩ := invariant.running found (by intro same; cases same)
  obtain ⟨keeps, adds, grows⟩ :=
    AgentRegistry.cardFetched_grows invariant.discovered.named isNamed fresh card
  have stays : ∀ phase, phase ≠ StartupPhase.raised → startup.phase ≠ phase →
      (if fetchRaises card then .raised else startup.phase) ≠ phase := by
    intro phase notRaised other
    split
    · exact Ne.symm notRaised
    · exact other
  have stillAwake := stays .sleeping (by decide) notSleeping
  have notOver := stays .returned (by decide) notReturned
  refine ⟨invariant.discovered.cardFetched isNamed card, invariant.attempts, ?_, ?_, ?_, ?_, ?_,
    ?_, ?_, ?_, ?_⟩
  · exact fun isSleeping => absurd isSleeping stillAwake
  · dsimp only
    rw [invariant.take_set found (by intro same; cases same)]
    exact invariant.older
  · rintro (isSleeping | isReturned)
    · exact absurd isSleeping stillAwake
    · exact absurd isReturned notOver
  · intro begun other member
    rcases invariant.covered begun other member with known | scheduled | fetching |
      ⟨answer, answered⟩
    · exact Or.inl (keeps other known)
    · rcases mem_set_or found scheduled with same | still
      · cases same
      · exact Or.inr (Or.inl still)
    · rcases mem_set_or found fetching with same | still
      · obtain rfl := UrlDiscovery.fetching.inj same
        exact Or.inr (Or.inr (Or.inr ⟨card, List.mem_append_right _ (List.mem_singleton_self _)⟩))
      · exact Or.inr (Or.inr (Or.inl still))
    · exact Or.inr (Or.inr (Or.inr ⟨answer, List.mem_append_left _ answered⟩))
  · intro other answer own answered isOwn
    rcases List.mem_append.mp answered with earlier | isLast
    · exact keeps own (invariant.answered other answer own earlier isOwn)
    · obtain ⟨rfl, rfl⟩ := Prod.mk.inj (List.mem_singleton.mp isLast)
      exact adds answer own rfl isOwn
  · show cardFetched startup.registry newAgentId card = startup.before ∨
      startup.before.count < (cardFetched startup.registry newAgentId card).count
    rcases grows with same | more
    · rw [same]
      exact invariant.grown
    · rw [more]
      right
      rcases invariant.grown with same | less
      · rw [same]
        exact Nat.lt_succ_self _
      · exact Nat.lt_succ_of_lt less
  · intro count isPrevious active
    apply invariant.previous count isPrevious
    by_cases raised : fetchRaises card = true
    · cases phase : startup.phase with
      | gathering => exact Or.inl rfl
      | raised => exact Or.inr rfl
      | sleeping => exact absurd phase notSleeping
      | returned => exact absurd phase notReturned
    · dsimp only at active
      rwa [if_neg raised] at active
  · exact fun isSleeping => absurd isSleeping stillAwake
  · exact fun isReturned => absurd isReturned notOver

theorem Invariant.gathered (invariant : Invariant urls maxAttempts startup)
    (isGathering : startup.phase = .gathering)
    (ended : ∀ probe ∈ startup.world.probes.drop startup.passStart, probe = .finished) :
    Invariant urls maxAttempts (startup.passEnded maxAttempts) := by
  have allOver : ∀ probe ∈ startup.world.probes, probe = .finished := by
    intro probe member
    rw [← List.take_append_drop startup.passStart startup.world.probes] at member
    rcases List.mem_append.mp member with earlier | current
    · exact invariant.older probe earlier
    · exact ended probe current
  unfold passEnded
  dsimp only
  split
  · rename_i same
    refine { invariant with
      again := ?_, idle := fun _ => allOver, previous := ?_, slept := ?_, early := ?_ }
    · rintro ⟨⟩
    · rintro count isPrevious (isGathering | isRaised)
      · cases isGathering
      · cases isRaised
    · rintro ⟨⟩
    · intro _ _
      rcases invariant.grown with nobody | more
      · exact nobody
      · have before := invariant.previous _ same (Or.inl isGathering)
        exact absurd before (Nat.ne_of_gt more)
  · by_cases more : startup.attempt < maxAttempts
    · rw [if_pos more]
      refine { invariant with
        again := fun _ => more, idle := fun _ => allOver, previous := ?_, slept := fun _ => rfl,
        early := ?_ }
      · rintro count isPrevious (isGathering | isRaised)
        · cases isGathering
        · cases isRaised
      · rintro ⟨⟩
    · rw [if_neg more]
      refine { invariant with
        again := ?_, idle := fun _ => allOver, previous := ?_, slept := ?_,
        early := fun _ less => absurd less more }
      · rintro ⟨⟩
      · rintro count isPrevious (isGathering | isRaised)
        · cases isGathering
        · cases isRaised
      · rintro ⟨⟩

/-- A pass that begins when every probe is over. -/
theorem invariant_startPass {world : DiscoveryWorld} {attempt : Nat} {previousCount : Option Nat}
    (discovered : world.registry.Discovered) (attempts : attempt ≤ maxAttempts)
    (ended : ∀ probe ∈ world.probes, probe = .finished)
    (previous : ∀ count, previousCount = some count → count = world.registry.count) :
    Invariant urls maxAttempts (startPass urls world attempt previousCount) where
  discovered := discovered
  attempts := attempts
  again isSleeping := by cases isSleeping
  older := by
    have earlier : (world.probes ++ urls.dedup.map UrlDiscovery.scheduled).take
        world.probes.length = world.probes := List.take_left
    intro probe member
    apply ended
    rwa [startPass, earlier] at member
  idle isIdle := by
    rcases isIdle with isSleeping | isReturned
    · cases isSleeping
    · cases isReturned
  covered _ url member :=
    Or.inr (Or.inl (List.mem_append_right _
      (List.mem_map.mpr ⟨url, List.mem_dedup.mpr member, rfl⟩)))
  answered _ _ _ isAnswer := absurd isAnswer List.not_mem_nil
  grown := Or.inl rfl
  previous count isPrevious _ := previous count isPrevious
  slept isSleeping := by cases isSleeping
  early isReturned := by cases isReturned

theorem Invariant.woken (invariant : Invariant urls maxAttempts startup)
    (isSleeping : startup.phase = .sleeping) :
    Invariant urls maxAttempts
      (startPass urls startup.world (startup.attempt + 1) startup.previousCount) := by
  refine invariant_startPass invariant.discovered (invariant.again isSleeping)
    (invariant.idle (Or.inl isSleeping)) ?_
  intro count isPrevious
  rw [invariant.slept isSleeping, Option.some.injEq] at isPrevious
  exact isPrevious.symm

theorem discovered_initial : DiscoveryWorld.initial.registry.Discovered := by
  constructor
  · rfl
  · intro first second firstCard secondCard url found
    cases found

theorem invariant_initial (urls : List String) (maxAttempts : Nat) :
    Invariant urls maxAttempts (initial urls maxAttempts) := by
  unfold initial
  split
  · refine ⟨discovered_initial, Nat.zero_le _, ?_, ?_, ?_, ?_, ?_, Or.inl rfl, ?_, ?_, ?_⟩
    · rintro ⟨⟩
    · intro probe member
      cases member
    · intro _ probe member
      cases member
    · intro begun
      exact absurd begun (by decide)
    · intro url card own isAnswer
      cases isAnswer
    · intro count isPrevious
      cases isPrevious
    · rintro ⟨⟩
    · intro _ _
      rfl
  · rename_i positive
    refine invariant_startPass discovered_initial (Nat.one_le_iff_ne_zero.mpr positive) ?_ ?_
    · intro probe member
      cases member
    · intro count isPrevious
      cases isPrevious

theorem Invariant.step (invariant : Invariant urls maxAttempts startup) {event : StartupEvent}
    (newIds : startup.NewIds event)
    (isStep : startup.step urls maxAttempts event = some next) :
    Invariant urls maxAttempts next := by
  cases stepped_of_step isStep with
  | probed found => exact invariant.probed found
  | @fetched index url card newAgentId found isNamed =>
      exact invariant.fetched found isNamed newIds card
  | gathered isGathering ended => exact invariant.gathered isGathering ended
  | slept isSleeping => exact invariant.woken isSleeping

/-! ## When it returns -/

/-- What holds at any time, and what is known when the startup discovery has returned. -/
structure Promise (otherDigit : Char → Option Nat) (config : DiscoveryConfig) (maxAttempts : Nat)
    (startup : StartupDiscovery) : Prop where
  attempts : startup.attempt ≤ maxAttempts
  distinct : startup.registry.DistinctUrls
  /-- Who has answered in the current pass is registered. -/
  answered : ∀ url card own, (url, some card) ∈ startup.answers →
    card.supportedInterfaces.head? = some own → startup.registry.knowsUrl own = true
  /-- Every port of every base URL belongs to a registered agent, or was asked in the last pass. -/
  settled : startup.phase = .returned → 1 ≤ startup.attempt → config.isComplete = true →
    ∀ startPort endPort, config.portRange otherDigit = some (startPort, endPort) →
    ∀ baseUrl ∈ config.baseUrls, ∀ port, startPort ≤ port → port ≤ endPort →
    startup.registry.knowsUrl s!"{baseUrl}:{port}" = true ∨
      ∃ card, (s!"{baseUrl}:{port}", card) ∈ startup.answers
  /-- Before the last attempt it returns only after a pass that has found nobody. -/
  early : startup.phase = .returned → startup.attempt < maxAttempts →
    startup.registry = startup.before

theorem Invariant.promise {otherDigit : Char → Option Nat} {config : DiscoveryConfig}
    (invariant : Invariant (config.remoteAgentUrls otherDigit) maxAttempts startup) :
    Promise otherDigit config maxAttempts startup where
  attempts := invariant.attempts
  distinct := invariant.discovered.distinct
  answered := invariant.answered
  settled isReturned begun complete startPort endPort isRange baseUrl isBase port reached
      inRange := by
    have ended := invariant.idle (Or.inr isReturned)
    have isUrl := mem_remoteAgentUrls complete isRange isBase reached inRange
    rcases invariant.covered begun _ isUrl with known | scheduled | fetching | answered
    · exact Or.inl known
    · cases ended _ scheduled
    · cases ended _ fetching
    · exact Or.inr answered
  early := invariant.early

/-- **Who answers is registered.** In every run of the startup discovery, in whatever order its
probes go on: there are at most so many passes; when it returns, each configured port of each host
belongs to a registered agent or was asked in the last pass, and who answered there is registered,
once; and it returns before the last attempt only after a pass that has registered nobody. -/
theorem startup_settles (otherDigit : Char → Option Nat) (config : DiscoveryConfig)
    (maxAttempts : Nat) {events : List StartupEvent}
    (newIds : StepSystem.Along
      (StartupDiscovery.step (config.remoteAgentUrls otherDigit) maxAttempts) NewIds
      (initial (config.remoteAgentUrls otherDigit) maxAttempts) events) :
    StepSystem.Throughout (StartupDiscovery.step (config.remoteAgentUrls otherDigit) maxAttempts)
      (Promise otherDigit config maxAttempts)
      (initial (config.remoteAgentUrls otherDigit) maxAttempts) events := by
  have invariant : StepSystem.Throughout
      (StartupDiscovery.step (config.remoteAgentUrls otherDigit) maxAttempts)
      (Invariant (config.remoteAgentUrls otherDigit) maxAttempts)
      (initial (config.remoteAgentUrls otherDigit) maxAttempts) events :=
    StepSystem.throughout_of_along
      (fun _ _ _ (holds : Invariant _ maxAttempts _) fresh isStep => holds.step fresh isStep)
      (invariant_initial _ maxAttempts) newIds
  exact StepSystem.throughout_mono (fun _ holds => holds.promise) invariant

/-- One agent is up at the first pass, the other at the second one. -/
def lateAgent : List StartupEvent :=
  [.probed 0, .probed 1, .fetched 1 none "a", .fetched 0 (some ⟨"first", [], ["u:1"]⟩) "a",
    .gathered, .slept, .probed 2, .probed 3, .fetched 3 (some ⟨"second", [], ["u:2"]⟩) "b",
    .gathered, .slept, .probed 4, .probed 5, .gathered]

theorem remoteAgentUrls_twoPorts :
    (DiscoveryConfig.mk "u" "1-2").remoteAgentUrls (fun _ => none) = ["u:1", "u:2"] := by
  decide +kernel

theorem startup_settles_lateAgent :
    StepSystem.Throughout
        (StartupDiscovery.step ((DiscoveryConfig.mk "u" "1-2").remoteAgentUrls fun _ => none) 5)
        (Promise (fun _ => none) ⟨"u", "1-2"⟩ 5)
        (initial ((DiscoveryConfig.mk "u" "1-2").remoteAgentUrls fun _ => none) 5) lateAgent ∧
      (StepSystem.run
        (StartupDiscovery.step ((DiscoveryConfig.mk "u" "1-2").remoteAgentUrls fun _ => none) 5)
        (initial ((DiscoveryConfig.mk "u" "1-2").remoteAgentUrls fun _ => none) 5) lateAgent).map
          (fun startup => (startup.phase, startup.attempt, startup.registry.count)) =
          some (.returned, 3, 2) := by
  refine ⟨startup_settles (fun _ => none) ⟨"u", "1-2"⟩ 5 ?_, ?_⟩
  · rw [remoteAgentUrls_twoPorts]
    refine ⟨trivial, trivial, rfl, rfl, trivial, trivial, trivial, trivial, rfl, ?_⟩
    exact ⟨trivial, trivial, trivial, trivial, trivial, trivial⟩
  · rw [remoteAgentUrls_twoPorts]
    decide

end StartupDiscovery

end QuAIA.Orchestrator
