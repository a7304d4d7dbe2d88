import Mathlib.Data.List.Dedup
import QuAIA.Library.ListReplace
import QuAIA.Library.StepSystem
import QuAIA.Orchestrator.System

/-!
Contract: the discovery of agents (`_process_url_discovery`, `_discover_agents`).

Owns: any number of discovery passes and the two segments of each probed URL, and that no
two registered agents have the same primary URL.

Does not own: the base URLs and the port range that a pass makes its URLs from, and the
retries of the first pass. A pass is given its URLs, a probed URL the card that was fetched.
-/

set_option autoImplicit false

namespace QuAIA.Orchestrator

open QuAIA.Library

/-! ## The code -/

/-- Where the discovery of one URL is: not begun, in `_fetch_agent_card`, or over. -/
inductive UrlDiscovery where
  | scheduled (url : String)
  | fetching (url : String)
  | finished
deriving DecidableEq, Repr

/-- An agent with a non-empty id has the URL. -/
def AgentRegistry.knowsUrl (registry : AgentRegistry) (url : String) : Bool :=
  (registry.getAgentIdByUrl url).any fun agentId => agentId ≠ ""

/-- `_process_url_discovery` up to its suspension. -/
def processUrlDiscovery (registry : AgentRegistry) (url : String) : UrlDiscovery :=
  if registry.knowsUrl url then .finished else .fetching url

/-- The rest of it. Without an interface the subscript raises, and nothing is registered. -/
def cardFetched (registry : AgentRegistry) (newAgentId : AgentId) : Option AgentCard → AgentRegistry
  | none => registry
  | some card =>
      match card.supportedInterfaces with
      | [] => registry
      | cardUrl :: _ =>
          if registry.knowsUrl cardUrl then registry else registry.register newAgentId card

/-- The registry, and the URLs that all passes so far have probed. -/
structure DiscoveryWorld where
  registry : AgentRegistry
  probes : List UrlDiscovery

/-- `fetched` carries the id that `uuid4` makes. `other` is any call of another coroutine. -/
inductive DiscoveryEvent where
  | passStarted (urls : List String)
  | probed (index : Nat)
  | fetched (index : Nat) (card : Option AgentCard) (newAgentId : AgentId)
  | other (call : AgentRegistry.Call)

namespace DiscoveryWorld

def initial : DiscoveryWorld := ⟨.empty, []⟩

/-- Only the discovery registers cards, and `uuid4` never makes an empty id. -/
def step (world : DiscoveryWorld) : DiscoveryEvent → Option DiscoveryWorld
  | .passStarted urls =>
      some { world with probes := world.probes ++ urls.dedup.map .scheduled }
  | .probed index =>
      match world.probes[index]? with
      | some (.scheduled url) =>
          some { world with
            probes := world.probes.set index (processUrlDiscovery world.registry url) }
      | _ => none
  | .fetched index card newAgentId =>
      match world.probes[index]? with
      | some (.fetching _) =>
          if newAgentId = "" then none
          else
            some {
              registry := cardFetched world.registry newAgentId card
              probes := world.probes.set index .finished }
      | _ => none
  | .other call =>
      if call.registers then none else some { world with registry := world.registry.call call }

end DiscoveryWorld

/-! ## One agent for each URL -/

namespace AgentRegistry

/-- No two agents have the same primary URL. -/
def DistinctUrls (registry : AgentRegistry) : Prop :=
  ∀ first second firstCard secondCard url, registry.getCard first = some firstCard →
    registry.getCard second = some secondCard →
    firstCard.supportedInterfaces.head? = some url →
    secondCard.supportedInterfaces.head? = some url → first = second

/-- Every agent has an id, and its own primary URL. -/
structure Discovered (registry : AgentRegistry) : Prop where
  named : registry.getCard "" = none
  distinct : registry.DistinctUrls

variable {registry next : AgentRegistry}

/-- Fewer agents have distinct URLs as well. -/
theorem Discovered.mono (discovered : registry.Discovered)
    (fewer : ∀ agentId card, next.getCard agentId = some card →
      registry.getCard agentId = some card) : next.Discovered := by
  constructor
  · cases found : next.getCard "" with
    | none => rfl
    | some card =>
        have before := fewer "" card found
        rw [discovered.named] at before
        cases before
  · intro first second firstCard secondCard url firstFound secondFound
    exact discovered.distinct first second firstCard secondCard url
      (fewer first firstCard firstFound) (fewer second secondCard secondFound)

theorem knowsUrl_eq_false (discovered : registry.Discovered) {url : String}
    (unknown : registry.knowsUrl url = false) (agentId : AgentId) (card : AgentCard)
    (found : registry.getCard agentId = some card) :
    card.supportedInterfaces.head? ≠ some url := by
  have missing : registry.getAgentIdByUrl url = none := by
    cases known : registry.getAgentIdByUrl url with
    | none => rfl
    | some other =>
        rw [knowsUrl, known, Option.any_some, decide_eq_false_iff_not, ne_eq,
          Decidable.not_not] at unknown
        subst unknown
        obtain ⟨entry, isFound, isEmpty⟩ := Option.map_eq_some_iff.mp known
        have stored : registry.getCard entry.1 = some entry.2 :=
          (Dict.mem_entries_iff _ _ _).mp (List.mem_of_find?_eq_some isFound)
        rw [isEmpty, discovered.named] at stored
        cases stored
  exact getAgentIdByUrl_eq_none_iff.mp missing agentId card found

/-- A card whose URL no agent has is registered. -/
theorem Discovered.register (discovered : registry.Discovered) {agentId : AgentId}
    {card : AgentCard} (named : agentId ≠ "")
    (free : ∀ url, card.supportedInterfaces.head? = some url → registry.knowsUrl url = false) :
    (registry.register agentId card).Discovered := by
  have others : ∀ other otherCard url, registry.getCard other = some otherCard →
      card.supportedInterfaces.head? = some url →
      otherCard.supportedInterfaces.head? ≠ some url :=
    fun other otherCard url found isUrl =>
      knowsUrl_eq_false discovered (free url isUrl) other otherCard found
  constructor
  · rw [getCard_register, if_neg (Ne.symm named)]
    exact discovered.named
  · intro first second firstCard secondCard url firstFound secondFound firstUrl secondUrl
    rw [getCard_register] at firstFound secondFound
    split at firstFound
    · split at secondFound
      · rename_i isFirst isSecond
        exact isFirst.trans isSecond.symm
      · cases firstFound
        exact absurd secondUrl (others second secondCard url secondFound firstUrl)
    · split at secondFound
      · cases secondFound
        exact absurd firstUrl (others first firstCard url firstFound secondUrl)
      · exact discovered.distinct first second firstCard secondCard url firstFound secondFound
          firstUrl secondUrl

/-- Calls of other coroutines add no card. -/
theorem Discovered.call (discovered : registry.Discovered) {call : Call}
    (registers : call.registers = false) : (registry.call call).Discovered := by
  apply discovered.mono
  intro agentId card found
  cases call with
  | register newAgentId newCard => cases registers
  | updateStatus updated status reason stuck =>
      rwa [AgentRegistry.call, getCard, updateStatus_cards] at found
  | setCurrentTask updated taskId =>
      rwa [AgentRegistry.call, getCard, setCurrentTask_cards] at found
  | remove removed =>
      rw [AgentRegistry.call, getCard, remove, Dict.get?_pop] at found
      split at found
      · cases found
      · exact found

/-- What the second segment does: nothing, or one registration of a card with a new URL. -/
theorem cardFetched_cases (registry : AgentRegistry) (newAgentId : AgentId)
    (fetched : Option AgentCard) :
    cardFetched registry newAgentId fetched = registry ∨
      ∃ card cardUrl, fetched = some card ∧ card.supportedInterfaces.head? = some cardUrl ∧
        registry.knowsUrl cardUrl = false ∧
        cardFetched registry newAgentId fetched = registry.register newAgentId card := by
  cases fetched with
  | none => exact Or.inl rfl
  | some card =>
      cases interfaces : card.supportedInterfaces with
      | nil =>
          left
          rw [cardFetched, interfaces]
      | cons cardUrl others =>
          cases known : registry.knowsUrl cardUrl with
          | true =>
              left
              simp only [cardFetched, interfaces, known, if_true]
          | false =>
              right
              refine ⟨card, cardUrl, rfl, by rw [interfaces]; rfl, known, ?_⟩
              simp only [cardFetched, interfaces, known, Bool.false_eq_true, if_false]

theorem Discovered.cardFetched (discovered : registry.Discovered) {newAgentId : AgentId}
    (named : newAgentId ≠ "") (fetched : Option AgentCard) :
    (cardFetched registry newAgentId fetched).Discovered := by
  rcases cardFetched_cases registry newAgentId fetched with
    same | ⟨card, cardUrl, -, isUrl, unknown, registered⟩
  · rw [same]
    exact discovered
  · rw [registered]
    apply discovered.register named
    intro url isAlso
    rw [isUrl, Option.some.injEq] at isAlso
    exact isAlso ▸ unknown

end AgentRegistry

namespace DiscoveryWorld

theorem discovered_step (world : DiscoveryWorld) (event : DiscoveryEvent)
    (next : DiscoveryWorld) (discovered : world.registry.Discovered)
    (stepped : world.step event = some next) : next.registry.Discovered := by
  cases event with
  | passStarted urls =>
      obtain rfl := Option.some.inj stepped
      exact discovered
  | probed index =>
      simp only [step] at stepped
      split at stepped
      · obtain rfl := Option.some.inj stepped
        exact discovered
      · cases stepped
  | fetched index card newAgentId =>
      simp only [step] at stepped
      split at stepped
      · split at stepped
        · cases stepped
        · rename_i named
          obtain rfl := Option.some.inj stepped
          exact discovered.cardFetched named card
      · cases stepped
  | other call =>
      simp only [step] at stepped
      split at stepped
      · cases stepped
      · rename_i registers
        obtain rfl := Option.some.inj stepped
        exact discovered.call (Bool.eq_false_iff.mpr registers)

/-- **Each agent once.** In every state of every interleaving of discovery passes, no two
registered agents have the same primary URL. -/
theorem agents_distinct (events : List DiscoveryEvent) :
    StepSystem.Throughout step (fun world => world.registry.DistinctUrls) initial events := by
  have nobody : initial.registry.Discovered := by
    constructor
    · rfl
    · intro first second firstCard secondCard url found
      cases found
  have always : StepSystem.Along step (fun _ _ => True) initial events :=
    StepSystem.along_of_forall (fun _ _ => trivial) initial events
  have discovered := StepSystem.throughout_of_along
    (fun world event next discovered _ stepped =>
      discovered_step world event next discovered stepped) nobody always
  exact StepSystem.throughout_mono (fun _ discovered => discovered.distinct) discovered

/-- What a probe registers under a new id is a discovery step of the orchestrator. -/
theorem discovered_of_fetched {config : OrchestratorConfig} {system : System} {now : Instant}
    {newAgentId : AgentId} {fetched : Option AgentCard}
    (fresh : system.shared.registry.contains newAgentId = false)
    (changes : cardFetched system.shared.registry newAgentId fetched ≠ system.shared.registry) :
    ∃ card, system.step config ⟨now, .discovered newAgentId card⟩ =
      some { system with
        shared := { system.shared with
          registry := cardFetched system.shared.registry newAgentId fetched } } := by
  rcases AgentRegistry.cardFetched_cases system.shared.registry newAgentId fetched with
    same | ⟨card, -, -, -, -, registered⟩
  · exact absurd same changes
  · refine ⟨card, ?_⟩
    rw [registered]
    exact if_neg (by rw [fresh]; exact Bool.false_ne_true)

end DiscoveryWorld

end QuAIA.Orchestrator
