import Mathlib.Data.List.Perm.Basic
import Mathlib.Data.List.Nodup
import QuAIA.Library.ExitStack

/-!
Contract: the contexts of the managed agents over the lifetime of a server
(`AgentBase._lifespan`).

Owns: the attempts to enter all contexts, each on a fresh exit stack; the shutdown; and which
contexts are open where the server starts, fails to start, or has shut down.

Does not own: the pause between two attempts, and the vector database that is closed last.
-/

set_option autoImplicit false

namespace QuAIA.Common

open QuAIA.Library

variable {Agent : Type}

/-- How the entry of one context ends: it is open, or an `Exception` was raised, or the startup
was cancelled, which is no `Exception`. -/
inductive Entry where
  | entered
  | failed
  | cancelled
deriving DecidableEq

/-- The context of a managed agent that was opened by an attempt, at a place of the list. -/
structure Opening (Agent : Type) where
  attempt : Nat
  place : Nat
  agent : Agent
deriving DecidableEq

/-- All contexts, opened by one attempt. -/
def openings (attempt : Nat) (managedAgents : List Agent) : List (Opening Agent) :=
  managedAgents.zipIdx.map fun (agent, place) => ⟨attempt, place, agent⟩

/-- The loop over the managed agents in one attempt. -/
def enterContexts (entries : Nat → Entry) :
    List (Opening Agent) → ExitStack (Opening Agent) → ExitStack (Opening Agent) × Entry
  | [], stack => (stack, .entered)
  | opening :: rest, stack =>
      match entries opening.place with
      | .entered => enterContexts entries rest (stack.enter opening)
      | other => (stack, other)

/-- Where the start of the server ends. -/
inductive Startup where
  | yields
  | runtimeError
  | cancelled
deriving DecidableEq

/-- The attempts from one on, with the number of those that `range` still has. -/
def startContexts (maxRetries : Nat) (managedAgents : List Agent)
    (entries : Nat → Nat → Entry) :
    Nat → Nat → ExitStack (Opening Agent) → ExitStack (Opening Agent) × Startup
  | 0, _, stack => (stack, .yields)
  | remaining + 1, attempt, stack =>
      match enterContexts (entries attempt) (openings attempt managedAgents) stack with
      | (stack, .entered) => (stack, .yields)
      | (stack, .failed) =>
          if attempt + 1 < maxRetries then
            startContexts maxRetries managedAgents entries remaining (attempt + 1) stack.aclose
          else (stack.aclose, .runtimeError)
      | (stack, .cancelled) => (stack, .cancelled)

/-- `_lifespan` up to its `yield`. -/
def lifespanStart (maxRetries : Nat) (managedAgents : List Agent) (entries : Nat → Nat → Entry) :
    ExitStack (Opening Agent) × Startup :=
  startContexts maxRetries managedAgents entries maxRetries 0 .empty

/-- `_lifespan` to its end. The server shuts down only if it started. -/
def lifespan (maxRetries : Nat) (managedAgents : List Agent) (entries : Nat → Nat → Entry) :
    ExitStack (Opening Agent) :=
  match lifespanStart maxRetries managedAgents entries with
  | (stack, .yields) => stack.aclose
  | (stack, _) => stack

/-- The entries of a pattern of failures. -/
def entriesOf (fails : Nat → Nat → Bool) (attempt place : Nat) : Entry :=
  if fails attempt place then .failed else .entered

/-! ## One attempt -/

theorem nodup_openings (attempt : Nat) (managedAgents : List Agent) :
    (openings attempt managedAgents).Nodup := by
  have places : ((openings attempt managedAgents).map Opening.place).Nodup := by
    rw [openings, List.map_map]
    show (managedAgents.zipIdx.map Prod.snd).Nodup
    rw [List.zipIdx_map_snd]
    exact List.nodup_range'
  exact List.Nodup.of_map _ places

theorem attempt_of_mem_openings {attempt : Nat} {managedAgents : List Agent}
    {opening : Opening Agent} (member : opening ∈ openings attempt managedAgents) :
    opening.attempt = attempt := by
  obtain ⟨⟨agent, place⟩, -, rfl⟩ := List.mem_map.mp member
  rfl

/-- The loop puts a first part of the contexts on the stack, all of them if no entry failed. -/
theorem enterContexts_spec (entries : Nat → Entry) (contexts : List (Opening Agent))
    {stack : ExitStack (Opening Agent)} (balanced : stack.Balanced)
    (fresh : ∀ context ∈ contexts, context ∉ stack.opened) (distinct : contexts.Nodup) :
    ∃ entered rest, contexts = entered ++ rest ∧
      (enterContexts entries contexts stack).1.Balanced ∧
      (enterContexts entries contexts stack).1.entered = stack.entered ++ entered ∧
      (enterContexts entries contexts stack).1.opened = stack.opened ++ entered ∧
      ((enterContexts entries contexts stack).2 = .entered → rest = []) := by
  induction contexts generalizing stack with
  | nil =>
      simp only [enterContexts]
      exact ⟨[], [], rfl, balanced, by simp, by simp, fun _ => rfl⟩
  | cons context others inductionHypothesis =>
      rw [List.nodup_cons] at distinct
      cases entry : entries context.place with
      | entered =>
          have othersFresh : ∀ other ∈ others, other ∉ (stack.enter context).opened := by
            intro other member inOpened
            rcases List.mem_append.mp inOpened with earlier | isContext
            · exact fresh other (List.mem_cons_of_mem _ member) earlier
            · rw [List.mem_singleton.mp isContext] at member
              exact distinct.1 member
          obtain ⟨entered, rest, split, nextBalanced, nextEntered, nextOpened, complete⟩ :=
            inductionHypothesis (balanced.enter (fresh context List.mem_cons_self)) othersFresh
              distinct.2
          simp only [enterContexts, entry]
          refine ⟨context :: entered, rest, ?_, nextBalanced, ?_, ?_, complete⟩
          · rw [split, List.cons_append]
          · rw [nextEntered, ExitStack.enter, List.append_assoc, List.singleton_append]
          · rw [nextOpened, ExitStack.enter, List.append_assoc, List.singleton_append]
      | failed =>
          simp only [enterContexts, entry]
          exact ⟨[], context :: others, rfl, balanced, by simp, by simp, fun same => by cases same⟩
      | cancelled =>
          simp only [enterContexts, entry]
          exact ⟨[], context :: others, rfl, balanced, by simp, by simp, fun same => by cases same⟩

theorem cancelled_of_enterContexts {entries : Nat → Entry} {contexts : List (Opening Agent)}
    {stack : ExitStack (Opening Agent)}
    (cancelled : (enterContexts entries contexts stack).2 = .cancelled) :
    ∃ place, entries place = .cancelled := by
  induction contexts generalizing stack with
  | nil => cases cancelled
  | cons context others inductionHypothesis =>
      cases entry : entries context.place with
      | entered =>
          simp only [enterContexts, entry] at cancelled
          exact inductionHypothesis cancelled
      | failed =>
          simp only [enterContexts, entry] at cancelled
          cases cancelled
      | cancelled => exact ⟨context.place, entry⟩

/-! ## All attempts -/

/-- What is on the stack where the start ends: all contexts of one attempt, none, or those that one
attempt had entered when it was cancelled. -/
def Started (maxRetries : Nat) (managedAgents : List Agent) (stack : ExitStack (Opening Agent)) :
    Startup → Prop
  | .yields => ∃ attempt < maxRetries, stack.entered = openings attempt managedAgents
  | .runtimeError => stack.entered = []
  | .cancelled => ∃ attempt < maxRetries, stack.entered <+: openings attempt managedAgents

/-- Before each attempt the stack is empty, and what was opened is from earlier attempts. -/
theorem startContexts_spec {maxRetries : Nat} (managedAgents : List Agent)
    (entries : Nat → Nat → Entry) {remaining attempt : Nat} {stack : ExitStack (Opening Agent)}
    (counted : attempt + remaining = maxRetries) (someLeft : attempt < maxRetries)
    (balanced : stack.Balanced) (fresh : stack.entered = [])
    (earlier : ∀ context ∈ stack.opened, context.attempt < attempt) :
    (startContexts maxRetries managedAgents entries remaining attempt stack).1.Balanced ∧
      Started maxRetries managedAgents
        (startContexts maxRetries managedAgents entries remaining attempt stack).1
        (startContexts maxRetries managedAgents entries remaining attempt stack).2 := by
  induction remaining generalizing attempt stack with
  | zero => omega
  | succ remaining inductionHypothesis =>
      have unopened : ∀ context ∈ openings attempt managedAgents, context ∉ stack.opened := by
        intro context member isOpened
        have before := earlier context isOpened
        rw [attempt_of_mem_openings member] at before
        exact Nat.lt_irrefl attempt before
      obtain ⟨entered, rest, split, nextBalanced, nextEntered, nextOpened, complete⟩ :=
        enterContexts_spec (entries attempt) (openings attempt managedAgents) balanced unopened
          (nodup_openings attempt managedAgents)
      rw [fresh, List.nil_append] at nextEntered
      cases result : enterContexts (entries attempt) (openings attempt managedAgents) stack with
      | mk after entry =>
          rw [result] at nextBalanced nextEntered nextOpened complete
          cases entry with
          | entered =>
              simp only [startContexts, result]
              rw [complete rfl, List.append_nil] at split
              exact ⟨nextBalanced, attempt, someLeft, nextEntered.trans split.symm⟩
          | failed =>
              simp only [startContexts, result]
              split
              · rename_i again
                refine inductionHypothesis (by omega) again nextBalanced.aclose rfl ?_
                intro context member
                rw [ExitStack.aclose, nextOpened] at member
                rcases List.mem_append.mp member with before | now
                · exact Nat.lt_succ_of_lt (earlier context before)
                · have ofAttempt : context ∈ openings attempt managedAgents := by
                    rw [split]
                    exact List.mem_append_left rest now
                  rw [attempt_of_mem_openings ofAttempt]
                  exact Nat.lt_succ_self attempt
              · exact ⟨nextBalanced.aclose, rfl⟩
          | cancelled =>
              simp only [startContexts, result]
              refine ⟨nextBalanced, attempt, someLeft, ?_⟩
              rw [nextEntered, split]
              exact List.prefix_append entered rest

theorem cancelled_of_startContexts {maxRetries : Nat} {managedAgents : List Agent}
    {entries : Nat → Nat → Entry} {remaining attempt : Nat} {stack : ExitStack (Opening Agent)}
    (cancelled : (startContexts maxRetries managedAgents entries remaining attempt stack).2 =
      .cancelled) : ∃ attempt place, entries attempt place = .cancelled := by
  induction remaining generalizing attempt stack with
  | zero => cases cancelled
  | succ remaining inductionHypothesis =>
      cases result : enterContexts (entries attempt) (openings attempt managedAgents) stack with
      | mk after entry =>
          simp only [startContexts, result] at cancelled
          cases entry with
          | entered => cases cancelled
          | failed =>
              dsimp only at cancelled
              split at cancelled
              · exact inductionHypothesis cancelled
              · cases cancelled
          | cancelled =>
              obtain ⟨place, isCancelled⟩ :=
                cancelled_of_enterContexts (congrArg Prod.snd result)
              exact ⟨attempt, place, isCancelled⟩

/-- The start of a server, whatever its entries do. -/
theorem lifespanStart_spec {maxRetries : Nat} (positive : 1 ≤ maxRetries)
    (managedAgents : List Agent) (entries : Nat → Nat → Entry) :
    (lifespanStart maxRetries managedAgents entries).1.Balanced ∧
      Started maxRetries managedAgents (lifespanStart maxRetries managedAgents entries).1
        (lifespanStart maxRetries managedAgents entries).2 :=
  startContexts_spec managedAgents entries (Nat.zero_add maxRetries) positive
    ExitStack.balanced_empty rfl nofun

/-- A start that is cancelled leaves open what its attempt has entered. -/
theorem stillOpen_of_cancelled [DecidableEq Agent] {maxRetries : Nat} (positive : 1 ≤ maxRetries)
    (managedAgents : List Agent) (entries : Nat → Nat → Entry)
    (cancelled : (lifespanStart maxRetries managedAgents entries).2 = .cancelled) :
    ∃ attempt entered, attempt < maxRetries ∧ entered <+: openings attempt managedAgents ∧
      (lifespan maxRetries managedAgents entries).stillOpen.Perm entered := by
  obtain ⟨balanced, started⟩ := lifespanStart_spec positive managedAgents entries
  rw [cancelled] at started
  obtain ⟨attempt, before, isPrefix⟩ := started
  have unclosed : lifespan maxRetries managedAgents entries =
      (lifespanStart maxRetries managedAgents entries).1 := by
    cases result : lifespanStart maxRetries managedAgents entries with
    | mk stack startup =>
        rw [result] at cancelled
        cases cancelled
        simp only [lifespan, result]
  rw [unclosed]
  exact ⟨attempt, _, before, isPrefix, balanced.stillOpen_perm⟩

/-- **Lifespan.** Whichever entries fail in each attempt, the server starts with exactly the
contexts of one attempt open, each once, or its start raises with none open; and at the end every
context that was opened was closed once. -/
theorem lifespan_balanced [DecidableEq Agent] {maxRetries : Nat} (positive : 1 ≤ maxRetries)
    (managedAgents : List Agent) (fails : Nat → Nat → Bool) :
    (((lifespanStart maxRetries managedAgents (entriesOf fails)).2 = .yields ∧
        ∃ attempt < maxRetries,
          (lifespanStart maxRetries managedAgents (entriesOf fails)).1.stillOpen.Perm
            (openings attempt managedAgents)) ∨
      ((lifespanStart maxRetries managedAgents (entriesOf fails)).2 = .runtimeError ∧
        (lifespanStart maxRetries managedAgents (entriesOf fails)).1.stillOpen = [])) ∧
      (lifespan maxRetries managedAgents (entriesOf fails)).closed.Nodup ∧
      (lifespan maxRetries managedAgents (entriesOf fails)).closed.Perm
        (lifespan maxRetries managedAgents (entriesOf fails)).opened := by
  obtain ⟨balanced, started⟩ := lifespanStart_spec positive managedAgents (entriesOf fails)
  have closesAll : ∀ stack : ExitStack (Opening Agent), stack.Balanced → stack.entered = [] →
      stack.closed.Nodup ∧ stack.closed.Perm stack.opened := by
    intro stack isBalanced nothing
    have all := isBalanced.closed_perm nothing
    exact ⟨all.nodup_iff.mpr isBalanced.distinct, all⟩
  cases result : lifespanStart maxRetries managedAgents (entriesOf fails) with
  | mk stack startup =>
      rw [result] at balanced started
      cases startup with
      | yields =>
          obtain ⟨attempt, before, all⟩ := started
          simp only [lifespan, result]
          refine ⟨Or.inl ⟨trivial, attempt, before, ?_⟩, closesAll _ balanced.aclose rfl⟩
          rw [← all]
          exact balanced.stillOpen_perm
      | runtimeError =>
          have nothing : stack.entered = [] := started
          simp only [lifespan, result]
          refine ⟨Or.inr ⟨trivial, ?_⟩, closesAll stack balanced nothing⟩
          have still := balanced.stillOpen_perm
          rw [nothing] at still
          exact still.eq_nil
      | cancelled =>
          obtain ⟨attempt, place, isCancelled⟩ :=
            cancelled_of_startContexts (congrArg Prod.snd result)
          unfold entriesOf at isCancelled
          split at isCancelled <;> cases isCancelled

/-- The second of two agents fails in the first attempt only. -/
theorem lifespan_balanced_secondAttempt :
    (lifespan 3 ["generator", "judge"]
        (entriesOf fun attempt place => attempt = 0 && place = 1)).closed.Perm
      (lifespan 3 ["generator", "judge"]
        (entriesOf fun attempt place => attempt = 0 && place = 1)).opened :=
  (lifespan_balanced (by decide) ["generator", "judge"] _).2.2

end QuAIA.Common
