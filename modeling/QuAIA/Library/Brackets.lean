import Mathlib.Data.List.Basic

/-!
Contract: the outermost bracket groups of a sequence, read from the left.

Owns: the depth after each symbol, the cut at the symbol that closes all that is
open, the groups of a sequence, and how both follow a sequence that is joined
from two.

A closing bracket where nothing is open is no bracket, and a group that is never
closed is none.
-/

set_option autoImplicit false

namespace QuAIA.Library.Brackets

variable {α : Type} [DecidableEq α] (opening closing : α)

def depthStep (depth : Nat) (symbol : α) : Nat :=
  if symbol = opening then depth + 1
  else if symbol = closing then depth - 1
  else depth

def depthAfter : Nat → List α → Nat
  | depth, [] => depth
  | depth, symbol :: rest => depthAfter (depthStep opening closing depth symbol) rest

/-- Everything that is opened is closed by the last symbol, and not before. -/
structure ClosesAtEnd (symbols : List α) : Prop where
  nonempty : symbols ≠ []
  closed : depthAfter opening closing 0 symbols = 0
  openBefore : ∀ first rest, symbols = first ++ rest → first ≠ [] → rest ≠ [] →
    0 < depthAfter opening closing 0 first

/-- The sequence up to the symbol after which nothing is open, and the rest. -/
def cut : Nat → List α → Option (List α × List α)
  | _, [] => none
  | depth, symbol :: rest =>
      if depthStep opening closing depth symbol = 0 then some ([symbol], rest)
      else
        (cut (depthStep opening closing depth symbol) rest).map fun parts =>
          (symbol :: parts.1, parts.2)

/-- The groups, with `current` as what is open so far. -/
def groupsFrom : Nat → List α → List α → List (List α)
  | _, _, [] => []
  | depth, current, symbol :: rest =>
      if depthStep opening closing depth symbol = 0 then
        if depth = 0 then groupsFrom 0 [] rest
        else (current ++ [symbol]) :: groupsFrom 0 [] rest
      else groupsFrom (depthStep opening closing depth symbol) (current ++ [symbol]) rest

def groups (symbols : List α) : List (List α) := groupsFrom opening closing 0 [] symbols

/-- What is open after the sequence. -/
def openPart : Nat → List α → List α → List α
  | _, current, [] => current
  | depth, current, symbol :: rest =>
      if depthStep opening closing depth symbol = 0 then openPart 0 [] rest
      else openPart (depthStep opening closing depth symbol) (current ++ [symbol]) rest

variable {opening closing}

/-! ## Depth -/

@[simp]
theorem depthStep_opening (depth : Nat) : depthStep opening closing depth opening = depth + 1 := by
  simp [depthStep]

theorem depthStep_of_ne {symbol : α} (notOpening : symbol ≠ opening)
    (notClosing : symbol ≠ closing) (depth : Nat) :
    depthStep opening closing depth symbol = depth := by
  simp [depthStep, notOpening, notClosing]

theorem depthStep_zero_of_ne {symbol : α} (notOpening : symbol ≠ opening) :
    depthStep opening closing 0 symbol = 0 := by
  simp [depthStep, notOpening]

/-- Only a closing bracket brings the depth down to zero. -/
theorem closing_of_depthStep {depth : Nat} {symbol : α} (positive : depth ≠ 0)
    (step : depthStep opening closing depth symbol = 0) : symbol = closing := by
  unfold depthStep at step
  split at step
  · omega
  split at step
  · next isClosing => exact isClosing
  · omega

/-! ## Cutting -/

theorem cut_append {depth : Nat} {symbols first rest : List α}
    (parts : cut opening closing depth symbols = some (first, rest)) :
    symbols = first ++ rest := by
  induction symbols generalizing depth first with
  | nil => cases parts
  | cons symbol others inductionHypothesis =>
      unfold cut at parts
      split at parts
      · cases parts
        rfl
      · obtain ⟨⟨inner, remaining⟩, innerCut, same⟩ := Option.map_eq_some_iff.mp parts
        cases same
        rw [inductionHypothesis innerCut]
        rfl

/-- With something open, what is cut off ends with a closing bracket. -/
theorem cut_last {depth : Nat} (positive : depth ≠ 0) {symbols first rest : List α}
    (parts : cut opening closing depth symbols = some (first, rest)) :
    ∃ start, first = start ++ [closing] := by
  induction symbols generalizing depth first with
  | nil => cases parts
  | cons symbol others inductionHypothesis =>
      unfold cut at parts
      split at parts
      · next closed =>
          cases parts
          exact ⟨[], by rw [closing_of_depthStep positive closed]; rfl⟩
      · next stillOpen =>
          obtain ⟨⟨inner, remaining⟩, innerCut, same⟩ := Option.map_eq_some_iff.mp parts
          cases same
          obtain ⟨start, rfl⟩ := inductionHypothesis stillOpen innerCut
          exact ⟨symbol :: start, rfl⟩

theorem cut_opening (rest : List α) :
    cut opening closing 0 (opening :: rest) =
      (cut opening closing 1 rest).map fun parts => (opening :: parts.1, parts.2) := by
  simp [cut]

theorem cut_opening_last {symbols first rest : List α}
    (parts : cut opening closing 0 (opening :: symbols) = some (first, rest)) :
    ∃ start, first = start ++ [closing] := by
  rw [cut_opening] at parts
  obtain ⟨⟨inner, remaining⟩, innerCut, same⟩ := Option.map_eq_some_iff.mp parts
  cases same
  obtain ⟨start, rfl⟩ := cut_last (by simp) innerCut
  exact ⟨opening :: start, rfl⟩

/-- What is cut off is open until its last symbol. -/
theorem cut_eq_some {depth : Nat} {symbols first rest : List α}
    (parts : cut opening closing depth symbols = some (first, rest)) :
    first ≠ [] ∧ depthAfter opening closing depth first = 0 ∧
      ∀ start more, first = start ++ more → start ≠ [] → more ≠ [] →
        0 < depthAfter opening closing depth start := by
  induction symbols generalizing depth first with
  | nil => cases parts
  | cons symbol others inductionHypothesis =>
      unfold cut at parts
      split at parts
      · next closed =>
          cases parts
          refine ⟨by simp, closed, ?_⟩
          intro start more joined nonempty further
          have lengths := congrArg List.length joined
          have startLength := List.length_pos_of_ne_nil nonempty
          have moreLength := List.length_pos_of_ne_nil further
          simp only [List.length_singleton, List.length_append] at lengths
          omega
      · next stillOpen =>
          obtain ⟨⟨inner, remaining⟩, innerCut, same⟩ := Option.map_eq_some_iff.mp parts
          cases same
          obtain ⟨_, closed, openBefore⟩ := inductionHypothesis innerCut
          refine ⟨by simp, closed, ?_⟩
          intro start more joined nonempty further
          cases start with
          | nil => exact absurd rfl nonempty
          | cons head tail =>
              injection joined with sameHead sameTail
              subst sameHead
              cases tail with
              | nil => exact Nat.pos_of_ne_zero stillOpen
              | cons next later => exact openBefore _ _ sameTail (by simp) further

theorem cut_of_closes {depth : Nat} {first : List α} (rest : List α) (nonempty : first ≠ [])
    (closed : depthAfter opening closing depth first = 0)
    (openBefore : ∀ start more, first = start ++ more → start ≠ [] → more ≠ [] →
      0 < depthAfter opening closing depth start) :
    cut opening closing depth (first ++ rest) = some (first, rest) := by
  induction first generalizing depth with
  | nil => exact absurd rfl nonempty
  | cons symbol others inductionHypothesis =>
      cases others with
      | nil =>
          have step : depthStep opening closing depth symbol = 0 := closed
          simp [cut, step]
      | cons next later =>
          have stillOpen : 0 < depthStep opening closing depth symbol :=
            openBefore [symbol] (next :: later) rfl (by simp) (by simp)
          have inner := inductionHypothesis (by simp) closed (by
            intro start more joined nonemptyStart further
            exact openBefore (symbol :: start) more (by rw [joined]; rfl) (by simp) further)
          rw [List.cons_append, cut, if_neg (by omega), inner]
          rfl

theorem closesAtEnd_iff {symbols : List α} :
    ClosesAtEnd opening closing symbols ↔ cut opening closing 0 symbols = some (symbols, []) := by
  constructor
  · intro closes
    have whole := cut_of_closes [] closes.nonempty closes.closed closes.openBefore
    rwa [List.append_nil] at whole
  · intro whole
    obtain ⟨nonempty, closed, openBefore⟩ := cut_eq_some whole
    exact ⟨nonempty, closed, openBefore⟩

/-! ## Groups -/

theorem groupsFrom_append (depth : Nat) (current first second : List α) :
    groupsFrom opening closing depth current (first ++ second) =
      groupsFrom opening closing depth current first ++
        groupsFrom opening closing (depthAfter opening closing depth first)
          (openPart opening closing depth current first) second := by
  induction first generalizing depth current with
  | nil => rfl
  | cons symbol rest inductionHypothesis =>
      simp only [List.cons_append, groupsFrom, depthAfter, openPart]
      split
      · next closed =>
          rw [closed]
          split
          · exact inductionHypothesis 0 []
          · rw [inductionHypothesis 0 [], List.cons_append]
      · exact inductionHypothesis _ _

theorem openPart_eq_nil {depth : Nat} {current symbols : List α}
    (fresh : depth = 0 → current = []) (closed : depthAfter opening closing depth symbols = 0) :
    openPart opening closing depth current symbols = [] := by
  induction symbols generalizing depth current with
  | nil => exact fresh closed
  | cons symbol rest inductionHypothesis =>
      unfold openPart
      split
      · next step =>
          have restClosed : depthAfter opening closing 0 rest = 0 := step ▸ closed
          exact inductionHypothesis (fun _ => rfl) restClosed
      · next stillOpen => exact inductionHypothesis (fun step => absurd step stillOpen) closed

/-- With something open, the first group ends at the cut and the others follow it. -/
theorem groupsFrom_cut {depth : Nat} (positive : depth ≠ 0) (current symbols : List α) :
    groupsFrom opening closing depth current symbols =
      match cut opening closing depth symbols with
      | none => []
      | some (first, rest) => (current ++ first) :: groups opening closing rest := by
  induction symbols generalizing depth current with
  | nil => rfl
  | cons symbol rest inductionHypothesis =>
      unfold groupsFrom cut
      by_cases step : depthStep opening closing depth symbol = 0
      · rw [if_pos step, if_neg positive, if_pos step]
        rfl
      · rw [if_neg step, if_neg step, inductionHypothesis step]
        cases cut opening closing (depthStep opening closing depth symbol) rest with
        | none => rfl
        | some parts => simp

theorem groups_opening (rest : List α) :
    groups opening closing (opening :: rest) =
      match cut opening closing 0 (opening :: rest) with
      | none => []
      | some (first, remaining) => first :: groups opening closing remaining := by
  have opened : groups opening closing (opening :: rest) =
      groupsFrom opening closing 1 [opening] rest := by
    simp [groups, groupsFrom]
  rw [opened, groupsFrom_cut (by simp), cut_opening]
  cases cut opening closing 1 rest with
  | none => rfl
  | some parts => rfl

theorem groups_skip {before : List α} (noOpening : opening ∉ before) (rest : List α) :
    groups opening closing (before ++ rest) = groups opening closing rest := by
  induction before with
  | nil => rfl
  | cons symbol others inductionHypothesis =>
      rw [List.mem_cons, not_or] at noOpening
      have step : depthStep opening closing 0 symbol = 0 :=
        depthStep_zero_of_ne (Ne.symm noOpening.1)
      have skipped : groups opening closing (symbol :: others ++ rest) =
          groups opening closing (others ++ rest) := by
        simp [groups, groupsFrom, step]
      rw [skipped, inductionHypothesis noOpening.2]

/-- Symbols that are no brackets stay in what is open. -/
theorem cut_plain {depth : Nat} (positive : depth ≠ 0) {plain : List α}
    (noOpening : opening ∉ plain) (noClosing : closing ∉ plain) (rest : List α) :
    cut opening closing depth (plain ++ rest) =
      (cut opening closing depth rest).map fun parts => (plain ++ parts.1, parts.2) := by
  induction plain with
  | nil => simp
  | cons symbol others inductionHypothesis =>
      rw [List.mem_cons, not_or] at noOpening noClosing
      have step := depthStep_of_ne (Ne.symm noOpening.1) (Ne.symm noClosing.1) depth
      have inner := inductionHypothesis noOpening.2 noClosing.2
      rw [List.cons_append, cut, step, if_neg positive, inner, Option.map_map]
      rfl

/-- A group stands in the sequence, between an opening and a closing bracket. -/
theorem mem_groupsFrom {depth : Nat} {current symbols group : List α}
    (fresh : depth = 0 → current = [])
    (opened : depth ≠ 0 → ∃ inner, current = opening :: inner)
    (member : group ∈ groupsFrom opening closing depth current symbols) :
    ∃ before body behind, current ++ symbols = before ++ (group ++ behind) ∧
      group = opening :: body ++ [closing] := by
  induction symbols generalizing depth current with
  | nil => cases member
  | cons symbol rest inductionHypothesis =>
      unfold groupsFrom at member
      split at member
      · next step =>
          split at member
          · next outside =>
              obtain ⟨before, body, behind, same, shape⟩ :=
                inductionHypothesis (fun _ => rfl) (by simp) member
              refine ⟨symbol :: before, body, behind, ?_, shape⟩
              rw [fresh outside, List.nil_append, List.cons_append, ← same, List.nil_append]
          · next inside =>
              rcases List.mem_cons.mp member with rfl | later
              · obtain ⟨inner, rfl⟩ := opened inside
                have isClosing := closing_of_depthStep inside step
                exact ⟨[], inner, rest, by simp, by rw [isClosing]⟩
              · obtain ⟨before, body, behind, same, shape⟩ :=
                  inductionHypothesis (fun _ => rfl) (by simp) later
                refine ⟨current ++ symbol :: before, body, behind, ?_, shape⟩
                rw [List.append_assoc, List.cons_append, ← same, List.nil_append]
      · next stillOpen =>
          have nextOpened : ∃ inner, current ++ [symbol] = opening :: inner := by
            by_cases outside : depth = 0
            · have isOpening : symbol = opening := by
                by_contra other
                rw [outside] at stillOpen
                exact stillOpen (depthStep_zero_of_ne other)
              exact ⟨[], by rw [fresh outside, isOpening]; rfl⟩
            · obtain ⟨inner, rfl⟩ := opened outside
              exact ⟨inner ++ [symbol], rfl⟩
          obtain ⟨before, body, behind, same, shape⟩ :=
            inductionHypothesis (fun step => absurd step stillOpen) (fun _ => nextOpened) member
          rw [List.append_assoc, List.singleton_append] at same
          exact ⟨before, body, behind, same, shape⟩

theorem mem_groups {symbols group : List α} (member : group ∈ groups opening closing symbols) :
    ∃ before body behind, symbols = before ++ (opening :: body ++ [closing] ++ behind) ∧
      group = opening :: body ++ [closing] := by
  obtain ⟨before, body, behind, same, shape⟩ :=
    mem_groupsFrom (fun _ => rfl) (by simp) member
  exact ⟨before, body, behind, by rw [← shape, ← same, List.nil_append], shape⟩

end QuAIA.Library.Brackets
