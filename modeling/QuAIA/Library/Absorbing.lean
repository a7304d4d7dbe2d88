import Mathlib.Data.List.Basic

/-!
Contract: a fold that keeps some elements of a list and lets each of them absorb what follows.

Owns: the step of the fold; the groups of a list, each a kept element with what it absorbs; the
fold as one absorption for each group; and that it leaves a list of kept elements alone.
-/

set_option autoImplicit false

namespace QuAIA.Library.Absorbing

universe u

variable {α : Type u} (starts : α → Prop) [DecidablePred starts] (absorb : α → α → α)

/-- An element that starts no group is absorbed by the last one kept. -/
def step (kept : List α) (element : α) : List α :=
  if starts element then kept ++ [element]
  else
    match kept.getLast? with
    | some last => kept.dropLast ++ [absorb last element]
    | none => kept

/-- The groups of a list behind a head with its first members. -/
def groups (head : α) (members : List α) : List α → List (α × List α)
  | [] => [(head, members)]
  | element :: rest =>
      if starts element then (head, members) :: groups element [] rest
      else groups head (members ++ [element]) rest

def absorbed (group : α × List α) : α := group.2.foldl absorb group.1

/-- The groups are consecutive parts of the list. -/
theorem flatMap_groups (head : α) (members rest : List α) :
    (groups starts head members rest).flatMap (fun group => group.1 :: group.2) =
      head :: (members ++ rest) := by
  induction rest generalizing head members with
  | nil => simp [groups]
  | cons element rest inductionHypothesis =>
      by_cases here : starts element
      · simp [groups, here, inductionHypothesis]
      · simp [groups, here, inductionHypothesis]

theorem not_starts_of_mem_groups {head : α} {members : List α}
    (follow : ∀ member ∈ members, ¬starts member) {rest : List α} {group : α × List α}
    (isGroup : group ∈ groups starts head members rest) :
    ∀ member ∈ group.2, ¬starts member := by
  induction rest generalizing head members with
  | nil =>
      rw [groups, List.mem_singleton] at isGroup
      rw [isGroup]
      exact follow
  | cons element rest inductionHypothesis =>
      by_cases here : starts element
      · rw [groups, if_pos here, List.mem_cons] at isGroup
        rcases isGroup with rfl | later
        · exact follow
        · exact inductionHypothesis (by simp) later
      · rw [groups, if_neg here] at isGroup
        refine inductionHypothesis ?_ isGroup
        intro member isMember
        rcases List.mem_append.mp isMember with earlier | isLast
        · exact follow member earlier
        · rw [List.mem_singleton.mp isLast]
          exact here

/-- The first group has the given head and at least the given members, and every other one a head
that starts it. -/
theorem groups_eq_cons (head : α) (members rest : List α) :
    ∃ more others, groups starts head members rest = (head, members ++ more) :: others ∧
      ∀ group ∈ others, starts group.1 := by
  induction rest generalizing head members with
  | nil => exact ⟨[], [], by rw [groups, List.append_nil], nofun⟩
  | cons element rest inductionHypothesis =>
      by_cases here : starts element
      · obtain ⟨more, others, split, every⟩ := inductionHypothesis element []
        refine ⟨[], groups starts element [] rest, ?_, ?_⟩
        · rw [groups, if_pos here, List.append_nil]
        · rw [split]
          intro group member
          rcases List.mem_cons.mp member with rfl | later
          · exact here
          · exact every group later
      · obtain ⟨more, others, split, every⟩ := inductionHypothesis head (members ++ [element])
        refine ⟨element :: more, others, ?_, every⟩
        rw [groups, if_neg here, split, List.append_assoc, List.singleton_append]

/-- **The fold by groups.** -/
theorem foldl_step (kept : List α) (head : α) (members rest : List α) :
    rest.foldl (step starts absorb) (kept ++ [absorbed absorb (head, members)]) =
      kept ++ (groups starts head members rest).map (absorbed absorb) := by
  induction rest generalizing kept head members with
  | nil => rfl
  | cons element rest inductionHypothesis =>
      rw [List.foldl_cons, groups]
      by_cases here : starts element
      · have stepped : step starts absorb (kept ++ [absorbed absorb (head, members)]) element =
            (kept ++ [absorbed absorb (head, members)]) ++ [absorbed absorb (element, [])] := by
          rw [step, if_pos here]
          rfl
        rw [stepped, inductionHypothesis, if_pos here, List.map_cons, List.append_assoc,
          List.singleton_append]
      · have stepped : step starts absorb (kept ++ [absorbed absorb (head, members)]) element =
            kept ++ [absorbed absorb (head, members ++ [element])] := by
          simp [step, here, absorbed]
        rw [stepped, inductionHypothesis, if_neg here]

/-- Elements that all start groups are all kept. -/
theorem foldl_step_of_starts {rest : List α} (every : ∀ element ∈ rest, starts element)
    (kept : List α) : rest.foldl (step starts absorb) kept = kept ++ rest := by
  induction rest generalizing kept with
  | nil => simp
  | cons element rest inductionHypothesis =>
      have later := inductionHypothesis (fun other member => every other (by simp [member]))
      rw [List.foldl_cons, step, if_pos (every element (by simp)), later, List.append_assoc,
        List.singleton_append]

end QuAIA.Library.Absorbing
