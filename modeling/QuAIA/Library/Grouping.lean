import Mathlib.Data.List.Flatten
import Mathlib.Data.List.Induction
import Mathlib.Data.List.Perm.Basic
import QuAIA.Library.Dict

/-!
Contract: items that are collected under keys, as into a dictionary of lists.

Owns: appending under a key, and grouping pairs in turn; and that the groups have exactly the pairs,
each as often as it was given.
-/

set_option autoImplicit false

namespace QuAIA.Library.Grouping

universe u v

variable {κ : Type u} {α : Type v} [DecidableEq κ]

/-- Append an item under its key; an absent key starts with the empty list. -/
def append (groups : Dict κ (List α)) (pair : κ × α) : Dict κ (List α) :=
  groups.set pair.1 (groups.getD pair.1 [] ++ [pair.2])

def group (pairs : List (κ × α)) : Dict κ (List α) := pairs.foldl append .empty

omit [DecidableEq κ] in
/-- The pairs of an entry list, group by group. -/
def pairsOf (entries : List (κ × List α)) : List (κ × α) :=
  entries.flatMap fun entry => entry.2.map fun item => (entry.1, item)

section Rules

omit [DecidableEq κ] in
theorem pairsOf_cons (entry : κ × List α) (rest : List (κ × List α)) :
    pairsOf (entry :: rest) = (entry.2.map fun item => (entry.1, item)) ++ pairsOf rest := rfl

theorem pairsOf_write_perm {key : κ} {items : List α} (item : α) {entries : List (κ × List α)}
    (found : (Dict.lookup key entries).getD [] = items) :
    (pairsOf (Dict.write key (items ++ [item]) entries)).Perm
      (pairsOf entries ++ [(key, item)]) := by
  induction entries with
  | nil =>
      subst found
      exact List.Perm.refl _
  | cons entry rest inductionHypothesis =>
      by_cases hit : entry.1 = key
      · subst hit
        rw [Dict.lookup, if_pos rfl, Option.getD_some] at found
        subst found
        rw [Dict.write, if_pos rfl, pairsOf_cons, pairsOf_cons, List.map_append, List.append_assoc,
          List.append_assoc]
        exact List.Perm.append_left _ List.perm_append_comm
      · rw [Dict.lookup, if_neg hit] at found
        rw [Dict.write, if_neg hit, pairsOf_cons, pairsOf_cons, List.append_assoc]
        exact List.Perm.append_left _ (inductionHypothesis found)

theorem pairsOf_append_perm (groups : Dict κ (List α)) (pair : κ × α) :
    (pairsOf (append groups pair).entries).Perm (pairsOf groups.entries ++ [pair]) :=
  pairsOf_write_perm pair.2 rfl

/-- **The groups have the pairs.** -/
theorem pairsOf_group_perm (pairs : List (κ × α)) :
    (pairsOf (group pairs).entries).Perm pairs := by
  induction pairs using List.reverseRecOn with
  | nil => exact List.Perm.refl _
  | append_singleton pairs pair inductionHypothesis =>
      rw [group, List.foldl_append]
      exact (pairsOf_append_perm _ pair).trans (inductionHypothesis.append_right [pair])

end Rules

end QuAIA.Library.Grouping
