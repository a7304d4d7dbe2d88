import QuAIA.Agents.TestCaseGeneration
import QuAIA.Library.Absorbing

/-!
Contract: how `_merge_short_sections` distributes the sections of a document.

Owns: the merging as an absorbing fold; the groups of sections behind its output; and what a
second merging does.
-/

set_option autoImplicit false

namespace QuAIA.Agents

open QuAIA.Library

/-- The section that a short one is merged into. -/
def Section.absorb (prev sec : Section) : Section :=
  { prev with content := prev.content ++ appended sec.title sec.content }

/-- A section with the title lines and the contents of the sections merged into it. -/
def Section.joined (group : Section × List Section) : Section :=
  { group.1 with
    content := group.1.content ++ group.2.flatMap fun sec => appended sec.title sec.content }

/-- The output for consecutive groups of sections, of which every one but the first has a long
head, and all have short members. -/
structure MergedBy (minChars : Int) (sections merged : List Section)
    (groups : List (Section × List Section)) : Prop where
  partition : groups.flatMap (fun group => group.1 :: group.2) = sections
  longHead : ∀ group ∈ groups.tail, minChars ≤ group.1.charCount
  shortMembers : ∀ group ∈ groups, ∀ sec ∈ group.2, sec.charCount < minChars
  output : merged = groups.map Section.joined

/-- The first section is kept, under its id and title and with its content in front. -/
def KeepsFirst (sections merged : List Section) : Prop :=
  ∀ first ∈ sections.head?, ∃ kept ∈ merged.head?,
    kept.sectionId = first.sectionId ∧ kept.title = first.title ∧ first.content <+: kept.content

/-- A section that is not merged into the one before it. -/
abbrev IsLong (minChars : Int) (sec : Section) : Prop := minChars ≤ sec.charCount

theorem mergeSection_eq_step (minChars : Int) :
    mergeSection minChars = Absorbing.step (IsLong minChars) Section.absorb := by
  funext merged sec
  unfold mergeSection Absorbing.step
  by_cases short : (sec.charCount : Int) < minChars
  · have notLong : ¬IsLong minChars sec := Int.not_le.mpr short
    rw [if_pos short, if_neg notLong]
    cases merged.getLast? <;> rfl
  · have long : IsLong minChars sec := Int.not_lt.mp short
    rw [if_neg short, if_pos long]

theorem absorbed_eq_joined (group : Section × List Section) :
    Absorbing.absorbed Section.absorb group = Section.joined group := by
  obtain ⟨head, members⟩ := group
  unfold Absorbing.absorbed
  induction members generalizing head with
  | nil => simp [Section.joined]
  | cons member rest inductionHypothesis =>
      rw [List.foldl_cons, inductionHypothesis]
      simp [Section.joined, Section.absorb]

/-- The merged sections are the groups behind the first section. -/
theorem mergeShortSections_cons (first : Section) (rest : List Section) (minChars : Int) :
    mergeShortSections (first :: rest) minChars =
      (Absorbing.groups (IsLong minChars) first [] rest).map Section.joined := by
  have folded := Absorbing.foldl_step (IsLong minChars) Section.absorb [] first [] rest
  rw [← mergeSection_eq_step, List.nil_append, List.nil_append] at folded
  rw [← funext absorbed_eq_joined]
  exact folded

theorem mergedBy_groups (first : Section) (rest : List Section) (minChars : Int) :
    MergedBy minChars (first :: rest) (mergeShortSections (first :: rest) minChars)
      (Absorbing.groups (IsLong minChars) first [] rest) where
  partition := Absorbing.flatMap_groups (IsLong minChars) first [] rest
  longHead := by
    obtain ⟨more, others, split, every⟩ :=
      Absorbing.groups_eq_cons (IsLong minChars) first [] rest
    rw [split]
    exact every
  shortMembers group isGroup sec member :=
    Int.not_le.mp
      (Absorbing.not_starts_of_mem_groups (IsLong minChars) (by simp) isGroup sec member)
  output := mergeShortSections_cons first rest minChars

section Output

variable {minChars : Int} {sections merged : List Section}
  {groups : List (Section × List Section)}

theorem charCount_le_joined (group : Section × List Section) :
    group.1.charCount ≤ (Section.joined group).charCount := by
  simp [Section.charCount, Section.joined]

theorem MergedBy.long_tail (mergedBy : MergedBy minChars sections merged groups) :
    ∀ sec ∈ merged.tail, minChars ≤ sec.charCount := by
  rw [mergedBy.output, ← List.map_tail]
  intro sec member
  obtain ⟨group, isGroup, rfl⟩ := List.mem_map.mp member
  have long := mergedBy.longHead group isGroup
  have grown := charCount_le_joined group
  omega

theorem MergedBy.keepsFirst (mergedBy : MergedBy minChars sections merged groups) :
    KeepsFirst sections merged := by
  rw [mergedBy.output, ← mergedBy.partition]
  intro first isFirst
  cases groups with
  | nil => cases isFirst
  | cons group others =>
      rw [List.flatMap_cons, List.cons_append, List.head?_cons, Option.mem_some_iff] at isFirst
      refine ⟨Section.joined group, rfl, ?_⟩
      rw [← isFirst]
      exact ⟨rfl, rfl, List.prefix_append _ _⟩

end Output

/-- Sections that are all long but the first are not merged. -/
theorem mergeShortSections_eq_self {minChars : Int} {sections : List Section}
    (long : ∀ sec ∈ sections.tail, minChars ≤ sec.charCount) :
    mergeShortSections sections minChars = sections := by
  cases sections with
  | nil => rfl
  | cons first rest =>
      rw [mergeShortSections, mergeSection_eq_step]
      exact Absorbing.foldl_step_of_starts (IsLong minChars) Section.absorb long [first]

/-- **Merging of short sections.** The output is the sequence of some consecutive groups of the
sections, each joined into its head; all its sections but the first are long, the first section
is kept, and merging again changes nothing. -/
theorem mergeShortSections_groups (sections : List Section) (minChars : Int) :
    (∃ groups, MergedBy minChars sections (mergeShortSections sections minChars) groups) ∧
      (∀ sec ∈ (mergeShortSections sections minChars).tail, minChars ≤ sec.charCount) ∧
      KeepsFirst sections (mergeShortSections sections minChars) ∧
      mergeShortSections (mergeShortSections sections minChars) minChars =
        mergeShortSections sections minChars := by
  have grouped : ∃ groups,
      MergedBy minChars sections (mergeShortSections sections minChars) groups := by
    cases sections with
    | nil => exact ⟨[], rfl, nofun, nofun, rfl⟩
    | cons first rest => exact ⟨_, mergedBy_groups first rest minChars⟩
  obtain ⟨groups, mergedBy⟩ := grouped
  have long := mergedBy.long_tail
  exact ⟨⟨groups, mergedBy⟩, long, mergedBy.keepsFirst, mergeShortSections_eq_self long⟩

/-- A short first section absorbs short ones, until a long one follows. -/
example : mergeShortSections
    [⟨['1'], ['a'], ['b']⟩, ⟨['2'], ['c'], ['d']⟩, ⟨['3'], ['e'], "long".toList⟩] 3 =
    [⟨['1'], ['a'], "b\n\n### c\nd".toList⟩, ⟨['3'], ['e'], "long".toList⟩] := by
  decide

end QuAIA.Agents
