import QuAIA.Library.Dict

/-!
Contract: an index of a list of references by a key that each reference may have.

Owns: the statement that a dictionary is the index of a list, and its preservation when
the first reference leaves the list, when a reference joins it at the end, and when
keys are read from a changed heap.
-/

set_option autoImplicit false

namespace QuAIA.Library

universe u v

variable {ρ : Type u} {κ : Type v} [DecidableEq κ]

/-- The dictionary maps exactly the keys of the listed references, each to the one
reference that has it. -/
structure Indexes (keyOf : ρ → Option κ) (items : List ρ) (index : Dict κ ρ) : Prop where
  nodup : items.Nodup
  indexed : ∀ key item, index.get? key = some item ↔ item ∈ items ∧ keyOf item = some key

/-- The index without a key, if there is one. -/
def unregister (index : Dict κ ρ) : Option κ → Dict κ ρ
  | some key => index.pop key
  | none => index

/-- The index with a key for a reference, if it has one. -/
def register (index : Dict κ ρ) (item : ρ) : Option κ → Dict κ ρ
  | some key => index.set key item
  | none => index

namespace Indexes

variable {keyOf : ρ → Option κ} {items : List ρ} {index : Dict κ ρ}

theorem empty (keyOf : ρ → Option κ) : Indexes keyOf [] Dict.empty := by
  refine ⟨List.nodup_nil, ?_⟩
  intro key item
  constructor
  · intro registered
    cases registered
  · rintro ⟨member, -⟩
    cases member

theorem get?_of_mem (indexes : Indexes keyOf items index) {item : ρ} {key : κ}
    (member : item ∈ items) (isKey : keyOf item = some key) : index.get? key = some item :=
  (indexes.indexed key item).mpr ⟨member, isKey⟩

/-- Two listed references with one key are one. -/
theorem unique (indexes : Indexes keyOf items index) {first second : ρ} {key : κ}
    (firstMember : first ∈ items) (firstKey : keyOf first = some key)
    (secondMember : second ∈ items) (secondKey : keyOf second = some key) :
    first = second := by
  have firstFound := indexes.get?_of_mem firstMember firstKey
  have secondFound := indexes.get?_of_mem secondMember secondKey
  exact Option.some.inj (firstFound.symm.trans secondFound)

theorem congr (indexes : Indexes keyOf items index) {other : ρ → Option κ}
    (same : ∀ item ∈ items, other item = keyOf item) : Indexes other items index := by
  refine ⟨indexes.nodup, ?_⟩
  intro key item
  rw [indexes.indexed]
  constructor
  · rintro ⟨member, isKey⟩
    exact ⟨member, by rw [same item member, isKey]⟩
  · rintro ⟨member, isKey⟩
    exact ⟨member, by rw [← same item member, isKey]⟩

/-- The first reference leaves, and its key leaves the index. -/
theorem pop {item : ρ} {rest : List ρ} (indexes : Indexes keyOf (item :: rest) index) :
    Indexes keyOf rest (unregister index (keyOf item)) := by
  have nodup := List.nodup_cons.mp indexes.nodup
  refine ⟨nodup.2, ?_⟩
  intro key other
  cases own : keyOf item with
  | none =>
      rw [unregister, indexes.indexed, List.mem_cons]
      constructor
      · rintro ⟨rfl | inside, isKey⟩
        · rw [own] at isKey
          cases isKey
        · exact ⟨inside, isKey⟩
      · rintro ⟨inside, isKey⟩
        exact ⟨.inr inside, isKey⟩
  | some ownKey =>
      simp only [unregister, Dict.get?_pop]
      by_cases same : key = ownKey
      · subst same
        simp only [if_true, reduceCtorEq, false_iff, not_and]
        intro inside isKey
        have one := indexes.unique List.mem_cons_self own (List.mem_cons_of_mem _ inside) isKey
        exact nodup.1 (one ▸ inside)
      · rw [if_neg same, indexes.indexed, List.mem_cons]
        constructor
        · rintro ⟨rfl | inside, isKey⟩
          · rw [own, Option.some.injEq] at isKey
            exact absurd isKey.symm same
          · exact ⟨inside, isKey⟩
        · rintro ⟨inside, isKey⟩
          exact ⟨.inr inside, isKey⟩

/-- A reference with a free key, or without a key, joins. -/
theorem push {item : ρ} (indexes : Indexes keyOf items index) (absent : item ∉ items)
    (free : ∀ key, keyOf item = some key → index.get? key = none) :
    Indexes keyOf (items ++ [item]) (register index item (keyOf item)) := by
  constructor
  · rw [← List.concat_eq_append]
    exact indexes.nodup.concat absent
  · intro key other
    rw [List.mem_append, List.mem_singleton]
    cases own : keyOf item with
    | none =>
        rw [register, indexes.indexed]
        constructor
        · rintro ⟨inside, isKey⟩
          exact ⟨.inl inside, isKey⟩
        · rintro ⟨inside | rfl, isKey⟩
          · exact ⟨inside, isKey⟩
          · rw [own] at isKey
            cases isKey
    | some ownKey =>
        rw [register, Dict.get?_set]
        by_cases same : key = ownKey
        · subst same
          rw [if_pos rfl, Option.some.injEq]
          constructor
          · rintro rfl
            exact ⟨.inr rfl, own⟩
          · rintro ⟨inside | rfl, isKey⟩
            · have found := indexes.get?_of_mem inside isKey
              rw [free key own] at found
              cases found
            · rfl
        · rw [if_neg same, indexes.indexed]
          constructor
          · rintro ⟨inside, isKey⟩
            exact ⟨.inl inside, isKey⟩
          · rintro ⟨inside | rfl, isKey⟩
            · exact ⟨inside, isKey⟩
            · rw [own, Option.some.injEq] at isKey
              exact absurd isKey.symm same

end Indexes

end QuAIA.Library
