import Mathlib.Data.List.Basic
import Mathlib.Data.List.Nodup

/-!
Contract: insertion-ordered dictionaries with unique keys.

Owns: the dictionary type, which carries the uniqueness of its keys; reading,
writing and deleting keys; the laws that relate every read to every write; the keys of one value;
and the number of values with a property under a write.

Writing a present key keeps its position, writing an absent key appends it, and
deleting a key keeps the order of the others.
-/

set_option autoImplicit false

namespace QuAIA.Library

universe u v

/-- A finite map whose entries keep the order of their first insertion. -/
structure Dict (κ : Type u) (ν : Type v) where
  entries : List (κ × ν)
  nodup : (entries.map Prod.fst).Nodup
deriving Repr

namespace Dict

variable {κ : Type u} {ν : Type v}

@[ext] theorem ext {left right : Dict κ ν} (same : left.entries = right.entries) :
    left = right := by
  cases left
  cases right
  cases same
  rfl

def empty : Dict κ ν := ⟨[], List.nodup_nil⟩

def keys (dict : Dict κ ν) : List κ := dict.entries.map Prod.fst

variable [DecidableEq κ]

instance [DecidableEq ν] : DecidableEq (Dict κ ν) := fun left right =>
  decidable_of_iff (left.entries = right.entries)
    ⟨ext, fun same => congrArg entries same⟩

/-- First value stored under `key` in an entry list. -/
def lookup (key : κ) : List (κ × ν) → Option ν
  | [] => none
  | entry :: rest => if entry.1 = key then some entry.2 else lookup key rest

def get? (dict : Dict κ ν) (key : κ) : Option ν := lookup key dict.entries

def getD (dict : Dict κ ν) (key : κ) (fallback : ν) : ν := (dict.get? key).getD fallback

def contains (dict : Dict κ ν) (key : κ) : Bool := (dict.get? key).isSome

/-- Overwrite the value of `key` in place, or append a new entry. -/
def write (key : κ) (value : ν) : List (κ × ν) → List (κ × ν)
  | [] => [(key, value)]
  | entry :: rest =>
      if entry.1 = key then (key, value) :: rest else entry :: write key value rest

/-- Delete the entry of `key`, if there is one. -/
def erase (key : κ) : List (κ × ν) → List (κ × ν)
  | [] => []
  | entry :: rest => if entry.1 = key then rest else entry :: erase key rest

/-! ## Entry lists -/

theorem mem_keys_write (key : κ) (value : ν) (other : κ) (entries : List (κ × ν)) :
    other ∈ (write key value entries).map Prod.fst ↔
      other = key ∨ other ∈ entries.map Prod.fst := by
  induction entries with
  | nil => simp [write]
  | cons entry rest inductionHypothesis =>
      by_cases hit : entry.1 = key
      · simp [write, hit]
      · simp only [write, if_neg hit, List.map_cons, List.mem_cons, inductionHypothesis]
        tauto

theorem mem_keys_of_erase (key other : κ) (entries : List (κ × ν))
    (member : other ∈ (erase key entries).map Prod.fst) :
    other ∈ entries.map Prod.fst := by
  induction entries with
  | nil => simp [erase] at member
  | cons entry rest inductionHypothesis =>
      by_cases hit : entry.1 = key
      · simp only [erase, if_pos hit] at member
        exact List.mem_cons_of_mem _ member
      · simp only [erase, if_neg hit, List.map_cons, List.mem_cons] at member
        rcases member with head | tail
        · exact head ▸ List.mem_cons_self
        · exact List.mem_cons_of_mem _ (inductionHypothesis tail)

theorem nodup_write (key : κ) (value : ν) {entries : List (κ × ν)}
    (distinct : (entries.map Prod.fst).Nodup) :
    ((write key value entries).map Prod.fst).Nodup := by
  induction entries with
  | nil => simp [write]
  | cons entry rest inductionHypothesis =>
      rw [List.map_cons, List.nodup_cons] at distinct
      by_cases hit : entry.1 = key
      · subst hit
        simpa [write] using distinct
      · simp only [write, if_neg hit, List.map_cons, List.nodup_cons, mem_keys_write]
        refine ⟨?_, inductionHypothesis distinct.2⟩
        rintro (same | inRest)
        · exact hit same
        · exact distinct.1 inRest

theorem nodup_erase (key : κ) {entries : List (κ × ν)}
    (distinct : (entries.map Prod.fst).Nodup) :
    ((erase key entries).map Prod.fst).Nodup := by
  induction entries with
  | nil => simp [erase]
  | cons entry rest inductionHypothesis =>
      rw [List.map_cons, List.nodup_cons] at distinct
      by_cases hit : entry.1 = key
      · simpa [erase, hit] using distinct.2
      · simp only [erase, if_neg hit, List.map_cons, List.nodup_cons]
        exact ⟨fun member => distinct.1 (mem_keys_of_erase key _ rest member),
          inductionHypothesis distinct.2⟩

theorem lookup_write (key : κ) (value : ν) (other : κ) (entries : List (κ × ν)) :
    lookup other (write key value entries) =
      if other = key then some value else lookup other entries := by
  induction entries with
  | nil => simp [write, lookup, eq_comm]
  | cons entry rest inductionHypothesis =>
      by_cases hit : entry.1 = key
      · by_cases same : other = key
        · simp [write, lookup, hit, same]
        · simp [write, lookup, hit, same, Ne.symm same]
      · by_cases atHead : entry.1 = other
        · have different : other ≠ key := fun same => hit (atHead.trans same)
          simp [write, lookup, atHead, different]
        · simp [write, lookup, hit, atHead, inductionHypothesis]

theorem lookup_eq_none_iff (key : κ) (entries : List (κ × ν)) :
    lookup key entries = none ↔ key ∉ entries.map Prod.fst := by
  induction entries with
  | nil => simp [lookup]
  | cons entry rest inductionHypothesis =>
      by_cases hit : entry.1 = key
      · simp [lookup, hit]
      · simp [lookup, hit, inductionHypothesis, Ne.symm hit]

theorem lookup_erase (key other : κ) {entries : List (κ × ν)}
    (distinct : (entries.map Prod.fst).Nodup) :
    lookup other (erase key entries) =
      if other = key then none else lookup other entries := by
  induction entries with
  | nil => simp [erase, lookup]
  | cons entry rest inductionHypothesis =>
      rw [List.map_cons, List.nodup_cons] at distinct
      by_cases hit : entry.1 = key
      · by_cases same : other = key
        · have absent : lookup key rest = none :=
            (lookup_eq_none_iff key rest).mpr (hit ▸ distinct.1)
          simp [erase, hit, same, absent]
        · simp [erase, lookup, hit, same, Ne.symm same]
      · by_cases atHead : entry.1 = other
        · have different : other ≠ key := fun same => hit (atHead.trans same)
          simp [erase, lookup, atHead, different]
        · simp [erase, lookup, hit, atHead, inductionHypothesis distinct.2]

/-! ## Dictionary operations -/

def set (dict : Dict κ ν) (key : κ) (value : ν) : Dict κ ν :=
  ⟨write key value dict.entries, nodup_write key value dict.nodup⟩

def pop (dict : Dict κ ν) (key : κ) : Dict κ ν :=
  ⟨erase key dict.entries, nodup_erase key dict.nodup⟩

theorem get?_set (dict : Dict κ ν) (key : κ) (value : ν) (other : κ) :
    (dict.set key value).get? other = if other = key then some value else dict.get? other :=
  lookup_write key value other dict.entries

@[simp] theorem get?_set_self (dict : Dict κ ν) (key : κ) (value : ν) :
    (dict.set key value).get? key = some value := by
  simp [get?_set]

theorem get?_set_other (dict : Dict κ ν) {key other : κ} (value : ν)
    (different : other ≠ key) : (dict.set key value).get? other = dict.get? other := by
  simp [get?_set, different]

/-- Writing a fresh key keeps every stored value. -/
theorem get?_set_of_fresh {dict : Dict κ ν} {key other : κ} {stored : ν}
    (fresh : dict.contains key = false) (found : dict.get? other = some stored) (value : ν) :
    (dict.set key value).get? other = some stored := by
  have different : other ≠ key := by
    intro same
    rw [contains, ← same, found] at fresh
    cases fresh
  rw [get?_set_other dict value different, found]

theorem get?_pop (dict : Dict κ ν) (key other : κ) :
    (dict.pop key).get? other = if other = key then none else dict.get? other :=
  lookup_erase key other dict.nodup

/-- Delete every key of a list. -/
def popAll (dict : Dict κ ν) (keys : List κ) : Dict κ ν := keys.foldl pop dict

theorem get?_popAll (dict : Dict κ ν) (keys : List κ) (other : κ) :
    (dict.popAll keys).get? other = if other ∈ keys then none else dict.get? other := by
  induction keys generalizing dict with
  | nil => rfl
  | cons key rest inductionHypothesis =>
      have popped := inductionHypothesis (dict.pop key)
      rw [get?_pop] at popped
      show ((dict.pop key).popAll rest).get? other = _
      rw [popped]
      by_cases same : other = key
      · simp [same]
      · by_cases inRest : other ∈ rest <;> simp [same, inRest]

theorem contains_set (dict : Dict κ ν) (key : κ) (value : ν) (other : κ) :
    (dict.set key value).contains other = (decide (other = key) || dict.contains other) := by
  by_cases same : other = key <;> simp [contains, get?_set, same]

theorem contains_pop (dict : Dict κ ν) (key other : κ) :
    (dict.pop key).contains other = (decide (other ≠ key) && dict.contains other) := by
  by_cases same : other = key <;> simp [contains, get?_pop, same]

theorem mem_keys_iff (dict : Dict κ ν) (key : κ) : key ∈ dict.keys ↔ dict.contains key = true := by
  rw [contains, Option.isSome_iff_ne_none, get?, Ne, lookup_eq_none_iff, not_not, keys]

/-- Overwriting a present key adds no key. -/
theorem contains_set_of_present {dict : Dict κ ν} {key : κ}
    (present : dict.contains key = true) (value : ν) (other : κ) :
    (dict.set key value).contains other = dict.contains other := by
  rw [contains_set]
  by_cases same : other = key <;> simp [same, present]

theorem lookup_of_mem {entries : List (κ × ν)} (distinct : (entries.map Prod.fst).Nodup)
    {entry : κ × ν} (member : entry ∈ entries) : lookup entry.1 entries = some entry.2 := by
  induction entries with
  | nil => cases member
  | cons head rest inductionHypothesis =>
      rw [List.map_cons, List.nodup_cons] at distinct
      rcases List.mem_cons.mp member with rfl | inRest
      · simp [lookup]
      · have different : head.1 ≠ entry.1 := fun same =>
          distinct.1 (same ▸ List.mem_map_of_mem inRest)
        simp [lookup, different, inductionHypothesis distinct.2 inRest]

/-- Iterating over the entries visits each key with the value a read returns. -/
theorem get?_of_mem_entries (dict : Dict κ ν) {entry : κ × ν}
    (member : entry ∈ dict.entries) : dict.get? entry.1 = some entry.2 :=
  lookup_of_mem dict.nodup member

theorem mem_of_lookup {entries : List (κ × ν)} {key : κ} {value : ν}
    (found : lookup key entries = some value) : (key, value) ∈ entries := by
  induction entries with
  | nil => cases found
  | cons head rest inductionHypothesis =>
      by_cases hit : head.1 = key
      · simp only [lookup, if_pos hit, Option.some.injEq] at found
        have same : head = (key, value) := Prod.ext hit found
        exact same ▸ List.mem_cons_self
      · simp only [lookup, if_neg hit] at found
        exact List.mem_cons_of_mem _ (inductionHypothesis found)

theorem mem_entries_iff (dict : Dict κ ν) (key : κ) (value : ν) :
    (key, value) ∈ dict.entries ↔ dict.get? key = some value :=
  ⟨fun member => dict.get?_of_mem_entries member, mem_of_lookup⟩

/-! ## Keys of one value -/

/-- The keys that have the value, in order. -/
def keysOf [DecidableEq ν] (dict : Dict κ ν) (value : ν) : List κ :=
  (dict.entries.filter fun entry => entry.2 = value).map Prod.fst

theorem mem_keysOf [DecidableEq ν] {dict : Dict κ ν} {value : ν} {key : κ} :
    key ∈ dict.keysOf value ↔ dict.get? key = some value := by
  rw [← mem_entries_iff]
  simp only [keysOf, List.mem_map, List.mem_filter, decide_eq_true_eq]
  constructor
  · rintro ⟨entry, ⟨member, rfl⟩, rfl⟩
    exact member
  · intro member
    exact ⟨(key, value), ⟨member, rfl⟩, rfl⟩

omit [DecidableEq κ] in
theorem nodup_keysOf [DecidableEq ν] (dict : Dict κ ν) (value : ν) : (dict.keysOf value).Nodup :=
  dict.nodup.sublist (List.filter_sublist.map Prod.fst)

theorem write_of_fresh {key : κ} {entries : List (κ × ν)}
    (fresh : key ∉ entries.map Prod.fst) (value : ν) :
    write key value entries = entries ++ [(key, value)] := by
  induction entries with
  | nil => rfl
  | cons entry rest inductionHypothesis =>
      rw [List.map_cons, List.mem_cons, not_or] at fresh
      rw [write, if_neg (Ne.symm fresh.1), inductionHypothesis fresh.2, List.cons_append]

theorem keysOf_set_of_fresh [DecidableEq ν] {dict : Dict κ ν} {key : κ}
    (fresh : dict.contains key = false) (value other : ν) :
    (dict.set key value).keysOf other =
      if other = value then dict.keysOf other ++ [key] else dict.keysOf other := by
  rw [contains, Option.isSome_eq_false_iff, Option.isNone_iff_eq_none, get?,
    lookup_eq_none_iff] at fresh
  simp only [keysOf, set, write_of_fresh fresh, List.filter_append, List.map_append]
  by_cases same : other = value
  · simp [same]
  · simp [same, Ne.symm same]

theorem keysOf_pop [DecidableEq ν] (dict : Dict κ ν) (key : κ) (value : ν) :
    (dict.pop key).keysOf value = (dict.keysOf value).erase key := by
  obtain ⟨entries, distinct⟩ := dict
  simp only [keysOf, pop]
  induction entries with
  | nil => rfl
  | cons entry rest inductionHypothesis =>
      rw [List.map_cons, List.nodup_cons] at distinct
      by_cases hit : entry.1 = key
      · have absent : key ∉ (rest.filter fun other => other.2 = value).map Prod.fst := by
          intro member
          exact distinct.1 (hit ▸ (List.filter_sublist.map Prod.fst).subset member)
        by_cases same : entry.2 = value
        · simp [erase, hit, same]
        · simp [erase, hit, same, List.erase_of_not_mem absent]
      · by_cases same : entry.2 = value
        · simp [erase, hit, same, inductionHypothesis distinct.2]
        · simp [erase, hit, same, inductionHypothesis distinct.2]

/-! ## Counting values -/

/-- The number of keys whose value is accepted. -/
def countValues (dict : Dict κ ν) (accept : ν → Bool) : Nat :=
  dict.entries.countP fun entry => accept entry.2

theorem countP_write_of_lookup {key : κ} {old : ν} (new : ν) (accept : ν → Bool)
    {entries : List (κ × ν)} (found : lookup key entries = some old) :
    (write key new entries).countP (fun entry => accept entry.2) + (accept old).toNat =
      entries.countP (fun entry => accept entry.2) + (accept new).toNat := by
  induction entries with
  | nil => cases found
  | cons head rest inductionHypothesis =>
      by_cases hit : head.1 = key
      · simp only [lookup, if_pos hit, Option.some.injEq] at found
        subst found
        simp only [write, if_pos hit, List.countP_cons]
        cases accept head.2 <;> cases accept new <;> simp
      · simp only [lookup, if_neg hit] at found
        have counted := inductionHypothesis found
        simp only [write, if_neg hit, List.countP_cons]
        omega

theorem countP_write_of_fresh {key : κ} (new : ν) (accept : ν → Bool)
    {entries : List (κ × ν)} (fresh : lookup key entries = none) :
    (write key new entries).countP (fun entry => accept entry.2) =
      entries.countP (fun entry => accept entry.2) + (accept new).toNat := by
  rw [write_of_fresh ((lookup_eq_none_iff key entries).mp fresh), List.countP_append,
    List.countP_singleton]
  cases accept new <;> rfl

/-- Overwriting a value trades its count. -/
theorem countValues_set {dict : Dict κ ν} {key : κ} {old : ν}
    (found : dict.get? key = some old) (new : ν) (accept : ν → Bool) :
    (dict.set key new).countValues accept + (accept old).toNat =
      dict.countValues accept + (accept new).toNat :=
  countP_write_of_lookup new accept found

theorem countValues_set_of_fresh {dict : Dict κ ν} {key : κ}
    (fresh : dict.contains key = false) (new : ν) (accept : ν → Bool) :
    (dict.set key new).countValues accept = dict.countValues accept + (accept new).toNat := by
  rw [contains, Option.isSome_eq_false_iff, Option.isNone_iff_eq_none] at fresh
  exact countP_write_of_fresh new accept fresh

end Dict

end QuAIA.Library
