import Mathlib.Data.List.Perm.Subperm
import Mathlib.Order.Lattice
import QuAIA.Library.Dict

/-!
Contract: a store of keys that expire, from which expired keys are removed only when another one
is written.

Owns: purging and writing at a time; reading at a time; that every read finds what a log that
forgets nothing would give; and how many keys the store holds.

Does not own: the clock. The rules ask that the times of the writes do not go back.
-/

set_option autoImplicit false

namespace QuAIA.Library.ExpiringStore

universe u v w

variable {κ : Type u} {ν : Type v} {τ : Type w} [DecidableEq κ] [LinearOrder τ]

def expiredAt (store : Dict κ (ν × τ)) (now : τ) : List κ :=
  (store.entries.filter fun entry => entry.2.2 ≤ now).map Prod.fst

/-- Remove what has expired, then write the key. -/
def put (store : Dict κ (ν × τ)) (now : τ) (key : κ) (stored : ν × τ) : Dict κ (ν × τ) :=
  (store.popAll (expiredAt store now)).set key stored

/-- The value of a key that has not expired. -/
def find (store : Dict κ (ν × τ)) (now : τ) (key : κ) : Option (ν × τ) :=
  (store.get? key).filter fun stored => now < stored.2

/-- A write with its time; a log keeps the newest write first. -/
structure Write (κ : Type u) (ν : Type v) (τ : Type w) where
  time : τ
  key : κ
  stored : ν × τ

/-- What was written last under a key. -/
def latest (log : List (Write κ ν τ)) (key : κ) : Option (ν × τ) :=
  (log.find? fun write => write.key = key).map Write.stored

omit [LinearOrder τ] in
@[simp] theorem latest_nil (key : κ) : latest ([] : List (Write κ ν τ)) key = none := rfl

omit [LinearOrder τ] in
theorem latest_cons (write : Write κ ν τ) (log : List (Write κ ν τ)) (key : κ) :
    latest (write :: log) key = if write.key = key then some write.stored else latest log key := by
  unfold latest
  rw [List.find?_cons]
  by_cases same : write.key = key
  · simp [same]
  · simp [same]

/-- The last write is in the store, and of those before it what had not expired at that time. -/
def Reflects (store : Dict κ (ν × τ)) : List (Write κ ν τ) → Prop
  | [] => ∀ key, store.get? key = none
  | write :: earlier => ∀ key, store.get? key =
      if write.key = key then some write.stored
      else (latest earlier key).filter fun stored => write.time < stored.2

section Rules

variable {store : Dict κ (ν × τ)} {log : List (Write κ ν τ)}

theorem mem_expiredAt {now : τ} {key : κ} :
    key ∈ expiredAt store now ↔ ∃ stored, store.get? key = some stored ∧ stored.2 ≤ now := by
  simp only [expiredAt, List.mem_map, List.mem_filter, decide_eq_true_eq]
  constructor
  · rintro ⟨entry, ⟨member, expired⟩, rfl⟩
    exact ⟨entry.2, store.get?_of_mem_entries member, expired⟩
  · rintro ⟨stored, found, expired⟩
    exact ⟨(key, stored), ⟨(store.mem_entries_iff key stored).mpr found, expired⟩, rfl⟩

/-- A write keeps of the other keys what has not expired. -/
theorem get?_put (now : τ) (key : κ) (stored : ν × τ) (other : κ) :
    (put store now key stored).get? other =
      if key = other then some stored else find store now other := by
  rw [put, Dict.get?_set, Dict.get?_popAll]
  by_cases same : other = key
  · rw [if_pos same, if_pos same.symm]
  · rw [if_neg same, if_neg (Ne.symm same), find]
    cases found : store.get? other with
    | none => simp
    | some value =>
        by_cases expired : value.2 ≤ now
        · have isExpired : other ∈ expiredAt store now := mem_expiredAt.mpr ⟨value, found, expired⟩
          rw [if_pos isExpired, Option.filter_some, if_neg (by simpa using expired)]
        · have notExpired : other ∉ expiredAt store now := by
            rw [mem_expiredAt, found]
            rintro ⟨other, same, isExpired⟩
            exact expired (Option.some.inj same ▸ isExpired)
          rw [if_neg notExpired, Option.filter_some, if_pos (by simpa using expired)]

/-- A read in a store that reflects the log finds the last write of the key, unless it has
expired. -/
theorem Reflects.find (reflects : Reflects store log) {now : τ}
    (recent : ∀ write ∈ log, write.time ≤ now) (key : κ) :
    find store now key = (latest log key).filter fun stored => now < stored.2 := by
  cases log with
  | nil => rw [ExpiringStore.find, reflects key, latest_nil]
  | cons write earlier =>
      rw [ExpiringStore.find, reflects key, latest_cons]
      by_cases same : write.key = key
      · rw [if_pos same, if_pos same]
      · rw [if_neg same, if_neg same, Option.filter_filter]
        have notBack : write.time ≤ now := recent write List.mem_cons_self
        congr 1
        funext stored
        by_cases unexpired : now < stored.2
        · simp [unexpired, lt_of_le_of_lt notBack unexpired]
        · simp [unexpired]

theorem reflects_empty : Reflects (Dict.empty : Dict κ (ν × τ)) [] := fun _ => rfl

/-- **The store reflects the log.** -/
theorem Reflects.put (reflects : Reflects store log) {now : τ}
    (recent : ∀ write ∈ log, write.time ≤ now) (key : κ) (stored : ν × τ) :
    Reflects (put store now key stored) (⟨now, key, stored⟩ :: log) := by
  intro other
  rw [get?_put, reflects.find recent]

/-- **The size of the store.** Beside the last key, each one was written with an expiry that had
not come at the time of the last write. -/
theorem Reflects.length_le {write : Write κ ν τ} {earlier : List (Write κ ν τ)}
    (reflects : Reflects store (write :: earlier)) :
    store.entries.length ≤ 1 + earlier.countP fun older => write.time < older.stored.2 := by
  let unexpired := earlier.filter fun older => write.time < older.stored.2
  have covered : store.keys ⊆ write.key :: unexpired.map Write.key := by
    intro key isKey
    rw [Dict.mem_keys_iff, Dict.contains, reflects key] at isKey
    by_cases same : write.key = key
    · exact same ▸ List.mem_cons_self
    · rw [if_neg same] at isKey
      obtain ⟨stored, kept⟩ := Option.isSome_iff_exists.mp isKey
      obtain ⟨wrote, alive⟩ := Option.filter_eq_some_iff.mp kept
      obtain ⟨older, found, rfl⟩ := Option.map_eq_some_iff.mp wrote
      have isOlder : older ∈ unexpired :=
        List.mem_filter.mpr ⟨List.mem_of_find?_eq_some found, alive⟩
      have isSame : older.key = key := by simpa using List.find?_some found
      exact List.mem_cons_of_mem _ (List.mem_map.mpr ⟨older, isOlder, isSame⟩)
  calc store.entries.length = store.keys.length := (List.length_map _).symm
    _ ≤ (write.key :: unexpired.map Write.key).length :=
        (List.subperm_of_subset store.nodup covered).length_le
    _ = 1 + earlier.countP fun older => write.time < older.stored.2 := by
        rw [List.length_cons, List.length_map, List.countP_eq_length_filter, Nat.add_comm]

end Rules

end QuAIA.Library.ExpiringStore
