import Mathlib.Data.List.Nodup

/-!
Contract: a bounded first-in first-out buffer that coalesces values of one key and puts
a gap where it loses one, with an account of every value that was put.

Owns: the buffer over arbitrary values, its calls as steps, and the theorem that a step
keeps every value accounted for exactly if it does not overflow the buffer.

A gap names only the value that found the buffer full. The value dropped from the front
is what the account misses.
-/

set_option autoImplicit false

namespace QuAIA.Library.CoalescingBuffer

universe u v

variable {α : Type u} {κ : Type v}

/-- A numbered entry; `none` is the gap that stands for the value of that number. -/
structure Entry (α : Type u) where
  seq : Nat
  value : Option α

/-- `superseded` relates the number that was in a slot to the one that replaced it. -/
structure Buffer (α : Type u) where
  capacity : Nat
  positive : 1 ≤ capacity
  contents : List (Entry α)
  delivered : List (Entry α)
  superseded : List (Nat × Nat)
  puts : List (Nat × α)

inductive Call (α : Type u) where
  | put (value : α) (seq : Nat)
  | get

namespace Buffer

def full (buffer : Buffer α) : Bool := decide (buffer.capacity ≤ buffer.contents.length)

/-! ## The account -/

section Account

variable (key : α → Option κ)

/-- A later value of the same key took the slot. -/
def Superseded (buffer : Buffer α) (seq : Nat) (value : α) : Prop :=
  ∃ later ∈ buffer.puts, (seq, later.1) ∈ buffer.superseded ∧ seq < later.1 ∧
    key value ≠ none ∧ key later.2 = key value

/-- Where a value can be: in the buffer, delivered, superseded, or named by a gap. -/
def Accounted (buffer : Buffer α) (put : Nat × α) : Prop :=
  ⟨put.1, some put.2⟩ ∈ buffer.contents ∨ ⟨put.1, some put.2⟩ ∈ buffer.delivered ∨
    buffer.Superseded key put.1 put.2 ∨
    ⟨put.1, none⟩ ∈ buffer.contents ++ buffer.delivered

def NoSilentLoss (buffer : Buffer α) : Prop :=
  ∀ put ∈ buffer.puts, buffer.Accounted key put

/-- The numbers that the account knows, each from one place. -/
def places (buffer : Buffer α) : List Nat :=
  buffer.contents.map Entry.seq ++ (buffer.delivered.map Entry.seq ++
    buffer.superseded.map Prod.fst)

/-- The values that were delivered or are in the buffer, in the order of delivery. -/
def values (buffer : Buffer α) : List α :=
  (buffer.delivered ++ buffer.contents).filterMap Entry.value

/-- An entry holds the value that was put under its number, or is the gap for it. -/
def Recorded (puts : List (Nat × α)) (entry : Entry α) : Prop :=
  ∃ value, (entry.seq, value) ∈ puts ∧ (entry.value = none ∨ entry.value = some value)

structure Invariant (buffer : Buffer α) : Prop where
  apart : buffer.places.Nodup
  recorded : ∀ entry ∈ buffer.contents ++ buffer.delivered, Recorded buffer.puts entry
  known : ∀ pair ∈ buffer.superseded, ∃ value, (pair.1, value) ∈ buffer.puts
  single : (buffer.contents.filterMap fun entry => entry.value.bind key).Nodup

end Account

section Places

variable {key : α → Option κ} {buffer : Buffer α}

theorem Recorded.mono {puts : List (Nat × α)} {entry : Entry α} (recorded : Recorded puts entry)
    (more : List (Nat × α)) : Recorded (puts ++ more) entry := by
  obtain ⟨value, member, holds⟩ := recorded
  exact ⟨value, List.mem_append_left _ member, holds⟩

theorem Superseded.mono {next : Buffer α} {seq : Nat} {value : α}
    (superseded : buffer.Superseded key seq value) (puts : buffer.puts ⊆ next.puts)
    (pairs : buffer.superseded ⊆ next.superseded) : next.Superseded key seq value := by
  obtain ⟨later, member, pair, above, hasKey, sameKey⟩ := superseded
  exact ⟨later, puts member, pairs pair, above, hasKey, sameKey⟩

theorem Invariant.place_known (invariant : buffer.Invariant key) {seq : Nat}
    (place : seq ∈ buffer.places) : ∃ value, (seq, value) ∈ buffer.puts := by
  rw [places, List.mem_append, List.mem_append] at place
  rcases place with inContents | inDelivered | inSuperseded
  · obtain ⟨entry, member, rfl⟩ := List.mem_map.mp inContents
    obtain ⟨value, put, -⟩ := invariant.recorded entry (List.mem_append_left _ member)
    exact ⟨value, put⟩
  · obtain ⟨entry, member, rfl⟩ := List.mem_map.mp inDelivered
    obtain ⟨value, put, -⟩ := invariant.recorded entry (List.mem_append_right _ member)
    exact ⟨value, put⟩
  · obtain ⟨pair, member, rfl⟩ := List.mem_map.mp inSuperseded
    exact invariant.known pair member

/-- A number above all earlier ones has no place yet. -/
theorem Invariant.fresh (invariant : buffer.Invariant key) {seq : Nat}
    (grows : ∀ earlier ∈ buffer.puts, earlier.1 < seq) : seq ∉ buffer.places := by
  intro place
  obtain ⟨value, member⟩ := invariant.place_known place
  exact Nat.lt_irrefl seq (grows _ member)

theorem Accounted.place {put : Nat × α} (accounted : buffer.Accounted key put) :
    put.1 ∈ buffer.places := by
  unfold places
  simp only [List.mem_append, List.mem_map]
  rcases accounted with inContents | inDelivered | ⟨later, -, pair, -⟩ | gap
  · exact .inl ⟨_, inContents, rfl⟩
  · exact .inr (.inl ⟨_, inDelivered, rfl⟩)
  · exact .inr (.inr ⟨_, pair, rfl⟩)
  · rcases List.mem_append.mp gap with inContents | inDelivered
    · exact .inl ⟨_, inContents, rfl⟩
    · exact .inr (.inl ⟨_, inDelivered, rfl⟩)

theorem invariant_appended {value : α} {seq : Nat} {entry : Entry α}
    {contents : List (Entry α)} (invariant : buffer.Invariant key)
    (grows : ∀ earlier ∈ buffer.puts, earlier.1 < seq)
    (suffix : contents <:+ buffer.contents) (seqOf : entry.seq = seq)
    (holds : entry.value = none ∨ entry.value = some value)
    (free : ∀ name, entry.value.bind key = some name →
      name ∉ buffer.contents.filterMap fun entry => entry.value.bind key) :
    ({ buffer with
      contents := contents ++ [entry]
      puts := buffer.puts ++ [(seq, value)] } : Buffer α).Invariant key := by
  have fresh := invariant.fresh grows
  obtain ⟨dropped, split⟩ := suffix
  constructor
  · have sublist : (contents.map Entry.seq ++ (buffer.delivered.map Entry.seq ++
        buffer.superseded.map Prod.fst)).Sublist buffer.places := by
      rw [places, ← split, List.map_append]
      exact (List.sublist_append_right _ _).append (List.Sublist.refl _)
    have moved : (contents.map Entry.seq ++ [seq] ++ (buffer.delivered.map Entry.seq ++
        buffer.superseded.map Prod.fst)).Perm (seq :: (contents.map Entry.seq ++
          (buffer.delivered.map Entry.seq ++ buffer.superseded.map Prod.fst))) := by
      rw [List.perm_iff_count]
      intro number
      simp only [List.count_append, List.count_cons, List.count_nil]
      omega
    have absent := fun inside => fresh (sublist.subset inside)
    have apart := moved.nodup_iff.mpr
      (List.nodup_cons.mpr ⟨absent, sublist.nodup invariant.apart⟩)
    simpa [places, seqOf] using apart
  · intro other member
    simp only [List.mem_append, List.mem_singleton] at member
    rcases member with (inContents | rfl) | inDelivered
    · have inside : other ∈ buffer.contents ++ buffer.delivered := by
        rw [← split]
        simp [inContents]
      exact (invariant.recorded other inside).mono _
    · exact ⟨value, by simp [seqOf], holds⟩
    · exact (invariant.recorded other (by simp [inDelivered])).mono _
  · intro pair member
    obtain ⟨known, inside⟩ := invariant.known pair member
    exact ⟨known, List.mem_append_left _ inside⟩
  · have single := invariant.single
    rw [← split, List.filterMap_append] at single
    have kept := (List.nodup_append.mp single).2.1
    cases bound : entry.value.bind key with
    | none => simpa [List.filterMap_append, bound] using kept
    | some name =>
        have absent := free name bound
        rw [← split, List.filterMap_append, List.mem_append, not_or] at absent
        simp only [List.filterMap_append, List.filterMap_cons, bound, List.filterMap_nil]
        rw [← List.concat_eq_append]
        exact kept.concat absent.2

theorem invariant_get {entry : Entry α} {rest : List (Entry α)}
    (invariant : buffer.Invariant key) (split : buffer.contents = entry :: rest) :
    ({ buffer with contents := rest, delivered := buffer.delivered ++ [entry] } :
      Buffer α).Invariant key := by
  constructor
  · have moved : (rest.map Entry.seq ++ (buffer.delivered.map Entry.seq ++ [entry.seq] ++
        buffer.superseded.map Prod.fst)).Perm buffer.places := by
      rw [places, split, List.perm_iff_count]
      intro number
      simp only [List.map_cons, List.count_append, List.count_cons, List.count_nil]
      omega
    simpa [places] using moved.nodup_iff.mpr invariant.apart
  · intro other member
    apply invariant.recorded
    rw [split]
    simp only [List.mem_append, List.mem_cons, List.not_mem_nil, or_false] at member ⊢
    rcases member with inRest | inDelivered | rfl
    · exact .inl (.inr inRest)
    · exact .inr inDelivered
    · exact .inl (.inl rfl)
  · exact invariant.known
  · have single := invariant.single
    rw [split, ← List.singleton_append, List.filterMap_append] at single
    exact (List.nodup_append.mp single).2.1

theorem accounted_get {entry : Entry α} {rest : List (Entry α)} {put : Nat × α}
    (split : buffer.contents = entry :: rest) (accounted : buffer.Accounted key put) :
    ({ buffer with contents := rest, delivered := buffer.delivered ++ [entry] } :
      Buffer α).Accounted key put := by
  unfold Accounted at accounted ⊢
  rw [split] at accounted
  simp only [List.mem_append, List.mem_cons, List.not_mem_nil, or_false] at accounted ⊢
  rcases accounted with
    (first | inRest) | inDelivered | superseded | (first | inRest) | inDelivered
  · exact .inr (.inl (.inr first))
  · exact .inl inRest
  · exact .inr (.inl (.inl inDelivered))
  · exact .inr (.inr (.inl superseded))
  · exact .inr (.inr (.inr (.inr (.inr first))))
  · exact .inr (.inr (.inr (.inl inRest)))
  · exact .inr (.inr (.inr (.inr (.inl inDelivered))))

def create (capacity : Nat) (positive : 1 ≤ capacity) : Buffer α :=
  ⟨capacity, positive, [], [], [], []⟩

theorem invariant_create (capacity : Nat) (positive : 1 ≤ capacity) :
    (create capacity positive : Buffer α).Invariant key := by
  constructor
  · simp [places, create]
  · intro entry member
    simp [create] at member
  · intro pair member
    simp [create] at member
  · simp [create]

end Places

end Buffer

/-! ## The calls -/

section Operations

variable [DecidableEq κ] (key : α → Option κ)

/-- The entry holds a value of the key. -/
def Entry.hasKey (name : κ) (entry : Entry α) : Bool :=
  decide (entry.value.bind key = some name)

/-- The entry that a value is coalesced into. -/
def slot (contents : List (Entry α)) (value : α) : Option (Entry α) :=
  (key value).bind fun name => contents.find? (Entry.hasKey key name)

/-- The contents with the values of the key replaced. -/
def coalesce (contents : List (Entry α)) (name : κ) (entry : Entry α) : List (Entry α) :=
  contents.map fun old => if old.hasKey key name then entry else old

namespace Buffer

/-- The value finds no slot of its key, and no room. -/
def Overflows (buffer : Buffer α) : Call α → Prop
  | .put value _ => slot key buffer.contents value = none ∧ buffer.full = true
  | .get => False

def put (buffer : Buffer α) (value : α) (seq : Nat) : Buffer α :=
  match key value, slot key buffer.contents value with
  | some name, some old =>
      { buffer with
        contents := coalesce key buffer.contents name ⟨seq, some value⟩
        superseded := buffer.superseded ++ [(old.seq, seq)]
        puts := buffer.puts ++ [(seq, value)] }
  | _, _ =>
      { buffer with
        contents :=
          if buffer.full then buffer.contents.tail ++ [⟨seq, none⟩]
          else buffer.contents ++ [⟨seq, some value⟩]
        puts := buffer.puts ++ [(seq, value)] }

/-- Numbers only grow. -/
def step (buffer : Buffer α) : Call α → Option (Buffer α)
  | .put value seq =>
      if buffer.puts.all (fun earlier => earlier.1 < seq) then some (buffer.put key value seq)
      else none
  | .get =>
      match buffer.contents with
      | [] => none
      | entry :: rest =>
          some { buffer with contents := rest, delivered := buffer.delivered ++ [entry] }

end Buffer

end Operations

namespace Buffer

section Laws

variable [DecidableEq κ] {key : α → Option κ} {buffer : Buffer α}

/-! ### The cases of a put -/

theorem coalesce_of_free {contents : List (Entry α)} {name : κ}
    (free : ∀ entry ∈ contents, entry.hasKey key name = false) (entry : Entry α) :
    coalesce key contents name entry = contents := by
  induction contents with
  | nil => rfl
  | cons first rest inductionHypothesis =>
      have firstFree := free first (by simp)
      have restFree := inductionHypothesis fun other member => free other (by simp [member])
      rw [coalesce] at restFree ⊢
      rw [List.map_cons, restFree, if_neg (by simp [firstFree])]

/-- A value is coalesced into the one entry of its key. -/
theorem slot_split {value : α} {old : Entry α} (invariant : buffer.Invariant key)
    (found : slot key buffer.contents value = some old) :
    ∃ name before after, key value = some name ∧
      buffer.contents = before ++ old :: after ∧ old.value.bind key = some name ∧
      ∀ entry, coalesce key buffer.contents name entry = before ++ entry :: after := by
  unfold slot at found
  cases named : key value with
  | none => simp [named] at found
  | some name =>
      rw [named, Option.bind_some, List.find?_eq_some_iff_append] at found
      obtain ⟨matched, before, after, split, others⟩ := found
      have oldKey : old.value.bind key = some name := of_decide_eq_true matched
      refine ⟨name, before, after, rfl, split, oldKey, ?_⟩
      have single := invariant.single
      rw [split] at single
      simp only [List.filterMap_append, List.filterMap_cons, oldKey] at single
      have rest := (List.nodup_append.mp single).2.1
      have afterFree : ∀ entry ∈ after, entry.hasKey key name = false := by
        intro entry member
        rw [Entry.hasKey, decide_eq_false_iff_not]
        intro same
        exact (List.nodup_cons.mp rest).1 (List.mem_filterMap.mpr ⟨entry, member, same⟩)
      intro entry
      have beforeFree : ∀ entry ∈ before, entry.hasKey key name = false := by
        intro other member
        simpa using others other member
      have beforeKept := coalesce_of_free beforeFree entry
      have afterKept := coalesce_of_free afterFree entry
      rw [coalesce] at beforeKept afterKept
      rw [split, coalesce, List.map_append, List.map_cons, if_pos matched, beforeKept,
        afterKept]

theorem put_of_slot {value : α} {seq : Nat} {name : κ} {old : Entry α}
    (named : key value = some name) (found : slot key buffer.contents value = some old) :
    buffer.put key value seq =
      { buffer with
        contents := coalesce key buffer.contents name ⟨seq, some value⟩
        superseded := buffer.superseded ++ [(old.seq, seq)]
        puts := buffer.puts ++ [(seq, value)] } := by
  simp [put, named, found]

theorem put_of_no_slot {value : α} {seq : Nat}
    (missing : slot key buffer.contents value = none) :
    buffer.put key value seq =
      { buffer with
        contents :=
          if buffer.full then buffer.contents.tail ++ [⟨seq, none⟩]
          else buffer.contents ++ [⟨seq, some value⟩]
        puts := buffer.puts ++ [(seq, value)] } := by
  unfold put
  rw [missing]
  cases key value <;> rfl

/-- Without a slot no entry has the key. -/
theorem key_notMem_of_no_slot {value : α} {name : κ} (named : key value = some name)
    (missing : slot key buffer.contents value = none) :
    name ∉ buffer.contents.filterMap fun entry => entry.value.bind key := by
  rw [slot, named, Option.bind_some, List.find?_eq_none] at missing
  intro member
  obtain ⟨entry, inside, same⟩ := List.mem_filterMap.mp member
  exact missing entry inside (decide_eq_true same)

theorem puts_put (value : α) (seq : Nat) :
    (buffer.put key value seq).puts = buffer.puts ++ [(seq, value)] := by
  unfold put
  split <;> rfl

/-! ### The invariant -/

theorem invariant_coalesced {value : α} {seq : Nat} {old : Entry α}
    (invariant : buffer.Invariant key) (grows : ∀ earlier ∈ buffer.puts, earlier.1 < seq)
    (found : slot key buffer.contents value = some old) :
    (buffer.put key value seq).Invariant key := by
  obtain ⟨name, before, after, named, split, oldKey, replaced⟩ :=
    slot_split invariant found
  have fresh := invariant.fresh grows
  rw [put_of_slot named found]
  constructor
  · have moved : (before.map Entry.seq ++ seq :: after.map Entry.seq ++
        (buffer.delivered.map Entry.seq ++
          (buffer.superseded.map Prod.fst ++ [old.seq]))).Perm (seq :: buffer.places) := by
      rw [places, split, List.perm_iff_count]
      intro number
      simp only [List.map_append, List.map_cons, List.count_append, List.count_cons,
        List.count_nil]
      omega
    have apart := moved.nodup_iff.mpr (List.nodup_cons.mpr ⟨fresh, invariant.apart⟩)
    simpa [places, replaced] using apart
  · intro entry member
    rw [replaced] at member
    simp only [List.mem_append, List.mem_cons] at member
    have kept : ∀ other ∈ buffer.contents ++ buffer.delivered,
        Recorded (buffer.puts ++ [(seq, value)]) other :=
      fun other inside => (invariant.recorded other inside).mono _
    rw [split] at kept
    rcases member with (inBefore | rfl | inAfter) | inDelivered
    · exact kept entry (by simp [inBefore])
    · exact ⟨value, by simp, .inr rfl⟩
    · exact kept entry (by simp [inAfter])
    · exact kept entry (by simp [inDelivered])
  · intro pair member
    rcases List.mem_append.mp member with earlier | added
    · obtain ⟨known, inside⟩ := invariant.known pair earlier
      exact ⟨known, List.mem_append_left _ inside⟩
    · rw [List.mem_singleton] at added
      have oldMember : old ∈ buffer.contents ++ buffer.delivered := by simp [split]
      obtain ⟨known, inside, -⟩ := invariant.recorded old oldMember
      exact ⟨known, by rw [added]; exact List.mem_append_left _ inside⟩
  · have single := invariant.single
    rw [split] at single
    rw [replaced]
    simpa [List.filterMap_append, oldKey, named] using single

theorem invariant_put {value : α} {seq : Nat} (invariant : buffer.Invariant key)
    (grows : ∀ earlier ∈ buffer.puts, earlier.1 < seq) :
    (buffer.put key value seq).Invariant key := by
  cases found : slot key buffer.contents value with
  | some old => exact invariant_coalesced invariant grows found
  | none =>
      rw [put_of_no_slot found]
      split
      · exact invariant_appended invariant grows (List.tail_suffix _) rfl (.inl rfl)
          (fun name gapKey => by cases gapKey)
      · exact invariant_appended invariant grows (List.suffix_refl _) rfl (.inr rfl)
          (fun name named => key_notMem_of_no_slot named found)

theorem step_put {value : α} {seq : Nat} {next : Buffer α}
    (stepped : buffer.step key (.put value seq) = some next) :
    (∀ earlier ∈ buffer.puts, earlier.1 < seq) ∧ next = buffer.put key value seq := by
  simp only [step, Option.ite_none_right_eq_some, Option.some.injEq, List.all_eq_true,
    decide_eq_true_eq] at stepped
  exact ⟨stepped.1, stepped.2.symm⟩

theorem step_get {next : Buffer α} (stepped : buffer.step key .get = some next) :
    ∃ entry rest, buffer.contents = entry :: rest ∧
      next = { buffer with contents := rest, delivered := buffer.delivered ++ [entry] } := by
  cases contents : buffer.contents with
  | nil => simp [step, contents] at stepped
  | cons entry rest =>
      simp only [step, contents, Option.some.injEq] at stepped
      exact ⟨entry, rest, rfl, stepped.symm⟩

theorem Invariant.step (buffer : Buffer α) (call : Call α) (next : Buffer α)
    (invariant : buffer.Invariant key) (stepped : buffer.step key call = some next) :
    next.Invariant key := by
  cases call with
  | put value seq =>
      obtain ⟨grows, rfl⟩ := step_put stepped
      exact invariant_put invariant grows
  | get =>
      obtain ⟨entry, rest, split, rfl⟩ := step_get stepped
      exact invariant_get invariant split

/-! ### What stays accounted for -/

theorem accounted_coalesced {value : α} {seq : Nat} {old : Entry α} {put : Nat × α}
    (invariant : buffer.Invariant key) (grows : ∀ earlier ∈ buffer.puts, earlier.1 < seq)
    (found : slot key buffer.contents value = some old)
    (member : put ∈ buffer.puts) (accounted : buffer.Accounted key put) :
    (buffer.put key value seq).Accounted key put := by
  obtain ⟨name, before, after, named, split, oldKey, replaced⟩ :=
    slot_split invariant found
  rw [put_of_slot named found]
  unfold Accounted at accounted ⊢
  rw [replaced]
  rw [split] at accounted
  simp only [List.mem_append, List.mem_cons] at accounted ⊢
  rcases accounted with
    (inBefore | isOld | inAfter) | inDelivered | superseded | (inBefore | isOld | inAfter) | gap
  · exact .inl (.inl inBefore)
  · -- The value is the one that the put replaces.
    right; right; left
    have sameKey : key put.2 = some name := by
      rw [← isOld] at oldKey
      exact oldKey
    refine ⟨(seq, value), by simp, ?_, grows put member, by simp [sameKey], ?_⟩
    · simp [← isOld]
    · rw [named, sameKey]
  · exact .inl (.inr (.inr inAfter))
  · exact .inr (.inl inDelivered)
  · right; right; left
    exact superseded.mono (List.subset_append_left _ _) (List.subset_append_left _ _)
  · exact .inr (.inr (.inr (.inl (.inl inBefore))))
  · rw [← isOld] at oldKey
    cases oldKey
  · exact .inr (.inr (.inr (.inl (.inr (.inr inAfter)))))
  · exact .inr (.inr (.inr (.inr gap)))

theorem accounted_appended {value : α} {seq : Nat} {put : Nat × α}
    (missing : slot key buffer.contents value = none) (room : buffer.full = false)
    (accounted : buffer.Accounted key put) :
    (buffer.put key value seq).Accounted key put := by
  rw [put_of_no_slot missing, room]
  unfold Accounted at accounted ⊢
  simp only [Bool.false_eq_true, if_false, List.mem_append] at accounted ⊢
  rcases accounted with inContents | inDelivered | superseded | inContents | inDelivered
  · exact .inl (.inl inContents)
  · exact .inr (.inl inDelivered)
  · right; right; left
    exact superseded.mono (List.subset_append_left _ _) (List.Subset.refl _)
  · exact .inr (.inr (.inr (.inl (.inl inContents))))
  · exact .inr (.inr (.inr (.inr inDelivered)))

theorem accounted_new {value : α} {seq : Nat} (invariant : buffer.Invariant key)
    (fits : ¬ buffer.Overflows key (.put value seq)) :
    (buffer.put key value seq).Accounted key (seq, value) := by
  cases found : slot key buffer.contents value with
  | some old =>
      obtain ⟨name, before, after, named, split, oldKey, replaced⟩ :=
        slot_split invariant found
      rw [put_of_slot named found]
      exact .inl (by simp [replaced])
  | none =>
      have room : buffer.full = false := by
        simpa [Overflows, found] using fits
      rw [put_of_no_slot found, room]
      exact .inl (by simp)

/-- The value dropped by an overflow has no place any more. -/
theorem lost_of_overflow {value : α} {seq : Nat} (invariant : buffer.Invariant key)
    (grows : ∀ earlier ∈ buffer.puts, earlier.1 < seq)
    (overflows : buffer.Overflows key (.put value seq)) :
    ∃ put ∈ buffer.puts, ¬ (buffer.put key value seq).Accounted key put := by
  obtain ⟨missing, full⟩ := overflows
  have long : buffer.capacity ≤ buffer.contents.length := of_decide_eq_true full
  have positive := buffer.positive
  obtain ⟨dropped, rest, split⟩ : ∃ dropped rest, buffer.contents = dropped :: rest := by
    cases contents : buffer.contents with
    | nil =>
        rw [contents, List.length_nil] at long
        omega
    | cons dropped rest => exact ⟨dropped, rest, rfl⟩
  obtain ⟨lost, member, -⟩ := invariant.recorded dropped (by simp [split])
  refine ⟨(dropped.seq, lost), member, ?_⟩
  intro accounted
  have place := accounted.place
  have below := grows _ member
  have apart := invariant.apart
  rw [put_of_no_slot missing, full] at place
  simp only [places, split, List.tail_cons, if_true, List.map_append, List.map_cons,
    List.map_nil, List.mem_append, List.mem_cons, List.cons_append, List.nodup_cons]
    at place apart
  rcases place with (inRest | isNew) | others
  · exact apart.1 (.inl inRest)
  · simp at isNew
    omega
  · exact apart.1 (.inr others)

/-! ### What is delivered -/

/-- A coalesced value takes the place of the earlier one. -/
theorem values_coalesced {value : α} {seq : Nat} {old : Entry α}
    (invariant : buffer.Invariant key)
    (found : slot key buffer.contents value = some old) :
    ∃ first earlier last, buffer.values = first ++ earlier :: last ∧
      (buffer.put key value seq).values = first ++ value :: last ∧
      key earlier = key value ∧ key value ≠ none := by
  obtain ⟨name, before, after, named, split, oldKey, replaced⟩ :=
    slot_split invariant found
  obtain ⟨earlier, held, earlierKey⟩ := Option.bind_eq_some_iff.mp oldKey
  refine ⟨(buffer.delivered ++ before).filterMap Entry.value, earlier,
    after.filterMap Entry.value, ?_, ?_, earlierKey.trans named.symm, by simp [named]⟩
  · simp [values, split, held]
  · rw [put_of_slot named found]
    simp [values, replaced]

theorem values_appended {value : α} {seq : Nat}
    (missing : slot key buffer.contents value = none) (room : buffer.full = false) :
    (buffer.put key value seq).values = buffer.values ++ [value] := by
  rw [put_of_no_slot missing, room]
  simp [values]

/-- Only an overflow makes a gap. -/
theorem gap_of_put {value : α} {seq number : Nat} (invariant : buffer.Invariant key)
    (fits : ¬ buffer.Overflows key (.put value seq))
    (member : ⟨number, none⟩ ∈ (buffer.put key value seq).contents) :
    ⟨number, none⟩ ∈ buffer.contents := by
  cases found : slot key buffer.contents value with
  | some old =>
      obtain ⟨name, before, after, named, split, oldKey, replaced⟩ :=
        slot_split invariant found
      rw [put_of_slot named found] at member
      simp only [replaced, List.mem_append, List.mem_cons, Entry.mk.injEq, reduceCtorEq,
        and_false, false_or] at member
      rw [split]
      rcases member with inBefore | inAfter
      · exact List.mem_append_left _ inBefore
      · exact List.mem_append_right _ (List.mem_cons_of_mem _ inAfter)
  | none =>
      have room : buffer.full = false := by simpa [Overflows, found] using fits
      rw [put_of_no_slot found, room] at member
      simpa using member

/-! ### Exactness -/

/-- A step keeps the account complete exactly if it does not overflow. -/
theorem noSilentLoss_step (buffer : Buffer α) (call : Call α) (next : Buffer α)
    (invariant : buffer.Invariant key) (complete : buffer.NoSilentLoss key)
    (stepped : buffer.step key call = some next) :
    next.NoSilentLoss key ↔ ¬ buffer.Overflows key call := by
  cases call with
  | get =>
      obtain ⟨entry, rest, split, rfl⟩ := step_get stepped
      simp only [Overflows, not_false_eq_true, iff_true]
      intro put member
      exact accounted_get split (complete put member)
  | put value seq =>
      obtain ⟨grows, rfl⟩ := step_put stepped
      constructor
      · intro kept overflows
        obtain ⟨put, member, lost⟩ := lost_of_overflow invariant grows overflows
        exact lost (kept put (by rw [puts_put]; exact List.mem_append_left _ member))
      · intro fits put member
        rw [puts_put, List.mem_append, List.mem_singleton] at member
        rcases member with earlier | rfl
        · cases found : slot key buffer.contents value with
          | some old =>
              exact accounted_coalesced invariant grows found earlier (complete put earlier)
          | none =>
              have room : buffer.full = false := by simpa [Overflows, found] using fits
              exact accounted_appended found room (complete put earlier)
        · exact accounted_new invariant fits

end Laws

end Buffer

end QuAIA.Library.CoalescingBuffer
