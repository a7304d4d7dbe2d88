import QuAIA.Library.Paging

/-!
Contract: pages that are read from a list that changes between the requests.

Owns: which pages a reader has when a page is short; that what only moves away from the front of the
list is not missed; and the length of what is read from a list that does not shrink.

Does not own: what moves towards the front. It can come to a place that has been read already.
-/

set_option autoImplicit false

namespace QuAIA.Library.Paging

universe u

variable {α : Type u} {fetch : Nat → List α} {size last : Nat}

/-- The page with this number is the first one that is short. -/
structure EndsAt (fetch : Nat → List α) (size last : Nat) : Prop where
  full : ∀ index < last, (fetch (index * size)).length = size
  short : (fetch (last * size)).length ≠ size

def pagesUpTo (fetch : Nat → List α) (size last : Nat) : List (List α) :=
  (List.range (last + 1)).map fun index => fetch (index * size)

theorem readPages_from_range {requests : Nat} (done : Nat)
    (full : ∀ index < done, (fetch (index * size)).length = size)
    (short : ∃ index < done + requests, (fetch (index * size)).length ≠ size) :
    ∃ last < done + requests, EndsAt fetch size last ∧
      readPages fetch size requests ((List.range done).map fun index => fetch (index * size)) =
        some (pagesUpTo fetch size last) := by
  induction requests generalizing done with
  | zero =>
      obtain ⟨index, inRange, isShort⟩ := short
      exact absurd (full index inRange) isShort
  | succ requests inductionHypothesis =>
      have next : ((List.range done).map fun index => fetch (index * size)) ++
          [fetch (done * size)] =
            (List.range (done + 1)).map fun index => fetch (index * size) := by
        rw [List.range_succ, List.map_append, List.map_singleton]
      rw [readPages, List.length_map, List.length_range, next]
      split
      next isFull =>
        have nowFull : ∀ index < done + 1, (fetch (index * size)).length = size := by
          intro index inRange
          rcases Nat.lt_succ_iff_lt_or_eq.mp inRange with earlier | rfl
          · exact full index earlier
          · exact isFull
        rw [← Nat.add_assoc, Nat.add_right_comm] at short ⊢
        exact inductionHypothesis (done + 1) nowFull short
      next isShort =>
        exact ⟨done, Nat.lt_add_of_pos_right (Nat.zero_lt_succ requests), ⟨full, isShort⟩, rfl⟩

/-- The reader ends with the first short page. -/
theorem readPages_endsAt {requests : Nat}
    (short : ∃ index < requests, (fetch (index * size)).length ≠ size) :
    ∃ last < requests, EndsAt fetch size last ∧
      readPages fetch size requests [] = some (pagesUpTo fetch size last) := by
  rw [← Nat.zero_add requests] at short
  have read := readPages_from_range 0 (fun index none => absurd none (Nat.not_lt_zero index)) short
  rwa [Nat.zero_add] at read

theorem EndsAt.unique {other : Nat} (ends : EndsAt fetch size last)
    (endsThere : EndsAt fetch size other) : last = other := by
  rcases Nat.lt_trichotomy last other with earlier | same | later
  · exact absurd (endsThere.full last earlier) ends.short
  · exact same
  · exact absurd (ends.full other later) endsThere.short

theorem EndsAt.readPages_eq {requests : Nat} (ends : EndsAt fetch size last)
    (inRange : last < requests) :
    readPages fetch size requests [] = some (pagesUpTo fetch size last) := by
  obtain ⟨other, -, endsThere, read⟩ := readPages_endsAt ⟨last, inRange, ends.short⟩
  rw [read, ends.unique endsThere]

section Changing

variable {lists : Nat → List α} (ends : EndsAt fetch size last)
  (isPage : ∀ index, fetch (index * size) = ((lists index).drop (index * size)).take size)

include ends isPage

/-- From the last page on nothing is left. -/
theorem EndsAt.length_le : (lists last).length ≤ last * size + size := by
  have short := ends.short
  rw [isPage, List.length_take, List.length_drop] at short
  omega

/-- **Nothing is missed.** Where no change brings a kept element forward, the kept elements of the
first list are read, in their order. -/
theorem EndsAt.filter_sublist {keep : α → Bool}
    (moves : ∀ index < last, ∀ place,
      (((lists index).drop place).filter keep).Sublist ((lists (index + 1)).drop place)) :
    ((lists 0).filter keep).Sublist (pagesUpTo fetch size last).flatten := by
  -- Backwards over the pages: what lies behind a page is read by the later ones.
  have fromPage : ∀ remaining index, index + remaining = last →
      (((lists index).drop (index * size)).filter keep).Sublist
        ((List.range' index (remaining + 1)).map fun index => fetch (index * size)).flatten := by
    intro remaining
    induction remaining with
    | zero =>
        intro index isLast
        rw [Nat.add_zero] at isLast
        subst isLast
        have few := ends.length_le isPage
        have whole : fetch (index * size) = (lists index).drop (index * size) := by
          rw [isPage, List.take_of_length_le]
          rw [List.length_drop]
          omega
        simp [whole]
    | succ remaining inductionHypothesis =>
        intro index isLast
        have later := inductionHypothesis (index + 1) (by omega)
        have behind := (moves index (by omega) ((index + 1) * size)).filter keep
        rw [List.filter_filter] at behind
        simp only [Bool.and_self] at behind
        have parted : (lists index).drop (index * size) =
            fetch (index * size) ++ (lists index).drop ((index + 1) * size) := by
          rw [isPage, Nat.add_mul, Nat.one_mul, ← List.drop_drop, List.take_append_drop]
        rw [parted, List.filter_append, List.range'_succ, List.map_cons, List.flatten_cons]
        exact List.filter_sublist.append (behind.trans later)
  have all := fromPage last 0 (Nat.zero_add last)
  rwa [Nat.zero_mul, List.drop_zero, ← List.range_eq_range'] at all

/-- As much is read as the last list has, if no list is shorter than the one before. -/
theorem EndsAt.length_flatten (positive : 1 ≤ size)
    (grows : ∀ index < last, (lists index).length ≤ (lists (index + 1)).length) :
    (pagesUpTo fetch size last).flatten.length = (lists last).length := by
  have front : ∀ count ≤ last,
      ((List.range count).map fun index => fetch (index * size)).flatten.length =
        count * size := by
    intro count
    induction count with
    | zero => simp
    | succ count inductionHypothesis =>
        intro within
        rw [List.range_succ, List.map_append, List.flatten_append, List.length_append,
          inductionHypothesis (Nat.le_of_succ_le within), List.map_singleton,
          List.flatten_singleton, ends.full count within, Nat.add_mul, Nat.one_mul]
  have reached : last * size ≤ (lists last).length := by
    cases last with
    | zero => simp
    | succ before =>
        have fullPage := ends.full before (Nat.lt_succ_self before)
        have longer := grows before (Nat.lt_succ_self before)
        rw [isPage, List.length_take, List.length_drop] at fullPage
        rw [Nat.add_mul, Nat.one_mul]
        omega
  have few := ends.length_le isPage
  rw [pagesUpTo, List.range_succ, List.map_append, List.flatten_append, List.length_append,
    front last (Nat.le_refl last), List.map_singleton, List.flatten_singleton, isPage,
    List.length_take, List.length_drop]
  omega

end Changing

end QuAIA.Library.Paging
