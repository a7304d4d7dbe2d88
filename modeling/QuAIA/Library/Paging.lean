import Mathlib.Data.List.Basic
import Mathlib.Data.List.TakeDrop

/-!
Contract: pages that are taken from the end of a list, and the reader that asks for them.

Owns: the slice of a list that an offset from its end and a limit select; the reader that asks
for page after page until one is short; and that it reads the list backwards, each element once,
with a known number of requests.

Does not own: a list that changes while it is read.
-/

set_option autoImplicit false

namespace QuAIA.Library.Paging

universe u v

variable {α : Type u} {β : Type v}

/-- The last elements but `offset`, at most `limit` of them, the last one first. -/
def sliceFromEnd (limit offset : Nat) (list : List α) : List α :=
  if list.length ≤ offset then []
  else
    let stop := list.length - offset
    ((list.take stop).drop (stop - limit)).reverse

/-- Read page after page until one is short; nothing after a bound on the requests. -/
def readPages (fetch : Nat → List α) (size : Nat) :
    Nat → List (List α) → Option (List (List α))
  | 0, _ => none
  | requests + 1, allPages =>
      let page := fetch (allPages.length * size)
      if page.length = size then readPages fetch size requests (allPages ++ [page])
      else some (allPages ++ [page])

/-- The slice is a page of the reversed list. -/
theorem sliceFromEnd_eq (limit offset : Nat) (list : List α) :
    sliceFromEnd limit offset list = (list.reverse.drop offset).take limit := by
  rw [sliceFromEnd]
  split
  next beyond =>
    rw [List.drop_eq_nil_of_le (by rwa [List.length_reverse]), List.take_nil]
  next inside =>
    have short : (list.take (list.length - offset)).length = list.length - offset := by
      rw [List.length_take, Nat.min_eq_left (Nat.sub_le _ _)]
    rw [List.drop_reverse, List.take_reverse, short]

/-- A slice without an offset and with a limit that is not reached is everything. -/
theorem sliceFromEnd_all {limit : Nat} {list : List α} (enough : list.length ≤ limit) :
    sliceFromEnd limit 0 list = list.reverse := by
  rw [sliceFromEnd_eq, List.drop_zero, List.take_of_length_le (by rwa [List.length_reverse])]

theorem getElem?_page (limit offset place : Nat) (list : List α) :
    ((list.drop offset).take limit)[place]? =
      if place < limit then list[offset + place]? else none := by
  rw [List.getElem?_take, List.getElem?_drop]

/-- Two pages say the same exactly when they do at every place. -/
theorem map_page_eq_iff (limit offset : Nat) (first second : List α) (say : α → β) :
    ((first.drop offset).take limit).map say = ((second.drop offset).take limit).map say ↔
      ∀ place, offset ≤ place → place < offset + limit →
        first[place]?.map say = second[place]?.map say := by
  constructor
  · intro same place notBefore before
    have here := congrArg (·[place - offset]?) same
    simp only [List.getElem?_map, getElem?_page, if_pos (show place - offset < limit by omega),
      Nat.add_sub_cancel' notBefore] at here
    exact here
  · intro same
    apply List.ext_getElem?
    intro place
    rw [List.getElem?_map, List.getElem?_map, getElem?_page, getElem?_page]
    split
    · exact same (offset + place) (Nat.le_add_right _ _) (by omega)
    · rfl

section Reader

variable {fetch : Nat → List α} {size : Nat} {list : List α}

/-- The reader goes on from pages that it has read in full. -/
theorem readPages_from (paged : ∀ offset, fetch offset = (list.drop offset).take size)
    {requests : Nat} {allPages : List (List α)}
    (read : allPages.flatten = list.take (allPages.length * size))
    (full : allPages.length * size ≤ list.length)
    (enough : list.length < (allPages.length + requests) * size) :
    ∃ pages, readPages fetch size requests allPages = some pages ∧ pages.flatten = list ∧
      pages.length = list.length / size + 1 := by
  induction requests generalizing allPages with
  | zero =>
      rw [Nat.add_zero] at enough
      exact absurd full (Nat.not_le_of_lt enough)
  | succ requests inductionHypothesis =>
      have isPage := paged (allPages.length * size)
      have next : (allPages ++ [fetch (allPages.length * size)]).length * size =
          allPages.length * size + size := by
        rw [List.length_append, List.length_singleton, Nat.add_mul, Nat.one_mul]
      have flat : (allPages ++ [fetch (allPages.length * size)]).flatten =
          list.take (allPages.length * size + size) := by
        rw [List.flatten_append, List.flatten_singleton, read, isPage, ← List.take_add]
      have pageLength : (fetch (allPages.length * size)).length =
          min size (list.length - allPages.length * size) := by
        rw [isPage, List.length_take, List.length_drop]
      rw [readPages]
      split
      next isFull =>
        rw [isFull] at pageLength
        apply inductionHypothesis
        · rw [flat, next]
        · rw [next]
          omega
        · rw [List.length_append, List.length_singleton]
          rwa [Nat.add_assoc, Nat.add_comm 1 requests]
      next isShort =>
        rw [pageLength] at isShort
        refine ⟨_, rfl, ?_, ?_⟩
        · rw [flat, List.take_of_length_le (by omega)]
        · rw [List.length_append, List.length_singleton,
            Nat.div_eq_of_lt_le (by omega) (by rw [Nat.add_mul, Nat.one_mul]; omega)]

/-- **Reading a list in pages.** With a positive size and enough requests the reader reads every
element once, in order, and asks for `length / size + 1` pages. -/
theorem readPages_eq (positive : 1 ≤ size)
    (paged : ∀ offset, fetch offset = (list.drop offset).take size) {requests : Nat}
    (enough : list.length / size < requests) :
    ∃ pages, readPages fetch size requests [] = some pages ∧ pages.flatten = list ∧
      pages.length = list.length / size + 1 := by
  apply readPages_from paged
  · rw [List.length_nil, Nat.zero_mul, List.take_zero, List.flatten_nil]
  · rw [List.length_nil, Nat.zero_mul]
    exact Nat.zero_le _
  · rw [List.length_nil, Nat.zero_add]
    exact (Nat.div_lt_iff_lt_mul positive).mp enough

end Reader

end QuAIA.Library.Paging
