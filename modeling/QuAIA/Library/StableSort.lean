import Mathlib.Data.List.Basic
import Mathlib.Order.Lattice

/-!
Contract: lists that are sorted by a key, and the stable sort.

Owns: the sort, which keeps the order of elements with one key; lists that fall by a key, whose
elements with one key stand together; the place to which a rising sort and a reversal bring
an element of such a list; and the sorts of a part of a list and of a list with more in front.

Does not own: sorts that are not stable.
-/

set_option autoImplicit false

namespace QuAIA.Library.StableSort

universe u v

variable {α : Type u} {κ : Type v} [LinearOrder κ]

/-- The stable sort by a key, the least first. -/
def sortBy (key : α → κ) (list : List α) : List α :=
  list.mergeSort fun first second => decide (key first ≤ key second)

/-- The elements with a key. -/
def run (key : α → κ) (value : κ) (list : List α) : List α :=
  list.filter fun element => decide (key element = value)

/-- How many elements have a greater key. -/
def above (key : α → κ) (value : κ) (list : List α) : Nat :=
  list.countP fun element => decide (value < key element)

/-- The greatest key comes first. -/
def Falling (key : α → κ) (list : List α) : Prop :=
  list.Pairwise fun first second => key second ≤ key first

/-- The place that lies opposite within the run of a key in a falling list. -/
def mirror (key : α → κ) (value : κ) (list : List α) (place : Nat) : Nat :=
  above key value list + ((run key value list).length - 1 - (place - above key value list))

section Sorting

variable (key : α → κ) (list : List α)

theorem sortBy_perm : (sortBy key list).Perm list := List.mergeSort_perm list _

theorem le_trans_key (first second third : α)
    (lower : decide (key first ≤ key second) = true)
    (upper : decide (key second ≤ key third) = true) : decide (key first ≤ key third) = true := by
  rw [decide_eq_true_eq] at *
  exact le_trans lower upper

theorem le_total_key (first second : α) :
    (decide (key first ≤ key second) || decide (key second ≤ key first)) = true := by
  rw [Bool.or_eq_true, decide_eq_true_eq, decide_eq_true_eq]
  exact le_total (key first) (key second)

theorem pairwise_sortBy :
    (sortBy key list).Pairwise fun first second => key first ≤ key second := by
  have sorted := List.pairwise_mergeSort (le_trans_key key) (le_total_key key) list
  exact sorted.imp fun isLess => of_decide_eq_true isLess

variable {key list}

/-- A list that is sorted stays as it is, and no other does. -/
theorem sortBy_of_pairwise (sorted : list.Pairwise fun first second => key first ≤ key second) :
    sortBy key list = list :=
  List.mergeSort_of_pairwise (sorted.imp fun isLess => decide_eq_true isLess)

variable (key list)

/-- Elements with one key keep their order. -/
theorem run_sortBy (value : κ) : run key value (sortBy key list) = run key value list := by
  have alike : (run key value list).Pairwise
      fun first second => decide (key first ≤ key second) = true := by
    refine List.pairwise_of_forall_mem_list fun first isFirst second isSecond => ?_
    have firstKey := of_decide_eq_true (List.mem_filter.mp isFirst).2
    have secondKey := of_decide_eq_true (List.mem_filter.mp isSecond).2
    exact decide_eq_true (by rw [firstKey, secondKey])
  have inOrder : (run key value list).Sublist (sortBy key list) :=
    List.sublist_mergeSort (le_trans_key key) (le_total_key key) alike List.filter_sublist
  have filtered := inOrder.filter fun element => decide (key element = value)
  rw [run, List.filter_filter] at filtered
  simp only [Bool.and_self] at filtered
  exact (filtered.eq_of_length ((sortBy_perm key list).filter _).length_eq.symm).symm

theorem falling_reverse_sortBy : Falling key (sortBy key list).reverse :=
  List.pairwise_reverse.mpr (pairwise_sortBy key list)

end Sorting

section Places

variable {key : α → κ} {list : List α}

/-- In a falling list the greater keys come first, then the run of a key, then the lesser. -/
theorem Falling.split (falling : Falling key list) (value : κ) :
    list = (list.filter fun element => decide (value < key element)) ++
      (run key value list ++ list.filter fun element => decide (key element < value)) := by
  induction list with
  | nil => rfl
  | cons head rest inductionHypothesis =>
      obtain ⟨least, fallingRest⟩ := List.pairwise_cons.mp falling
      have restSplit := inductionHypothesis fallingRest
      simp only [run, List.filter_cons, decide_eq_true_eq] at restSplit ⊢
      rcases lt_trichotomy value (key head) with isAbove | isSame | isBelow
      · rw [if_pos isAbove, if_neg (ne_of_gt isAbove), if_neg (lt_asymm isAbove)]
        exact congrArg (head :: ·) restSplit
      · have noneAbove : (rest.filter fun element => decide (value < key element)) = [] :=
          List.filter_eq_nil_iff.mpr fun element member isAbove =>
            absurd (of_decide_eq_true isAbove) (not_lt_of_ge (isSame ▸ least element member))
        rw [noneAbove, List.nil_append] at restSplit
        rw [if_neg (isSame ▸ lt_irrefl value), if_pos isSame.symm,
          if_neg (isSame ▸ lt_irrefl value), noneAbove]
        exact congrArg (head :: ·) restSplit
      · have noneAbove : (rest.filter fun element => decide (value < key element)) = [] :=
          List.filter_eq_nil_iff.mpr fun element member isAbove =>
            absurd (of_decide_eq_true isAbove)
              (not_lt_of_ge (le_trans (least element member) (le_of_lt isBelow)))
        have noneSame : (rest.filter fun element => decide (key element = value)) = [] :=
          List.filter_eq_nil_iff.mpr fun element member isSame =>
            absurd (of_decide_eq_true isSame)
              (ne_of_lt (lt_of_le_of_lt (least element member) isBelow))
        rw [noneAbove, noneSame, List.nil_append, List.nil_append] at restSplit
        rw [if_neg (lt_asymm isBelow), if_neg (ne_of_lt isBelow), if_pos isBelow, noneAbove,
          noneSame]
        exact congrArg (head :: ·) restSplit

theorem above_eq_length (value : κ) :
    above key value list = (list.filter fun element => decide (value < key element)).length :=
  List.countP_eq_length_filter

/-- The run of a key stands behind the greater keys. -/
theorem Falling.getElem?_run (falling : Falling key list) {value : κ} {place : Nat}
    (inside : place < (run key value list).length) :
    list[above key value list + place]? = (run key value list)[place]? := by
  have split := falling.split value
  rw [above_eq_length]
  calc list[(list.filter fun element => decide (value < key element)).length + place]?
      = ((list.filter fun element => decide (value < key element)) ++
          (run key value list ++ list.filter fun element => decide (key element < value)))[
            (list.filter fun element => decide (value < key element)).length + place]? := by
        rw [← split]
    _ = (run key value list)[place]? := by
        rw [List.getElem?_append_right (Nat.le_add_right _ _), Nat.add_sub_cancel_left,
          List.getElem?_append_left inside]

/-- An element of a falling list stands in the run of its key. -/
theorem Falling.place (falling : Falling key list) {place : Nat} {element : α}
    (isElement : list[place]? = some element) :
    above key (key element) list ≤ place ∧
      place - above key (key element) list < (run key (key element) list).length := by
  have split := falling.split (key element)
  have isBehind : above key (key element) list ≤ place := by
    rw [above_eq_length]
    by_contra early
    rw [split, List.getElem?_append_left (Nat.lt_of_not_le early)] at isElement
    have member := List.mem_of_getElem? isElement
    exact lt_irrefl _ (of_decide_eq_true (List.mem_filter.mp member).2)
  refine ⟨isBehind, ?_⟩
  rw [above_eq_length] at isBehind ⊢
  by_contra late
  rw [split, List.getElem?_append_right isBehind,
    List.getElem?_append_right (Nat.le_of_not_lt late)] at isElement
  have member := List.mem_of_getElem? isElement
  exact lt_irrefl _ (of_decide_eq_true (List.mem_filter.mp member).2)

theorem above_eq_of_perm {other : List α} (permuted : list.Perm other) (value : κ) :
    above key value list = above key value other :=
  permuted.countP_eq _

/-- After a rising sort and a reversal, a falling list has the opposite element at a place. -/
theorem Falling.getElem?_reverse_sortBy (falling : Falling key list) {place : Nat} {element : α}
    (isElement : list[place]? = some element) :
    (sortBy key list).reverse[place]? = list[mirror key (key element) list place]? := by
  obtain ⟨isAbove, inside⟩ := falling.place isElement
  have sameAbove : above key (key element) (sortBy key list).reverse =
      above key (key element) list :=
    above_eq_of_perm ((List.reverse_perm _).trans (sortBy_perm key list)) (key element)
  have sameRun : run key (key element) (sortBy key list).reverse =
      (run key (key element) list).reverse := by
    rw [run, List.filter_reverse, ← run, run_sortBy]
  have inRun : place - above key (key element) list <
      (run key (key element) (sortBy key list).reverse).length := by
    rw [sameRun, List.length_reverse]
    exact inside
  have placed := (falling_reverse_sortBy key list).getElem?_run inRun
  rw [sameAbove, Nat.add_sub_cancel' isAbove, sameRun, List.getElem?_reverse inside] at placed
  rw [placed, mirror, falling.getElem?_run (by omega)]

end Places

section Parts

variable {key : α → κ}

theorem run_cons (value : κ) (head : α) (rest : List α) :
    run key value (head :: rest) =
      if key head = value then head :: run key value rest else run key value rest := by
  simp only [run, List.filter_cons, decide_eq_true_eq]

theorem le_of_run_ne_nil {head : α} {rest : List α} {value : κ}
    (rises : (head :: rest).Pairwise fun first second => key first ≤ key second)
    (occurs : run key value (head :: rest) ≠ []) : key head ≤ value := by
  obtain ⟨element, member⟩ := List.exists_mem_of_ne_nil _ occurs
  obtain ⟨inList, hasKey⟩ := List.mem_filter.mp member
  rw [← of_decide_eq_true hasKey]
  rcases List.mem_cons.mp inList with rfl | inRest
  · exact le_refl _
  · exact (List.pairwise_cons.mp rises).1 element inRest

/-- Rising lists with the same runs are the same. -/
theorem eq_of_run_eq {first second : List α}
    (firstRises : first.Pairwise fun first second => key first ≤ key second)
    (secondRises : second.Pairwise fun first second => key first ≤ key second)
    (same : ∀ value, run key value first = run key value second) : first = second := by
  induction first generalizing second with
  | nil =>
      cases second with
      | nil => rfl
      | cons head rest =>
          have here := same (key head)
          rw [run_cons, if_pos rfl] at here
          cases here
  | cons head rest inductionHypothesis =>
      have here := same (key head)
      rw [run_cons, if_pos rfl] at here
      cases second with
      | nil => cases here
      | cons other others =>
          have occurs : run key (key head) (other :: others) ≠ [] := by
            rw [← here]
            exact List.cons_ne_nil _ _
          have alsoOccurs : run key (key other) (head :: rest) ≠ [] := by
            rw [same, run_cons, if_pos rfl]
            exact List.cons_ne_nil _ _
          have sameKey : key other = key head :=
            le_antisymm (le_of_run_ne_nil secondRises occurs)
              (le_of_run_ne_nil firstRises alsoOccurs)
          rw [run_cons, if_pos sameKey] at here
          obtain ⟨rfl, -⟩ := List.cons.inj here
          refine congrArg (head :: ·) (inductionHypothesis (List.pairwise_cons.mp firstRises).2
            (List.pairwise_cons.mp secondRises).2 fun value => ?_)
          have both := same value
          rw [run_cons, run_cons] at both
          split at both
          · exact List.tail_eq_of_cons_eq both
          · exact both

/-- The sort of a part is that part of the sort. -/
theorem sortBy_filter (list : List α) (keep : α → Bool) :
    sortBy key (list.filter keep) = (sortBy key list).filter keep := by
  apply eq_of_run_eq (pairwise_sortBy key _)
    ((pairwise_sortBy key list).sublist List.filter_sublist)
  intro value
  have filtered : ∀ elements : List α,
      run key value (elements.filter keep) = (run key value elements).filter keep := by
    intro elements
    rw [run, run, List.filter_filter, List.filter_filter]
    simp only [Bool.and_comm]
  rw [run_sortBy, filtered, filtered, run_sortBy]

/-- More elements in front keep the order of the sort. -/
theorem sortBy_sublist_append (front list : List α) :
    (sortBy key list).Sublist (sortBy key (front ++ list)) := by
  induction front with
  | nil => exact List.Sublist.refl _
  | cons head front inductionHypothesis =>
      obtain ⟨before, after, isSort, isRest, -⟩ :=
        List.mergeSort_cons (le_trans_key key) (le_total_key key) head (front ++ list)
      refine inductionHypothesis.trans ?_
      rw [sortBy, sortBy, List.cons_append, isSort, isRest]
      exact (List.Sublist.refl before).append (List.sublist_cons_self head after)

/-- The greater keys of a falling list come first, so that they can be dropped first. -/
theorem Falling.filter_drop {list : List α} (falling : Falling key list) (bound : κ)
    (count : Nat) :
    (list.drop count).filter (fun element => decide (bound < key element)) =
      (list.filter fun element => decide (bound < key element)).drop count := by
  induction list generalizing count with
  | nil => rw [List.drop_nil, List.filter_nil, List.drop_nil]
  | cons head rest inductionHypothesis =>
      obtain ⟨least, fallingRest⟩ := List.pairwise_cons.mp falling
      cases count with
      | zero => rfl
      | succ count =>
          rw [List.drop_succ_cons, inductionHypothesis fallingRest, List.filter_cons]
          split
          next => rfl
          next isBelow =>
            have noneAbove : (rest.filter fun element => decide (bound < key element)) = [] := by
              refine List.filter_eq_nil_iff.mpr fun element member isAbove => isBelow ?_
              exact decide_eq_true
                (lt_of_lt_of_le (of_decide_eq_true isAbove) (least element member))
            rw [noneAbove, List.drop_nil, List.drop_nil]

end Parts

end QuAIA.Library.StableSort
