import Mathlib.Data.List.TakeWhile

/-!
Contract: patterns that are matched at the start of a text as a backtracking search does.

Owns: the pieces of a pattern with their alternatives in the order of preference, the first match
of a sequence of pieces, and what a preferred piece contributes to it.

Does not own: repeated groups, anchors and the case of letters.
-/

set_option autoImplicit false

namespace QuAIA.Library.Pattern

/-- What a piece takes from a text and what it leaves, the preferred way first. -/
abbrev Piece := List Char → List (List Char × List Char)

def literal (character : Char) : Piece
  | [] => []
  | first :: rest => if first = character then [([first], rest)] else []

/-- One character of each class. -/
def matchClasses : List (Char → Bool) → List Char → Option (List Char × List Char)
  | [], text => some ([], text)
  | _ :: _, [] => none
  | inClass :: classes, character :: rest =>
      if inClass character then
        (matchClasses classes rest).map fun parts => (character :: parts.1, parts.2)
      else none

def oneOf (alternatives : List (List (Char → Bool))) : Piece := fun text =>
  alternatives.filterMap fun classes => matchClasses classes text

/-- Some characters of a class up to a limit, as many as possible first. -/
def greedy (inClass : Char → Bool) (limit : Nat) : Piece := fun text =>
  let run := min (text.takeWhile inClass).length limit
  (List.range' 1 run).reverse.map fun size => text.splitAt size

/-- What the pieces take in the match that is found first, and what is left. -/
def firstMatch : List Piece → List Char → Option (List (List Char) × List Char)
  | [], text => some ([], text)
  | piece :: pieces, text =>
      (piece text).findSome? fun parts =>
        (firstMatch pieces parts.2).map fun found => (parts.1 :: found.1, found.2)

/-- The first match of the whole text. -/
def fullMatch (pieces : List Piece) (text : List Char) : Option (List (List Char)) :=
  match firstMatch pieces text with
  | some (taken, []) => some taken
  | _ => none

variable {piece : Piece} {pieces : List Piece} {text taken rest : List Char}

/-- The preferred way of a piece stays if the pieces behind it match. -/
theorem firstMatch_cons (preferred : (piece text).head? = some (taken, rest))
    {parts : List (List Char)} {final : List Char}
    (behind : firstMatch pieces rest = some (parts, final)) :
    firstMatch (piece :: pieces) text = some (taken :: parts, final) := by
  obtain ⟨others, ways⟩ := List.head?_eq_some_iff.mp preferred
  rw [firstMatch, ways, List.findSome?_cons, behind]
  rfl

@[simp] theorem head?_literal (character : Char) (rest : List Char) :
    (literal character (character :: rest)).head? = some ([character], rest) := by
  rw [literal, if_pos rfl]
  rfl

/-- As many characters of one class as are asked for. -/
theorem matchClasses_replicate {inClass : Char → Bool}
    (allInClass : ∀ character ∈ taken, inClass character = true) (rest : List Char) :
    matchClasses (List.replicate taken.length inClass) (taken ++ rest) = some (taken, rest) := by
  induction taken with
  | nil => rfl
  | cons character taken inductionHypothesis =>
      obtain ⟨first, others⟩ := List.forall_mem_cons.mp allInClass
      rw [List.length_cons, List.replicate_succ, List.cons_append, matchClasses, if_pos first,
        inductionHypothesis others]
      rfl

/-- The first alternative, if it fits. -/
theorem head?_oneOf {classes : List (Char → Bool)} (alternatives : List (List (Char → Bool)))
    (fits : matchClasses classes text = some (taken, rest)) :
    (oneOf (classes :: alternatives) text).head? = some (taken, rest) := by
  simp only [oneOf, List.filterMap_cons, fits, List.head?_cons]

/-- A run within the limit is taken as a whole. -/
theorem head?_greedy {inClass : Char → Bool} {limit : Nat} (nonempty : taken ≠ [])
    (allInClass : ∀ character ∈ taken, inClass character = true) (within : taken.length ≤ limit)
    (ends : ∀ character ∈ rest.head?, inClass character = false) :
    (greedy inClass limit (taken ++ rest)).head? = some (taken, rest) := by
  have nothingMore : rest.takeWhile inClass = [] := by
    cases rest with
    | nil => rfl
    | cons character rest =>
        rw [List.takeWhile_cons, ends character rfl]
        rfl
  have run : (taken ++ rest).takeWhile inClass = taken := by
    rw [List.takeWhile_append_of_pos allInClass, nothingMore, List.append_nil]
  obtain ⟨size, isSize⟩ : ∃ size, taken.length = size + 1 :=
    Nat.exists_eq_succ_of_ne_zero (List.length_pos_iff.mpr nonempty).ne'
  have whole : (taken ++ rest).splitAt (1 + size) = (taken, rest) := by
    rw [List.splitAt_eq, Nat.add_comm, ← isSize, List.take_left, List.drop_left]
  rw [greedy, run, Nat.min_eq_left within, isSize, List.range'_1_concat, List.reverse_append]
  exact congrArg some whole

end QuAIA.Library.Pattern
