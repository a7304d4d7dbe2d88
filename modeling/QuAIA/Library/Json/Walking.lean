import Mathlib.Algebra.Group.Nat.Defs
import QuAIA.Library.Fallible
import QuAIA.Library.Json

/-!
Contract: JSON values that Python code walks without a look at their shape.

Owns: truth values, `value or other`, `value.get(name)` and iteration, with what they raise on a
value of another type; and when a search through the items of a value ends, and with a find.

Does not own: the texts of the exceptions.
-/

set_option autoImplicit false

namespace QuAIA.Library.Json

open Fallible

/-- What an operation raises that the type of a value does not have. -/
inductive Misuse where
  | attributeError
  | typeError
deriving DecidableEq, Repr

/-! ## Truth values -/

/-- A number without its sign: the digits before and after the point, and the exponent. -/
structure Decimal where
  whole : List Char
  fraction : List Char
  exponent : Int
  isFloat : Bool

def readExponent : List Char → Int
  | _ :: '-' :: digits => -(Nat.ofDigitChars 10 digits 0 : Int)
  | _ :: '+' :: digits => Nat.ofDigitChars 10 digits 0
  | _ :: digits => Nat.ofDigitChars 10 digits 0
  | [] => 0

def readDecimal (text : List Char) : Decimal :=
  let unsigned := match text with
    | '-' :: rest => rest
    | rest => rest
  let rest := unsigned.dropWhile Char.isDigit
  let (fraction, exponent) := match rest with
    | '.' :: after => (after.takeWhile Char.isDigit, after.dropWhile Char.isDigit)
    | rest => ([], rest)
  ⟨unsigned.takeWhile Char.isDigit, fraction, readExponent exponent, !rest.isEmpty⟩

/-- A number that is read as zero. A float is rounded to the nearest one, and half of the
least float is rounded to zero. `NaN` and `Infinity` have no digits. -/
def isZero (text : List Char) : Bool :=
  let decimal := readDecimal text
  let significand := Nat.ofDigitChars 10 (decimal.whole ++ decimal.fraction) 0
  let scale := decimal.exponent - decimal.fraction.length
  if decimal.whole.isEmpty then false
  else if decimal.isFloat then
    significand * 10 ^ scale.toNat * 2 ^ 1075 ≤ 10 ^ (-scale).toNat
  else significand == 0

def truthy : Json → Bool
  | .null => false
  | .bool value => value
  | .number text => !isZero text
  | .string points => !points.isEmpty
  | .array items => !items.isEmpty
  | .object fields => !fields.isEmpty

example : truthy (.number ['-', '0', '.', '0', 'e', '5']) = false := by decide +kernel

/-- `value or other`. -/
def or (value other : Json) : Json := if value.truthy then value else other

/-! ## Access -/

def isObject : Json → Bool
  | .object _ => true
  | _ => false

/-- `value == text`. -/
def isText (text : String) : Json → Bool
  | .string points => points == pointsOf text
  | _ => false

/-- The value of a key, and `None` of what has no such key. -/
def entry (name : String) (value : Json) : Json := (value.field? (pointsOf name)).getD .null

/-- `value.get(name)`. -/
def get (name : String) (value : Json) : Except Misuse Json :=
  if value.isObject then .ok (value.entry name) else .error .attributeError

/-- The items that `for` takes from a value: the keys of an object, and the characters of a
string. -/
def iterate : Json → Except Misuse (List Json)
  | .array items => .ok items
  | .object fields => .ok ((fields.map Prod.fst).eraseDups.map .string)
  | .string points => .ok (points.map fun point => .string [point])
  | _ => .error .typeError

/-- The items of an array, and nothing of another value. -/
def itemsOf (value : Json) : List Json := value.items?.getD []

/-- What follows an access ends in a value only for an object. -/
theorem get_bind_eq_ok_iff {γ : Type} {name : String} {value : Json}
    {next : Json → Except Misuse γ} {result : γ} :
    value.get name >>= next = .ok result ↔
      value.isObject = true ∧ next (value.entry name) = .ok result := by
  unfold get
  split
  · exact ⟨fun ended => ⟨‹_›, ended⟩, fun ended => ended.2⟩
  · exact ⟨fun ended => (by cases ended), fun ended => absurd ended.1 ‹_›⟩

theorem or_truthy {value other : Json} (isTrue : value.truthy = true) : value.or other = value :=
  if_pos isTrue

theorem or_falsy {value other : Json} (isFalse : value.truthy = false) : value.or other = other :=
  if_neg (by rw [isFalse]; exact Bool.false_ne_true)

theorem itemsOf_of_falsy {value : Json} (isFalse : value.truthy = false) : value.itemsOf = [] := by
  cases value with
  | array items => simpa [truthy, itemsOf, items?] using isFalse
  | _ => rfl

/-- What is neither an array nor false is not iterated over, or it has a string in front. -/
theorem iterate_of_truthy {value : Json} (isTrue : value.truthy = true)
    (notArray : ∀ items, value ≠ .array items) :
    (∃ raised, value.iterate = .error raised) ∨
      ∃ points items, value.iterate = .ok (.string points :: items) := by
  cases value with
  | array items => exact absurd rfl (notArray items)
  | null => cases isTrue
  | bool value => exact .inl ⟨_, rfl⟩
  | number text => exact .inl ⟨_, rfl⟩
  | string points =>
      cases points with
      | nil => cases isTrue
      | cons point points => exact .inr ⟨_, _, rfl⟩
  | object fields =>
      cases fields with
      | nil => cases isTrue
      | cons field fields =>
          refine .inr ⟨field.1, ?_, ?_⟩
          · exact ((fields.map Prod.fst).filter fun key => !key == field.1).eraseDups.map .string
          · rw [iterate, List.map_cons, List.eraseDups_cons, List.map_cons]

/-! ## Searches -/

section Searches

variable {β : Type} {visit : Json → Except Misuse (Option β)} {readable found : Json → Prop}

/-- `for item in value or []:` up to the first item with a find. -/
def search (visit : Json → Except Misuse (Option β)) (value : Json) :
    Except Misuse (Option β) := do
  (← (value.or (.array [])).iterate).findSomeM? visit

/-- A value that a search can go through: nothing, or an array in which the items up to the
first find are readable. -/
def ReadableItems (found readable : Json → Prop) (value : Json) : Prop :=
  value.truthy = false ∨ ∃ items, value = .array items ∧ UpToFirst found readable items

/-- A find of the search is the find of a visit. -/
theorem exists_visit_of_search {value : Json} {result : β}
    (found : search visit value = .ok (some result)) :
    ∃ item, visit item = .ok (some result) := by
  obtain ⟨items, -, searched⟩ := bind_eq_ok_iff.mp found
  obtain ⟨item, -, visited⟩ := exists_visit_of_findSomeM? searched
  exact ⟨item, visited⟩

theorem search_of_falsy {value : Json} (isFalse : value.truthy = false) :
    search visit value = .ok none := by
  rw [search, or_falsy isFalse]
  rfl

theorem search_array {items : List Json} :
    search visit (.array items) = items.findSomeM? visit := by
  cases items with
  | nil => rfl
  | cons item items => rw [search, or_truthy rfl]; rfl

/-- A search through what is neither an array nor false raises, if the visit does on a string. -/
theorem search_of_truthy {value : Json} (isTrue : value.truthy = true)
    (notArray : ∀ items, value ≠ .array items)
    (onString : ∀ points result, visit (.string points) ≠ .ok result)
    (result : Option β) : search visit value ≠ .ok result := by
  intro ended
  rw [search, or_truthy isTrue] at ended
  obtain ⟨items, iterated, searched⟩ := bind_eq_ok_iff.mp ended
  rcases iterate_of_truthy isTrue notArray with ⟨raised, raises⟩ | ⟨points, rest, isItems⟩
  · rw [raises] at iterated
    cases iterated
  · obtain rfl : _ = items := Except.ok.inj (isItems.symm.trans iterated)
    rcases findSomeM?_cons_eq_ok_iff.mp searched with ⟨value, visited, -⟩ | ⟨visited, -⟩
    · exact onString points _ visited
    · exact onString points _ visited

/-- What a search can go through. -/
theorem search_cases (visits : Visits visit readable found)
    (onString : ∀ points, ¬readable (.string points)) (value : Json) :
    (value.truthy = false ∧ search visit value = .ok none ∧ value.itemsOf = []) ∨
      (∃ items, value = .array items ∧ search visit value = items.findSomeM? visit) ∨
      (value.truthy = true ∧ (∀ items, value ≠ .array items) ∧
        ∀ result, search visit value ≠ .ok result) := by
  by_cases isArray : ∃ items, value = .array items
  · obtain ⟨items, rfl⟩ := isArray
    exact .inr (.inl ⟨items, rfl, search_array⟩)
  · have notArray : ∀ items, value ≠ .array items := fun items same => isArray ⟨items, same⟩
    cases isTruthy : value.truthy with
    | false => exact .inl ⟨rfl, search_of_falsy isTruthy, itemsOf_of_falsy isTruthy⟩
    | true =>
        refine .inr (.inr ⟨rfl, notArray, search_of_truthy isTruthy notArray ?_⟩)
        exact fun points other visited => onString points ((visits.ends _).mp ⟨other, visited⟩)

/-- A search through a value ends when its items can be read up to the first find. -/
theorem search_visits (visits : Visits visit readable found)
    (onString : ∀ points, ¬readable (.string points)) :
    Visits (search visit) (ReadableItems found readable)
      (fun value => ∃ item ∈ value.itemsOf, found item) where
  ends value := by
    rcases search_cases visits onString value with
      ⟨isFalse, ended, -⟩ | ⟨items, rfl, isSearch⟩ | ⟨isTrue, notArray, raises⟩
    · exact ⟨fun _ => .inl isFalse, fun _ => ⟨none, ended⟩⟩
    · rw [isSearch, visits.findSomeM?.ends items]
      constructor
      · exact fun upTo => .inr ⟨items, rfl, upTo⟩
      · rintro (isFalse | ⟨others, same, upTo⟩)
        · cases items with
          | nil => exact trivial
          | cons item items => cases isFalse
        · cases same
          exact upTo
    · constructor
      · exact fun ⟨result, ended⟩ => absurd ended (raises result)
      · rintro (isFalse | ⟨items, same, -⟩)
        · rw [isTrue] at isFalse
          cases isFalse
        · exact absurd same (notArray items)
  finds value result ended := by
    rcases search_cases visits onString value with
      ⟨-, isNone, noItems⟩ | ⟨items, rfl, isSearch⟩ | ⟨-, -, raises⟩
    · obtain rfl : none = result := Except.ok.inj (isNone.symm.trans ended)
      simp [noItems]
    · exact visits.findSomeM?.finds items result (isSearch ▸ ended)
    · exact absurd ended (raises result)

end Searches

end QuAIA.Library.Json
