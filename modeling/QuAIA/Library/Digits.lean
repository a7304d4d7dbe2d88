import Mathlib.Algebra.Group.Nat.Defs
import Mathlib.Data.List.Basic

/-!
Contract: numbers in decimal digits, with zeros in front.

Owns: the digits of a number up to a width, their reading, and the reading of a field of fixed
width in front of a mark.

Does not own: signs, fractions and digits of other scripts.
-/

set_option autoImplicit false

namespace QuAIA.Library.Digits

/-- The digits of a number, with zeros in front up to a width. -/
def padded (width value : Nat) : List Char :=
  List.replicate (width - (Nat.toDigits 10 value).length) '0' ++ Nat.toDigits 10 value

/-- The number that is spelled by digits, if there are digits and nothing else. -/
def read (digits : List Char) : Option Nat :=
  if digits.isEmpty || !digits.all Char.isDigit then none
  else some (Nat.ofDigitChars 10 digits 0)

/-- A number of as many digits in front of a mark, and what is left. -/
def readField (width : Nat) (mark : Char) (text : List Char) : Option (Nat × List Char) :=
  match read (text.take width), text.drop width with
  | some value, character :: rest => if character = mark then some (value, rest) else none
  | _, _ => none

theorem isDigit_of_mem_padded {width value : Nat} {character : Char}
    (member : character ∈ padded width value) : character.isDigit = true := by
  rcases List.mem_append.mp member with isZero | isDigit
  · rw [(List.mem_replicate.mp isZero).2]
    rfl
  · exact Nat.isDigit_of_mem_toDigits (by decide) (by decide) isDigit

theorem padded_ne_nil (width value : Nat) : padded width value ≠ [] :=
  List.append_ne_nil_of_right_ne_nil _ Nat.toDigits_ne_nil

theorem exists_padded_eq_cons (width value : Nat) :
    ∃ first others, padded width value = first :: others ∧ first.isDigit = true := by
  obtain ⟨first, others, digits⟩ := List.exists_cons_of_ne_nil (padded_ne_nil width value)
  have member : first ∈ padded width value := digits ▸ List.mem_cons_self
  exact ⟨first, others, digits, isDigit_of_mem_padded member⟩

theorem length_padded {width value : Nat} (positive : 0 < width) (fits : value < 10 ^ width) :
    (padded width value).length = width := by
  have short := (Nat.length_toDigits_le_iff (by decide) positive).mpr fits
  rw [padded, List.length_append, List.length_replicate, Nat.sub_add_cancel short]

@[simp] theorem read_padded (width value : Nat) : read (padded width value) = some value := by
  have onlyDigits : (padded width value).all Char.isDigit = true :=
    List.all_eq_true.mpr fun _ => isDigit_of_mem_padded
  have spelled : Nat.ofDigitChars 10 (padded width value) 0 = value := by
    rw [padded, Nat.ofDigitChars_append, Nat.ofDigitChars_replicate_zero, Nat.mul_zero,
      Nat.ofDigitChars_ten_toDigits]
  rw [read, onlyDigits, spelled, if_neg (by simpa using padded_ne_nil width value)]

/-- A field is read as the number that was written into it. -/
theorem readField_padded {width value : Nat} (positive : 0 < width) (fits : value < 10 ^ width)
    (mark : Char) (rest : List Char) :
    readField width mark (padded width value ++ mark :: rest) = some (value, rest) := by
  have isWidth := length_padded positive fits
  rw [readField, List.take_left' isWidth, List.drop_left' isWidth, read_padded]
  exact if_pos rfl

end QuAIA.Library.Digits
