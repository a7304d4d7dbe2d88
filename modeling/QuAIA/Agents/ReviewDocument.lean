import QuAIA.Agents.TestCaseReview
import QuAIA.Library.Substring

/-!
Contract: how the review agent takes the requirement document out of the message that asks
for a review (`_extract_doc_content_from_text`).

Owns: the function, and for which documents it returns the document that was sent.

Does not own: the message itself, which is that of the test cases.
-/

set_option autoImplicit false

namespace QuAIA.Agents

open QuAIA.Common
open QuAIA.Library

/-! ## The code -/

/-- `marker`. -/
def documentMarker : List Char := "Requirement document content:\n".toList

/-- `_extract_doc_content_from_text`. The marker of the test cases, `tc_marker`, is the
separator of the message. -/
def extractDocContentFromText (text : String) : String :=
  match Substring.cut documentMarker text.toList with
  | none => text
  | some (_, content) =>
      match Substring.cut separator content with
      | none => String.ofList content
      | some (docContent, _) => String.ofList docContent

/-! ## The document that was sent -/

theorem documentMarker_ne_nil : documentMarker ≠ [] := by decide

theorem separator_ne_nil : separator ≠ [] := by decide

/-- Only the last line feed of the separator can begin another one. -/
theorem eq_newline_of_border {first last : List Char} (parted : separator = first ++ last)
    (firstNonempty : first ≠ []) (lastNonempty : last ≠ [])
    (begins : last <+: separator.dropLast) : last = ['\n'] := by
  have borders : ∀ size < separator.length, 0 < size →
      separator.drop size <+: separator.dropLast → separator.drop size = ['\n'] := by decide
  have lengths := congrArg List.length parted
  have firstPositive := List.length_pos_of_ne_nil firstNonempty
  have lastPositive := List.length_pos_of_ne_nil lastNonempty
  rw [List.length_append] at lengths
  have dropped : separator.drop first.length = last := by
    rw [parted]
    exact List.drop_left
  have border := borders first.length (by omega) firstPositive
  rw [dropped] at border
  exact border begins

/-- The separator begins in a document exactly when it stands in the document with the line
feed that follows. -/
theorem separator_begins_iff (docContent : List Char) :
    separator <:+: docContent ++ separator.dropLast ↔ separator <:+: docContent ++ ['\n'] := by
  constructor
  · intro begins
    rcases List.infix_append_iff_ne_nil.mp begins with inside | behind |
      ⟨first, last, firstNonempty, lastNonempty, parted, ends, starts⟩
    · exact List.infix_append_of_infix_left inside
    · have lengths := behind.length_le
      have positive := List.length_pos_of_ne_nil separator_ne_nil
      rw [List.length_dropLast] at lengths
      omega
    · have isNewline := eq_newline_of_border parted firstNonempty lastNonempty starts
      rw [parted, isNewline]
      obtain ⟨before, rfl⟩ := ends
      rw [List.append_assoc]
      exact List.infix_append_right
  · intro inside
    have newline : ['\n'] <+: separator.dropLast := by decide
    have extended : docContent ++ ['\n'] <+: docContent ++ separator.dropLast :=
      (List.prefix_append_right_inj docContent).mpr newline
    exact inside.trans extended.isInfix

theorem extractDocContent_message (docContent : String) (testCases : List TestCase) :
    extractDocContentFromText (reviewMessage docContent testCases) =
      match Substring.cut separator (docContent.toList ++ (separator ++ encoded testCases)) with
      | none => String.ofList (docContent.toList ++ (separator ++ encoded testCases))
      | some (found, _) => String.ofList found := by
  have message : (reviewMessage docContent testCases).toList =
      documentMarker ++ (docContent.toList ++ (separator ++ encoded testCases)) :=
    reviewMessage_toList docContent testCases
  rw [extractDocContentFromText, message, Substring.cut_append_self documentMarker_ne_nil]

/-- **The document comes back** exactly when the line `Test cases:` does not stand in it after
an empty line. -/
theorem extractDocContent_eq_iff (docContent : String) (testCases : List TestCase) :
    extractDocContentFromText (reviewMessage docContent testCases) = docContent ↔
      ¬ separator <:+: docContent.toList ++ ['\n'] := by
  rw [extractDocContent_message, ← separator_begins_iff,
    ← Substring.cut_append_iff separator_ne_nil docContent.toList (encoded testCases)]
  have stands : separator <:+: docContent.toList ++ (separator ++ encoded testCases) :=
    List.infix_append' docContent.toList separator (encoded testCases)
  cases cuts : Substring.cut separator
      (docContent.toList ++ (separator ++ encoded testCases)) with
  | none => exact absurd stands ((Substring.cut_eq_none_iff separator_ne_nil).mp cuts)
  | some parts =>
      obtain ⟨found, rest⟩ := parts
      have parted := Substring.cut_eq_some cuts
      dsimp only
      rw [Option.some.injEq, Prod.mk.injEq]
      constructor
      · intro same
        have sameList : found = docContent.toList := by
          rw [← same, String.toList_ofList]
        refine ⟨sameList, ?_⟩
        rw [sameList, List.append_cancel_left_eq, List.append_cancel_left_eq] at parted
        exact parted.symm
      · rintro ⟨same, -⟩
        rw [same, String.ofList_toList]

/-- A document with a chapter on its test cases is cut there. -/
theorem document_cut :
    extractDocContentFromText (reviewMessage "Login\n\nTest cases:\nnone yet" []) = "Login" ∧
      "Login" ≠ "Login\n\nTest cases:\nnone yet" := by
  have parted : "Login\n\nTest cases:\nnone yet".toList =
      "Login".toList ++ (separator ++ "none yet".toList) := by decide
  have absent : ¬ separator <:+: "Login".toList ++ separator.dropLast := by decide
  refine ⟨?_, by decide⟩
  rw [extractDocContent_message, parted, List.append_assoc, List.append_assoc,
    (Substring.cut_append_iff separator_ne_nil _ _).mpr absent]
  exact String.ofList_toList

end QuAIA.Agents
