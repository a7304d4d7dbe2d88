import QuAIA.Library.Windows

/-!
Contract: the texts that the prompt guard classifies.

Owns: the division of a long prompt into decoded windows of its tokens; the removal of a
redundant last chunk; the verdict over the classified chunks; and what the chunks cover of the
prompt.

Does not own: the tokenizer and the classifier, which are arguments. Of decoding only that the
text is a function of the tokens is used.
-/

set_option autoImplicit false

namespace QuAIA.Services.PromptGuard

open QuAIA.Library

abbrev Text := List Char

def slidingWindowSize : Nat := 128

def maxTokenLength : Nat := 512

universe u v

variable {τ : Type u} {σ : Type v}

/-- The places where `_split_prompt_into_chunks` starts a window. -/
def windowStarts (tokens : List τ) : List Nat :=
  Windows.starts (maxTokenLength - slidingWindowSize) tokens.length

def windowAt (tokens : List τ) (start : Nat) : List τ :=
  Windows.windowAt maxTokenLength tokens start

/-- The last chunk goes if its text is in the chunk before it. -/
def popRedundant (chunks : List Text) : List Text :=
  match chunks.getLast?, chunks.dropLast.getLast? with
  | some last, some previous => if last <:+: previous then chunks.dropLast else chunks
  | _, _ => chunks

def splitPromptIntoChunks (decode : List τ → Text) (tokens : List τ) : List Text :=
  popRedundant ((windowStarts tokens).map fun start => decode (windowAt tokens start))

/-- The entries of a classifier's answer that the guard reads. -/
structure Classification (σ : Type v) where
  label : Option String
  score : Option σ

/-- The chunks that are handed to the classifier. -/
def classifiedChunks (encode : Text → List τ) (decode : List τ → Text)
    (promptText promptDescription : Text) : List Text :=
  let tokens := encode promptText
  let chunks :=
    if tokens.length ≤ maxTokenLength then [promptText] else splitPromptIntoChunks decode tokens
  if promptDescription = [] then chunks else chunks.map (promptDescription ++ ·)

/-- The label is not the safe one and the score reaches the threshold. -/
def Classification.positive [Zero σ] [LE σ] [DecidableLE σ] (threshold : σ)
    (result : Classification σ) : Bool :=
  (result.label.getD "").toLower ≠ "safe" ∧ threshold ≤ result.score.getD 0

def isInjection [Zero σ] [LE σ] [DecidableLE σ] (encode : Text → List τ)
    (decode : List τ → Text) (classifier : List Text → List (Classification σ))
    (promptText promptDescription : Text) (threshold : σ) : Bool :=
  let chunks := classifiedChunks encode decode promptText promptDescription
  (chunks.zip (classifier chunks)).any fun classified => classified.2.positive threshold

/-! ## Coverage -/

theorem infix_popRedundant {chunks : List Text} {chunk : Text} (member : chunk ∈ chunks) :
    ∃ kept ∈ popRedundant chunks, chunk <:+: kept := by
  unfold popRedundant
  split
  · rename_i last previous isLast isPrevious
    split
    · rename_i redundant
      obtain ⟨others, rfl⟩ := List.getLast?_eq_some_iff.mp isLast
      rw [List.dropLast_concat] at isPrevious ⊢
      rcases List.mem_append.mp member with other | only
      · exact ⟨chunk, other, List.infix_rfl⟩
      · rw [List.mem_singleton.mp only]
        exact ⟨previous, List.mem_of_getLast? isPrevious, redundant⟩
    · exact ⟨chunk, member, List.infix_rfl⟩
  · exact ⟨chunk, member, List.infix_rfl⟩

theorem infix_splitPromptIntoChunks (decode : List τ → Text) {tokens : List τ} {start : Nat}
    (isStart : start ∈ windowStarts tokens) :
    ∃ chunk ∈ splitPromptIntoChunks decode tokens, decode (windowAt tokens start) <:+: chunk :=
  infix_popRedundant (List.mem_map.mpr ⟨start, isStart, rfl⟩)

/-- **Coverage.** Every token of a long prompt is in a window, every run that is one token longer
than the overlap is inside a window, no window exceeds the classifier's length, and the text of
every window is in a chunk. -/
theorem splitPromptIntoChunks_covers {tokens : List τ} (long : maxTokenLength < tokens.length)
    (decode : List τ → Text) :
    (∀ place token, tokens[place]? = some token →
      ∃ start ∈ windowStarts tokens, start ≤ place ∧
        (windowAt tokens start)[place - start]? = some token) ∧
    (∀ before run after, tokens = before ++ run ++ after → run.length ≤ 129 →
      ∃ start ∈ windowStarts tokens, ∃ left right,
        windowAt tokens start = left ++ run ++ right ∧ before = tokens.take start ++ left) ∧
    (∀ start ∈ windowStarts tokens, (windowAt tokens start).length ≤ 512) ∧
    (∀ start ∈ windowStarts tokens, ∃ chunk ∈ splitPromptIntoChunks decode tokens,
      decode (windowAt tokens start) <:+: chunk) := by
  have positive : 0 < maxTokenLength - slidingWindowSize := by decide
  have overlapping : maxTokenLength - slidingWindowSize ≤ maxTokenLength := by decide
  refine ⟨?_, ?_, ?_, ?_⟩
  · intro place token found
    obtain ⟨inside, -⟩ := List.getElem?_eq_some_iff.mp found
    obtain ⟨start, isStart, before, near⟩ := Windows.exists_start_near positive inside
    refine ⟨start, isStart, before, ?_⟩
    rw [windowAt, Windows.getElem?_windowAt tokens before (by omega), found]
  · intro before run after split atMost
    have nonempty : tokens ≠ [] := by
      rintro rfl
      exact Nat.not_lt_zero maxTokenLength long
    have short : run.length + (maxTokenLength - slidingWindowSize) ≤ maxTokenLength + 1 := by
      rw [maxTokenLength, slidingWindowSize]
      omega
    exact Windows.exists_window_of_run positive overlapping split nonempty short
  · intro start _
    exact Windows.length_windowAt_le tokens start
  · intro start isStart
    exact infix_splitPromptIntoChunks decode isStart

/-- Three windows of a tokenizer that has one token for each character. -/
theorem splitPromptIntoChunks_covers_replicate :
    maxTokenLength < (List.replicate 769 97).length ∧
      ∃ chunk ∈ splitPromptIntoChunks (List.map Char.ofNat) (List.replicate 769 97),
        (windowAt (List.replicate 769 97) 768).map Char.ofNat <:+: chunk := by
  have long : maxTokenLength < (List.replicate 769 97).length := by
    rw [List.length_replicate]
    decide
  have isStart : 768 ∈ windowStarts (List.replicate 769 97) := by
    rw [windowStarts, Windows.mem_starts (by decide), List.length_replicate]
    decide
  obtain ⟨-, -, -, inChunk⟩ := splitPromptIntoChunks_covers long (List.map Char.ofNat)
  exact ⟨long, inChunk 768 isStart⟩

/-! ## The verdict -/

/-- The text of every window of a long prompt is in a chunk that is classified. -/
theorem infix_classifiedChunks {encode : Text → List τ} (decode : List τ → Text)
    {promptText : Text} (promptDescription : Text)
    (long : maxTokenLength < (encode promptText).length) {start : Nat}
    (isStart : start ∈ windowStarts (encode promptText)) :
    ∃ chunk ∈ classifiedChunks encode decode promptText promptDescription,
      decode (windowAt (encode promptText) start) <:+: chunk := by
  obtain ⟨chunk, member, within⟩ := infix_splitPromptIntoChunks decode isStart
  simp only [classifiedChunks, if_neg (Nat.not_le.mpr long)]
  split
  · exact ⟨chunk, member, within⟩
  · refine ⟨promptDescription ++ chunk, List.mem_map.mpr ⟨chunk, member, rfl⟩, ?_⟩
    exact within.trans (List.suffix_append promptDescription chunk).isInfix

/-- A classifier that answers each chunk for itself rejects a prompt exactly for one of its
chunks. -/
theorem isInjection_iff [Zero σ] [LE σ] [DecidableLE σ] (encode : Text → List τ)
    (decode : List τ → Text) (classify : Text → Classification σ)
    (promptText promptDescription : Text) (threshold : σ) :
    isInjection encode decode (List.map classify) promptText promptDescription threshold = true ↔
      ∃ chunk ∈ classifiedChunks encode decode promptText promptDescription,
        (classify chunk).positive threshold = true := by
  simp only [isInjection, List.zip, List.zipWith_map_right, List.zipWith_self, List.any_map,
    List.any_eq_true, Function.comp_apply]

end QuAIA.Services.PromptGuard
