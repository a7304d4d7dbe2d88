import Mathlib.Data.List.Infix

/-!
Contract: finding, splitting at and replacing a separator of several characters.

Owns: the cut at the first place where a separator stands, the pieces between separators,
the replacement of a separator, when each of them is undone, and that `String.replace` is
the replacement modelled here.

A separator is never empty. Places are taken from the left and do not overlap.
-/

set_option autoImplicit false

namespace QuAIA.Library.Substring

universe u

variable {α : Type u}

section Definitions

variable [DecidableEq α]

/-- What stands before and behind the first place of the separator. -/
def cut (separator : List α) : List α → Option (List α × List α)
  | [] => if separator = [] then some ([], []) else none
  | item :: rest =>
      if separator <+: item :: rest then some ([], (item :: rest).drop separator.length)
      else (cut separator rest).map fun parts => (item :: parts.1, parts.2)

/-- The pieces after as many items as still belong to the last separator. -/
def splitFrom (separator : List α) : Nat → List α → List (List α)
  | _, [] => [[]]
  | skip + 1, _ :: rest => splitFrom separator skip rest
  | 0, item :: rest =>
      if separator <+: item :: rest then [] :: splitFrom separator (separator.length - 1) rest
      else (splitFrom separator 0 rest).modifyHead (item :: ·)

def splitOn (separator items : List α) : List (List α) := splitFrom separator 0 items

def replace (old new items : List α) : List α := new.intercalate (splitOn old items)

end Definitions

/-! ## The cut -/

section Cut

variable {separator items before after : List α}

/-- A separator that starts in a part stands in the part and all but the last item of what
follows. -/
theorem prefix_append_iff (nonempty : separator ≠ []) (item : α) (before after : List α) :
    separator <+: item :: before ++ (separator ++ after) ↔
      separator <+: item :: before ++ separator.dropLast := by
  have shorter : item :: before ++ separator.dropLast <+:
      item :: before ++ (separator ++ after) := by
    rw [List.prefix_append_right_inj]
    exact (List.dropLast_prefix separator).trans (List.prefix_append separator after)
  have room : separator.length ≤ (item :: before ++ separator.dropLast).length := by
    have positive := List.length_pos_of_ne_nil nonempty
    simp only [List.length_append, List.length_cons, List.length_dropLast]
    omega
  constructor
  · intro starts
    exact List.prefix_of_prefix_length_le starts shorter room
  · intro starts
    exact starts.trans shorter

variable [DecidableEq α]

/-- **The first place.** A text is cut around a separator exactly when the separator does not
already begin before it. -/
theorem cut_append_iff (nonempty : separator ≠ []) (before after : List α) :
    cut separator (before ++ (separator ++ after)) = some (before, after) ↔
      ¬ separator <:+: before ++ separator.dropLast := by
  induction before with
  | nil =>
      obtain ⟨first, others, rfl⟩ := List.exists_cons_of_ne_nil nonempty
      have absent : ¬ first :: others <:+: (first :: others).dropLast := by
        intro inside
        have lengths := inside.length_le
        simp only [List.length_dropLast, List.length_cons] at lengths
        omega
      have starts : first :: others <+: first :: (others ++ after) := List.prefix_append _ after
      simp only [List.nil_append, List.cons_append, absent, not_false_iff, iff_true]
      rw [cut, if_pos starts]
      simp
  | cons item before inductionHypothesis =>
      have same := prefix_append_iff nonempty item before after
      rw [List.cons_append, List.cons_append] at same
      rw [List.cons_append, List.cons_append, List.infix_cons_iff, not_or, cut,
        ← inductionHypothesis, ← same]
      split
      · rename_i starts
        simp [starts]
      · rename_i elsewhere
        cases cut separator (before ++ (separator ++ after)) with
        | none => simp
        | some parts => simp [elsewhere, Prod.ext_iff]

theorem cut_append_self (nonempty : separator ≠ []) (after : List α) :
    cut separator (separator ++ after) = some ([], after) := by
  apply (cut_append_iff nonempty [] after).mpr
  intro inside
  have lengths := inside.length_le
  have positive := List.length_pos_of_ne_nil nonempty
  rw [List.nil_append, List.length_dropLast] at lengths
  omega

theorem cut_eq_none_iff (nonempty : separator ≠ []) :
    cut separator items = none ↔ ¬ separator <:+: items := by
  induction items with
  | nil => simp [cut, nonempty]
  | cons item rest inductionHypothesis =>
      rw [cut, List.infix_cons_iff, not_or, ← inductionHypothesis]
      by_cases starts : separator <+: item :: rest
      · simp [starts]
      · simp [starts]

theorem cut_eq_some (cuts : cut separator items = some (before, after)) :
    items = before ++ (separator ++ after) := by
  induction items generalizing before with
  | nil =>
      rw [cut] at cuts
      split at cuts
      · rename_i empty
        cases cuts
        rw [empty]
        rfl
      · cases cuts
  | cons item rest inductionHypothesis =>
      rw [cut] at cuts
      split at cuts
      · rename_i starts
        cases cuts
        exact (List.prefix_iff_eq_append.mp starts).symm
      · obtain ⟨parts, later, same⟩ := Option.map_eq_some_iff.mp cuts
        cases same
        rw [List.cons_append, ← inductionHypothesis later]

end Cut

/-! ## The pieces -/

section Split

variable [DecidableEq α] {separator items before after : List α}

theorem splitFrom_eq_drop (skip : Nat) (items : List α) :
    splitFrom separator skip items = splitFrom separator 0 (items.drop skip) := by
  induction skip generalizing items with
  | zero => rfl
  | succ skip inductionHypothesis =>
      cases items with
      | nil => simp [splitFrom]
      | cons item rest => exact inductionHypothesis rest

theorem splitOn_of_cut_none (uncut : cut separator items = none) :
    splitOn separator items = [items] := by
  induction items with
  | nil => rfl
  | cons item rest inductionHypothesis =>
      rw [cut] at uncut
      split at uncut
      · cases uncut
      · rename_i elsewhere
        have later := inductionHypothesis (Option.map_eq_none_iff.mp uncut)
        rw [splitOn] at later
        rw [splitOn, splitFrom, if_neg elsewhere, later]
        rfl

theorem splitOn_of_cut_some (nonempty : separator ≠ [])
    (cuts : cut separator items = some (before, after)) :
    splitOn separator items = before :: splitOn separator after := by
  induction items generalizing before with
  | nil =>
      rw [cut, if_neg nonempty] at cuts
      cases cuts
  | cons item rest inductionHypothesis =>
      rw [cut] at cuts
      split at cuts
      · rename_i starts
        cases cuts
        obtain ⟨first, others, rfl⟩ := List.exists_cons_of_ne_nil nonempty
        rw [splitOn, splitFrom, if_pos starts, splitFrom_eq_drop]
        rfl
      · rename_i elsewhere
        obtain ⟨⟨start, behind⟩, later, same⟩ := Option.map_eq_some_iff.mp cuts
        cases same
        have pieces := inductionHypothesis later
        rw [splitOn] at pieces
        rw [splitOn, splitFrom, if_neg elsewhere, pieces]
        rfl

/-- Induction on the pieces of a text. -/
theorem splitOn_induction (nonempty : separator ≠ []) {motive : List α → Prop}
    (whole : ∀ items, cut separator items = none → motive items)
    (piece : ∀ items before after, cut separator items = some (before, after) →
      motive after → motive items) (items : List α) : motive items := by
  induction length : items.length using Nat.strong_induction_on generalizing items with
  | _ size inductionHypothesis =>
      cases cuts : cut separator items with
      | none => exact whole items cuts
      | some parts =>
          obtain ⟨before, after⟩ := parts
          have parted := congrArg List.length (cut_eq_some cuts)
          have positive := List.length_pos_of_ne_nil nonempty
          simp only [List.length_append] at parted
          exact piece items before after cuts
            (inductionHypothesis after.length (by omega) after rfl)

theorem splitOn_ne_nil (nonempty : separator ≠ []) (items : List α) :
    splitOn separator items ≠ [] := by
  cases cuts : cut separator items with
  | none => simp [splitOn_of_cut_none cuts]
  | some parts => simp [splitOn_of_cut_some nonempty cuts]

/-- The pieces with the separators between them are the text. -/
theorem intercalate_splitOn (nonempty : separator ≠ []) (items : List α) :
    separator.intercalate (splitOn separator items) = items := by
  induction items using splitOn_induction nonempty with
  | whole items uncut => rw [splitOn_of_cut_none uncut, List.intercalate_singleton]
  | piece items before after cuts inductionHypothesis =>
      rw [splitOn_of_cut_some nonempty cuts,
        List.intercalate_cons_of_ne_nil (splitOn_ne_nil nonempty after), inductionHypothesis,
        List.append_assoc, ← cut_eq_some cuts]

/-- A piece is part of the text, and no separator stands in it. -/
theorem clean_of_mem_splitOn (nonempty : separator ≠ []) {piece : List α}
    (member : piece ∈ splitOn separator items) : piece <:+: items ∧ ¬ separator <:+: piece := by
  induction items using splitOn_induction nonempty with
  | whole items uncut =>
      rw [splitOn_of_cut_none uncut, List.mem_singleton] at member
      rw [member]
      exact ⟨List.infix_refl items, (cut_eq_none_iff nonempty).mp uncut⟩
  | piece items before after cuts inductionHypothesis =>
      have parted := cut_eq_some cuts
      rw [splitOn_of_cut_some nonempty cuts, List.mem_cons] at member
      rcases member with rfl | later
      · rw [parted] at cuts
        have first := (cut_append_iff nonempty piece after).mp cuts
        refine ⟨parted ▸ List.infix_append_left, fun inside => first ?_⟩
        exact List.infix_append_of_infix_left inside
      · obtain ⟨isPart, isClean⟩ := inductionHypothesis later
        refine ⟨?_, isClean⟩
        rw [parted]
        exact List.infix_append_of_infix_right (List.infix_append_of_infix_right isPart)

end Split

/-! ## Joining and splitting -/

/-- No end of the separator begins it again. -/
def Unbordered (separator : List α) : Prop :=
  ∀ first last, first ≠ [] → last ≠ [] → separator = first ++ last → ¬ last <+: separator

section Join

variable {separator items : List α}

/-- Behind a part, an unbordered separator can only begin anew. -/
theorem Unbordered.infix_dropLast_iff (unbordered : Unbordered separator) (items : List α) :
    separator <:+: items ++ separator.dropLast ↔ separator <:+: items := by
  constructor
  · intro inside
    rcases List.infix_append_iff_ne_nil.mp inside with before | behind |
      ⟨first, last, firstNonempty, lastNonempty, parted, -, starts⟩
    · exact before
    · by_cases empty : separator = []
      · rw [empty]
        exact List.nil_infix
      · have lengths := behind.length_le
        have positive := List.length_pos_of_ne_nil empty
        rw [List.length_dropLast] at lengths
        omega
    · have begins := starts.trans (List.dropLast_prefix separator)
      exact absurd begins (unbordered first last firstNonempty lastNonempty parted)
  · exact List.infix_append_of_infix_left

variable [DecidableEq α]

instance (separator : List α) : Decidable (Unbordered separator) :=
  decidable_of_iff (∀ size < separator.length, 0 < size →
      ¬ separator.drop size <+: separator) <| by
    constructor
    · intro none first last firstNonempty lastNonempty parted
      have lengths := congrArg List.length parted
      have firstPositive := List.length_pos_of_ne_nil firstNonempty
      have lastPositive := List.length_pos_of_ne_nil lastNonempty
      rw [List.length_append] at lengths
      have dropped : separator.drop first.length = last := by
        rw [parted]
        exact List.drop_left
      rw [← dropped]
      exact none first.length (by omega) firstPositive
    · intro unbordered size inside positive
      refine unbordered (separator.take size) _ ?_ ?_ (List.take_append_drop size separator).symm
      · exact List.ne_nil_of_length_pos (by rw [List.length_take]; omega)
      · exact List.ne_nil_of_length_pos (by rw [List.length_drop]; omega)

/-- **Joining is undone** by splitting exactly for pieces that the separator does not stand
in, if there are any. -/
theorem splitOn_intercalate_iff (nonempty : separator ≠ []) (unbordered : Unbordered separator)
    (pieces : List (List α)) :
    splitOn separator (separator.intercalate pieces) = pieces ↔
      pieces ≠ [] ∧ ∀ piece ∈ pieces, ¬ separator <:+: piece := by
  constructor
  · intro same
    constructor
    · intro empty
      rw [empty] at same
      exact splitOn_ne_nil nonempty _ same
    · intro piece member
      rw [← same] at member
      exact (clean_of_mem_splitOn nonempty member).2
  · rintro ⟨some, clean⟩
    induction pieces with
    | nil => exact absurd rfl some
    | cons first rest inductionHypothesis =>
        have isClean := clean first List.mem_cons_self
        by_cases more : rest = []
        · rw [more, List.intercalate_singleton]
          exact splitOn_of_cut_none ((cut_eq_none_iff nonempty).mpr isClean)
        · have later := inductionHypothesis more fun piece member =>
            clean piece (List.mem_cons_of_mem first member)
          have cuts := (cut_append_iff nonempty first (separator.intercalate rest)).mpr
            (mt (unbordered.infix_dropLast_iff first).mp isClean)
          rw [List.intercalate_cons_of_ne_nil more, List.append_assoc,
            splitOn_of_cut_some nonempty cuts, later]

end Join

/-! ## Replacing -/

section Replace

variable {separator : List α} {item : α}

/-- A pattern without an item stands on one side of it. -/
theorem infix_append_cons (absent : item ∉ separator) {left right : List α}
    (inside : separator <:+: left ++ item :: right) :
    separator <:+: left ∨ separator <:+: right := by
  rcases List.infix_append_iff_ne_nil.mp inside with before | behind |
    ⟨first, last, -, lastNonempty, parted, -, starts⟩
  · exact Or.inl before
  · rcases List.infix_cons_iff.mp behind with starts | later
    · cases separator with
      | nil => exact Or.inl List.nil_infix
      | cons other rest =>
          obtain ⟨rfl, -⟩ := List.cons_prefix_cons.mp starts
          exact absurd List.mem_cons_self absent
    · exact Or.inr later
  · obtain ⟨other, rest, rfl⟩ := List.exists_cons_of_ne_nil lastNonempty
    obtain ⟨rfl, -⟩ := List.cons_prefix_cons.mp starts
    rw [parted] at absent
    exact absurd (List.mem_append_right first List.mem_cons_self) absent

/-- Joining pieces with an item makes no pattern that the item is not part of. -/
theorem not_infix_intercalate (nonempty : separator ≠ []) (absent : item ∉ separator)
    {pieces : List (List α)} (clean : ∀ piece ∈ pieces, ¬ separator <:+: piece) :
    ¬ separator <:+: [item].intercalate pieces := by
  induction pieces with
  | nil =>
      rw [List.intercalate_nil, List.infix_nil]
      exact nonempty
  | cons first rest inductionHypothesis =>
      have isClean := clean first List.mem_cons_self
      by_cases more : rest = []
      · rw [more, List.intercalate_singleton]
        exact isClean
      · intro inside
        rw [List.intercalate_cons_of_ne_nil more, List.append_assoc] at inside
        rcases infix_append_cons absent inside with before | behind
        · exact isClean before
        · exact inductionHypothesis
            (fun piece member => clean piece (List.mem_cons_of_mem first member)) behind

theorem filter_intercalate {keep : α → Bool} (kept : ∀ other ∈ separator, keep other = true)
    (pieces : List (List α)) :
    (separator.intercalate pieces).filter keep =
      separator.intercalate (pieces.map fun piece => piece.filter keep) := by
  induction pieces with
  | nil => rfl
  | cons first rest inductionHypothesis =>
      by_cases more : rest = []
      · rw [more, List.map_singleton, List.intercalate_singleton, List.intercalate_singleton]
      · have mapped : rest.map (fun piece => piece.filter keep) ≠ [] :=
          fun empty => more (List.map_eq_nil_iff.mp empty)
        rw [List.map_cons, List.intercalate_cons_of_ne_nil more,
          List.intercalate_cons_of_ne_nil mapped, List.filter_append, List.filter_append,
          List.filter_eq_self.mpr kept, inductionHypothesis]

variable [DecidableEq α]

/-- **One item for several and back.** The replacement of an item by a separator is undone
exactly for texts in which the separator does not stand yet. -/
theorem replace_replace_iff (nonempty : separator ≠ []) (unbordered : Unbordered separator)
    (absent : item ∉ separator) (items : List α) :
    replace separator [item] (replace [item] separator items) = items ↔
      ¬ separator <:+: items := by
  have single : [item] ≠ [] := List.cons_ne_nil item []
  unfold replace
  constructor
  · intro same
    rw [← same]
    exact not_infix_intercalate nonempty absent fun piece member =>
      (clean_of_mem_splitOn nonempty member).2
  · intro clean
    have linesClean : ∀ line ∈ splitOn [item] items, ¬ separator <:+: line := by
      intro line member inside
      exact clean (inside.trans (clean_of_mem_splitOn single member).1)
    rw [(splitOn_intercalate_iff nonempty unbordered _).mpr
      ⟨splitOn_ne_nil single items, linesClean⟩]
    exact intercalate_splitOn single items

/-- Replacing an item by nothing removes it. -/
theorem replace_nil (item : α) (items : List α) :
    replace [item] [] items = items.filter fun other => decide (other ≠ item) := by
  have single : [item] ≠ [] := List.cons_ne_nil item []
  have kept : ∀ others : List α, item ∉ others →
      others.filter (fun other => decide (other ≠ item)) = others := by
    intro others absent
    apply List.filter_eq_self.mpr
    intro other member
    rw [decide_eq_true_iff]
    rintro rfl
    exact absent member
  unfold replace
  induction items using splitOn_induction single with
  | whole items uncut =>
      rw [cut_eq_none_iff single, List.singleton_infix_iff] at uncut
      rw [splitOn_of_cut_none ((cut_eq_none_iff single).mpr
        (mt (List.singleton_infix_iff item items).mp uncut)), List.intercalate_singleton,
        kept items uncut]
  | piece items before after cuts inductionHypothesis =>
      have parted := cut_eq_some cuts
      have first : item ∉ before := by
        rw [parted, cut_append_iff single] at cuts
        intro member
        apply cuts
        exact List.infix_append_of_infix_left ((List.singleton_infix_iff item before).mpr member)
      rw [splitOn_of_cut_some single cuts,
        List.intercalate_cons_of_ne_nil (splitOn_ne_nil single after), inductionHypothesis,
        parted, List.filter_append, List.filter_append, kept before first]
      simp

/-- Joining is undone although an item is removed in between, exactly for pieces without the
item as well. -/
theorem splitOn_remove_iff (nonempty : separator ≠ []) (unbordered : Unbordered separator)
    (absent : item ∉ separator) (pieces : List (List α)) :
    splitOn separator (replace [item] [] (separator.intercalate pieces)) = pieces ↔
      pieces ≠ [] ∧ ∀ piece ∈ pieces, item ∉ piece ∧ ¬ separator <:+: piece := by
  have kept : ∀ other ∈ separator, decide (other ≠ item) = true := by
    intro other member
    rw [decide_eq_true_iff]
    rintro rfl
    exact absent member
  have unchanged : (∀ piece ∈ pieces, item ∉ piece) →
      pieces.map (fun piece => piece.filter fun other => decide (other ≠ item)) = pieces := by
    intro without
    have same : ∀ piece ∈ pieces,
        piece.filter (fun other => decide (other ≠ item)) = id piece := by
      intro piece member
      apply List.filter_eq_self.mpr
      intro other inside
      rw [decide_eq_true_iff]
      rintro rfl
      exact without piece member inside
    rw [List.map_congr_left same, List.map_id]
  rw [replace_nil]
  constructor
  · intro same
    have without : ∀ piece ∈ pieces, item ∉ piece := by
      intro piece member inside
      rw [← same] at member
      have inText := (clean_of_mem_splitOn nonempty member).1.subset inside
      have isKept := (List.mem_filter.mp inText).2
      rw [decide_eq_true_iff] at isKept
      exact isKept rfl
    rw [filter_intercalate kept, unchanged without,
      splitOn_intercalate_iff nonempty unbordered] at same
    exact ⟨same.1, fun piece member => ⟨without piece member, same.2 piece member⟩⟩
  · rintro ⟨some, clean⟩
    rw [filter_intercalate kept, unchanged fun piece member => (clean piece member).1]
    exact (splitOn_intercalate_iff nonempty unbordered pieces).mpr
      ⟨some, fun piece member => (clean piece member).2⟩

end Replace

/-! ## `String.replace` -/

section Native

open String.Slice.Pattern String.Slice.Pattern.Model

variable {old new : List Char}

theorem replace_append (nonempty : old ≠ []) (rest : List Char) :
    replace old new (old ++ rest) = new ++ replace old new rest := by
  unfold replace
  rw [splitOn_of_cut_some nonempty (cut_append_self nonempty rest),
    List.intercalate_cons_of_ne_nil (splitOn_ne_nil nonempty rest)]
  rfl

theorem replace_cons (nonempty : old ≠ []) {first : Char} {rest : List Char}
    (elsewhere : ¬ old <+: first :: rest) :
    replace old new (first :: rest) = first :: replace old new rest := by
  have some := splitOn_ne_nil nonempty rest
  unfold replace
  rw [splitOn] at some
  rw [splitOn, splitOn, splitFrom, if_neg elsewhere]
  obtain ⟨piece, others, pieces⟩ := List.exists_cons_of_ne_nil some
  rw [pieces]
  exact List.intercalate_cons_cons_left

/-- What no pattern starts in is kept. -/
theorem replace_skip (nonempty : old ≠ []) {kept rest : List Char}
    (elsewhere : ∀ before item behind, kept = before ++ item :: behind →
      ¬ old <+: item :: (behind ++ rest)) :
    replace old new (kept ++ rest) = kept ++ replace old new rest := by
  induction kept with
  | nil => rfl
  | cons first others inductionHypothesis =>
      have later := inductionHypothesis fun before item behind parted =>
        elsewhere (first :: before) item behind (by rw [parted]; rfl)
      rw [List.cons_append, replace_cons nonempty (elsewhere [] first others rfl), later]
      rfl

/-- The fold of `String.replace` over the steps of a search. -/
theorem toList_foldl_steps {old : String} (nonempty : old ≠ "") (new : String) {s : String.Slice}
    {start : s.Pos} {steps : List (SearchStep s)} (valid : IsValidSearchFrom old start steps)
    (sofar : String) {before after : String} (splits : start.Splits before after) :
    (steps.foldl (fun sofar step =>
        match sofar, step with
        | sofar, .matched _ _ => sofar ++ new.toSlice
        | sofar, .rejected start stop => sofar ++ s.slice! start stop) sofar).toList =
      sofar.toList ++ replace old.toList new.toList after.toList := by
  have pattern : old.toList ≠ [] := fun empty => nonempty (String.toList_eq_nil_iff.mp empty)
  induction valid generalizing sofar before after with
  | endPos =>
      obtain ⟨-, rfl⟩ := String.Slice.splits_endPos_iff.mp splits
      simp [replace, splitOn, splitFrom]
  | matched isMatch valid inductionHypothesis =>
      obtain ⟨first, rest, startSplits, stopSplits⟩ :=
        ForwardStringSearcher.isLongestMatchAt_iff_splits.mp isMatch
      obtain ⟨rfl, rfl⟩ := splits.eq startSplits
      rw [List.foldl_cons, inductionHypothesis _ stopSplits, String.toList_append,
        replace_append pattern]
      simp [String.appendSlice_eq]
  | @mismatched steps start stop advances nowhere valid inductionHypothesis =>
      have stopSplits := stop.splits
      obtain ⟨kept, isBefore, isAfter⟩ :=
        (splits.le_iff_exists_eq_append stopSplits).mp (Std.le_of_lt advances)
      rw [isBefore] at stopSplits
      rw [isAfter] at splits
      have slice : (s.slice! start stop).copy = kept := by
        obtain ⟨inOrder, same⟩ :=
          String.Slice.copy_slice_eq_iff_splits.mpr ⟨before, _, splits, stopSplits⟩
        rw [← same, String.Slice.slice_eq_slice!]
      rw [List.foldl_cons, inductionHypothesis _ stopSplits, isAfter, String.toList_append,
        replace_skip pattern]
      · simp [String.appendSlice_eq, slice]
      · intro first item behind parted starts
        have keeps : kept = String.ofList first ++ String.ofList (item :: behind) := by
          rw [← String.ofList_append, ← parted, String.ofList_toList]
        rw [keeps, String.append_assoc] at splits
        have between := splits.splits_rotateRight
        obtain ⟨others, isStart⟩ := starts
        have left : start ≤ splits.rotateRight :=
          (splits.le_iff_exists_eq_append between).mpr ⟨String.ofList first, rfl, rfl⟩
        have right : splits.rotateRight < stop := by
          rw [between.lt_iff_exists_eq_append stopSplits]
          refine ⟨String.ofList (item :: behind), by simp, ?_, rfl⟩
          rw [keeps, String.append_assoc]
        apply nowhere _ left right
        rw [ForwardStringSearcher.matchesAt_iff_splits]
        refine ⟨before ++ String.ofList first, String.ofList others, ?_⟩
        have same : String.ofList (item :: behind) ++ (s.sliceFrom stop).copy =
            old ++ String.ofList others := by
          rw [← String.toList_inj]
          simp [isStart]
        rw [← same]
        exact between

/-- **`String.replace`** is the replacement of lists. -/
theorem toList_replace {old : String} (nonempty : old ≠ "") (new text : String) :
    (text.replace old new).toList = replace old.toList new.toList text.toList := by
  have lawful := ForwardStringSearcher.lawfulToForwardSearcherModel nonempty
  have replaced := toList_foldl_steps nonempty new
    (lawful.isValidSearchFrom_toList text.toSlice) "" (String.Slice.splits_startPos text.toSlice)
  rw [Std.Iter.foldl_toList, String.copy_toSlice, String.toList_empty, List.nil_append] at replaced
  exact replaced

end Native

end QuAIA.Library.Substring
