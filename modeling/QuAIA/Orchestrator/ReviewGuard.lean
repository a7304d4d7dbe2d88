import QuAIA.Library.Binary64
import QuAIA.Library.SlidingWindow

/-!
Contract: the guard of the endpoint that asks for a requirements review.

Owns: the deduplication window and the rate cap of `_RequirementReviewGuard`; and its decisions
as a function of the calls that were accepted before.

`check` runs under the guard's lock and does not suspend, so calls come one after the other.
Clock readings are rationals, as every double is one, and their differences are rounded to doubles.
-/

set_option autoImplicit false

namespace QuAIA.Orchestrator

open QuAIA.Library
open QuAIA.Library.SlidingWindow

/-! ## The guard -/

/-- Why a request is dropped: `"duplicate"` or `"rate_limited"`. -/
inductive DropReason where
  | duplicate
  | rateLimited
deriving DecidableEq, Repr

structure RequirementReviewGuard where
  dedupWindowSeconds : ℚ
  globalMaxPerMinute : Int
  lastSeen : Dict String ℚ
  globalWindow : List ℚ

structure ReviewCall where
  time : ℚ
  workItemId : String
deriving DecidableEq

namespace RequirementReviewGuard

def new (dedupWindowSeconds : ℚ) (globalMaxPerMinute : Int) : RequirementReviewGuard :=
  ⟨dedupWindowSeconds, globalMaxPerMinute, .empty, []⟩

/-- The difference of two clock readings. -/
def elapsed (now time : ℚ) : ℚ := Binary64.nearest (now - time)

/-- Old entries are forgotten by every call. -/
def evict (guard : RequirementReviewGuard) (now : ℚ) : RequirementReviewGuard :=
  { guard with
    lastSeen := expire elapsed guard.dedupWindowSeconds now guard.lastSeen
    globalWindow := prune elapsed 60 now guard.globalWindow }

def check (guard : RequirementReviewGuard) (call : ReviewCall) :
    Option DropReason × RequirementReviewGuard :=
  let guard := guard.evict call.time
  if guard.globalMaxPerMinute ≤ guard.globalWindow.length then (some .rateLimited, guard)
  else if guard.lastSeen.contains call.workItemId then (some .duplicate, guard)
  else
    (none, { guard with
      globalWindow := guard.globalWindow ++ [call.time]
      lastSeen := guard.lastSeen.set call.workItemId call.time })

/-- The guard after a list of calls. -/
def run (guard : RequirementReviewGuard) (calls : List ReviewCall) : RequirementReviewGuard :=
  calls.foldl (fun guard call => (guard.check call).2) guard

/-- The calls of a list that are accepted. -/
def accepted (guard : RequirementReviewGuard) : List ReviewCall → List ReviewCall
  | [] => []
  | call :: rest =>
      match guard.check call with
      | (none, next) => call :: next.accepted rest
      | (some _, next) => next.accepted rest

end RequirementReviewGuard

/-! ## The history of accepted calls -/

open RequirementReviewGuard (elapsed)

theorem ageing_elapsed : Ageing elapsed where
  grows order time := Binary64.nearest_mono (sub_le_sub_right order time)
  falls order now := Binary64.nearest_mono (sub_le_sub_left order now)

/-- The calls of a history in the minute up to a time. -/
def inLastMinute (history : List ReviewCall) (now : ℚ) : List ReviewCall :=
  history.filter fun call => elapsed now call.time ≤ 60 ∧ call.time ≤ now

/-- The same work item is in the history within the window up to the call. -/
def AlreadySeen (window : ℚ) (history : List ReviewCall) (call : ReviewCall) : Prop :=
  ∃ earlier ∈ history, earlier.workItemId = call.workItemId ∧
    elapsed call.time earlier.time ≤ window ∧ earlier.time ≤ call.time

/-- The guard stands for the history of accepted calls from a time on: whatever it has
forgotten was too old then. -/
structure Represents (window : ℚ) (cap : Int) (guard : RequirementReviewGuard)
    (history : List ReviewCall) (since : ℚ) : Prop where
  dedup : guard.dedupWindowSeconds = window
  rate : guard.globalMaxPerMinute = cap
  past : ∀ call ∈ history, call.time ≤ since
  sorted : guard.globalWindow.Pairwise (· ≤ ·)
  earlier : ∀ time ∈ guard.globalWindow, time ≤ since
  minute : ∀ now, since ≤ now →
    (guard.globalWindow.filter fun time => Recent elapsed 60 now time) =
      (history.map ReviewCall.time).filter fun time => Recent elapsed 60 now time
  seen : ∀ now, since ≤ now → ∀ workItemId,
    (∃ time ∈ guard.lastSeen.get? workItemId, Recent elapsed window now time) ↔
      ∃ call ∈ history, call.workItemId = workItemId ∧ Recent elapsed window now call.time

section Representation

variable {window : ℚ} {cap : Int} {guard : RequirementReviewGuard} {history : List ReviewCall}
  {since : ℚ} {call : ReviewCall}

theorem Represents.later (represents : Represents window cap guard history since) {now : ℚ}
    (order : since ≤ now) : Represents window cap guard history now where
  dedup := represents.dedup
  rate := represents.rate
  past call member := le_trans (represents.past call member) order
  sorted := represents.sorted
  earlier time member := le_trans (represents.earlier time member) order
  minute later orderLater := represents.minute later (le_trans order orderLater)
  seen later orderLater := represents.seen later (le_trans order orderLater)

/-- Forgetting old entries does not change what the guard stands for. -/
theorem Represents.evict (represents : Represents window cap guard history since)
    (order : since ≤ call.time) :
    Represents window cap (guard.evict call.time) history call.time where
  dedup := represents.dedup
  rate := represents.rate
  past other member := le_trans (represents.past other member) order
  sorted := prune_sorted represents.sorted
  earlier time member :=
    le_trans (represents.earlier time (List.dropWhile_sublist _ |>.subset member)) order
  minute now orderNow := by
    show ((prune elapsed 60 call.time guard.globalWindow).filter _) = _
    rw [filter_prune ageing_elapsed represents.sorted orderNow,
      represents.minute now (le_trans order orderNow)]
  seen now orderNow workItemId := by
    rw [← represents.seen now (le_trans order orderNow) workItemId]
    constructor
    · rintro ⟨time, found, recent⟩
      exact ⟨time, (mem_get?_expire.mp found).1, recent⟩
    · rintro ⟨time, found, recent⟩
      refine ⟨time, mem_get?_expire.mpr ⟨found, ?_⟩, recent⟩
      rw [represents.dedup]
      exact recent.before ageing_elapsed orderNow

/-- Accepting a call adds it to the history. -/
theorem Represents.accept (represents : Represents window cap guard history call.time) :
    Represents window cap
      { guard with
        globalWindow := guard.globalWindow ++ [call.time]
        lastSeen := guard.lastSeen.set call.workItemId call.time }
      (history ++ [call]) call.time where
  dedup := represents.dedup
  rate := represents.rate
  past other member := by
    rcases List.mem_append.mp member with before | isCall
    · exact represents.past other before
    · rw [List.mem_singleton.mp isCall]
  sorted := by
    rw [List.pairwise_append]
    refine ⟨represents.sorted, List.pairwise_singleton _ _, ?_⟩
    intro time member other isCall
    rw [List.mem_singleton.mp isCall]
    exact represents.earlier time member
  earlier time member := by
    rcases List.mem_append.mp member with before | isCall
    · exact represents.earlier time before
    · rw [List.mem_singleton.mp isCall]
  minute now order := by
    rw [List.map_append, List.filter_append, List.filter_append, represents.minute now order]
    rfl
  seen now order workItemId := by
    have before := represents.seen now order workItemId
    simp only [Dict.get?_set]
    split
    · rename_i same
      constructor
      · rintro ⟨time, isTime, recent⟩
        obtain rfl : call.time = time := Option.some.inj isTime
        exact ⟨call, by simp, same.symm, recent⟩
      · rintro ⟨other, member, -, recent⟩
        refine ⟨call.time, rfl, ?_⟩
        rcases List.mem_append.mp member with inHistory | isCall
        · exact recent.after ageing_elapsed (represents.past other inHistory)
        · rwa [List.mem_singleton.mp isCall] at recent
    · rename_i different
      rw [before]
      constructor
      · rintro ⟨other, member, same, recent⟩
        exact ⟨other, List.mem_append_left _ member, same, recent⟩
      · rintro ⟨other, member, same, recent⟩
        rcases List.mem_append.mp member with inHistory | isCall
        · exact ⟨other, inHistory, same, recent⟩
        · rw [List.mem_singleton.mp isCall] at same
          exact absurd same.symm different

/-- The queue holds the accepted calls of the last minute. -/
theorem Represents.length_evict (represents : Represents window cap guard history since)
    (order : since ≤ call.time) :
    (guard.evict call.time).globalWindow.length = (inLastMinute history call.time).length := by
  have all : (guard.evict call.time).globalWindow =
      (history.map ReviewCall.time).filter fun time => Recent elapsed 60 call.time time := by
    show prune elapsed 60 call.time guard.globalWindow = _
    rw [prune_eq_filter ageing_elapsed call.time represents.sorted,
      represents.minute call.time order]
  rw [all, List.filter_map, List.length_map, inLastMinute]
  congr 1
  apply List.filter_congr
  intro other member
  have past := le_trans (represents.past other member) order
  exact decide_eq_decide.mpr ⟨fun recent => ⟨recent, past⟩, And.left⟩

/-- The map holds the work items that were accepted within the window. -/
theorem Represents.contains_evict (represents : Represents window cap guard history since)
    (order : since ≤ call.time) :
    (guard.evict call.time).lastSeen.contains call.workItemId = true ↔
      AlreadySeen window history call := by
  have seen := represents.seen call.time order call.workItemId
  have present : (guard.evict call.time).lastSeen.contains call.workItemId = true ↔
      ∃ time ∈ guard.lastSeen.get? call.workItemId, Recent elapsed window call.time time := by
    rw [Dict.contains, Option.isSome_iff_exists, ← represents.dedup]
    constructor
    · rintro ⟨time, found⟩
      exact ⟨time, mem_get?_expire.mp found⟩
    · rintro ⟨time, found⟩
      exact ⟨time, mem_get?_expire.mpr found⟩
  rw [present, seen]
  constructor
  · rintro ⟨earlier, member, same, recent⟩
    exact ⟨earlier, member, same, recent,
      le_trans (represents.past earlier member) order⟩
  · rintro ⟨earlier, member, same, recent, -⟩
    exact ⟨earlier, member, same, recent⟩

/-- **Decision.** The guard decides by the calls that were accepted in its two windows. -/
theorem Represents.check (represents : Represents window cap guard history since)
    (order : since ≤ call.time) :
    ((guard.check call).1 = none ∧
        Represents window cap (guard.check call).2 (history ++ [call]) call.time ∧
        ((inLastMinute history call.time).length < cap ∧ ¬AlreadySeen window history call)) ∨
      ((guard.check call).1 = some .duplicate ∧
        Represents window cap (guard.check call).2 history call.time ∧
        ((inLastMinute history call.time).length < cap ∧ AlreadySeen window history call)) ∨
      ((guard.check call).1 = some .rateLimited ∧
        Represents window cap (guard.check call).2 history call.time ∧
        cap ≤ (inLastMinute history call.time).length) := by
  have evicted := represents.evict order
  have contains := represents.contains_evict order
  have atCap : (guard.evict call.time).globalMaxPerMinute ≤
      ((guard.evict call.time).globalWindow.length : Int) ↔
        cap ≤ (inLastMinute history call.time).length := by
    rw [represents.length_evict order, show (guard.evict call.time).globalMaxPerMinute = cap from
      represents.rate]
  unfold RequirementReviewGuard.check
  dsimp only
  split
  · rename_i full
    exact Or.inr (Or.inr ⟨rfl, evicted, atCap.mp full⟩)
  · rename_i free
    have below : ((inLastMinute history call.time).length : Int) < cap :=
      not_le.mp fun full => free (atCap.mpr full)
    split
    · rename_i seen
      exact Or.inr (Or.inl ⟨rfl, evicted, below, contains.mp seen⟩)
    · rename_i unseen
      exact Or.inl ⟨rfl, evicted.accept, below, fun seen => unseen (contains.mpr seen)⟩

/-- A call is accepted exactly when neither window stands against it. -/
theorem Represents.accepts_iff (represents : Represents window cap guard history since)
    (order : since ≤ call.time) :
    (guard.check call).1 = none ↔
      (inLastMinute history call.time).length < cap ∧ ¬AlreadySeen window history call := by
  rcases represents.check order with
    ⟨decided, -, allowed⟩ | ⟨decided, -, seen⟩ | ⟨decided, -, full⟩
  · exact ⟨fun _ => allowed, fun _ => decided⟩
  · rw [decided]
    exact ⟨fun same => (by cases same), fun allowed => absurd seen.2 allowed.2⟩
  · rw [decided]
    exact ⟨fun same => (by cases same), fun allowed => absurd full (not_le.mpr allowed.1)⟩

/-- The cap is reported whenever it stands against the call. -/
theorem Represents.rateLimited_iff (represents : Represents window cap guard history since)
    (order : since ≤ call.time) :
    (guard.check call).1 = some .rateLimited ↔
      cap ≤ (inLastMinute history call.time).length := by
  rcases represents.check order with
    ⟨decided, -, allowed⟩ | ⟨decided, -, seen⟩ | ⟨decided, -, full⟩
  · rw [decided]
    exact ⟨fun same => (by cases same), fun full => absurd full (not_le.mpr allowed.1)⟩
  · rw [decided]
    exact ⟨fun same => (by cases same), fun full => absurd full (not_le.mpr seen.1)⟩
  · exact ⟨fun _ => full, fun _ => decided⟩

/-! ## Runs -/

theorem accepted_of_accepts {rest : List ReviewCall} (accepts : (guard.check call).1 = none) :
    guard.accepted (call :: rest) = call :: (guard.check call).2.accepted rest := by
  rw [RequirementReviewGuard.accepted,
    show guard.check call = (none, (guard.check call).2) from Prod.ext accepts rfl]

theorem accepted_of_drops {rest : List ReviewCall} (drops : (guard.check call).1 ≠ none) :
    guard.accepted (call :: rest) = (guard.check call).2.accepted rest := by
  obtain ⟨reason, isReason⟩ := Option.ne_none_iff_exists'.mp drops
  rw [RequirementReviewGuard.accepted,
    show guard.check call = (some reason, (guard.check call).2) from Prod.ext isReason rfl]

/-- What the guard stands for after a call: only an accepted call enters the history. -/
theorem Represents.next (represents : Represents window cap guard history since)
    (order : since ≤ call.time) :
    Represents window cap (guard.check call).2
      (if (guard.check call).1 = none then history ++ [call] else history) call.time := by
  rcases represents.check order with ⟨decided, next, -⟩ | ⟨decided, next, -⟩ | ⟨decided, next, -⟩
  · rwa [if_pos decided]
  · rwa [decided, if_neg (by intro same; cases same)]
  · rwa [decided, if_neg (by intro same; cases same)]

/-- After any calls in order, the guard stands for the history of the accepted ones. -/
theorem Represents.run (represents : Represents window cap guard history since)
    {calls : List ReviewCall}
    (ordered : calls.Pairwise fun earlier later => earlier.time ≤ later.time)
    (after : ∀ call ∈ calls, since ≤ call.time) {now : ℚ} (reached : since ≤ now)
    (before : ∀ call ∈ calls, call.time ≤ now) :
    Represents window cap (guard.run calls) (history ++ guard.accepted calls) now := by
  induction calls generalizing guard history since with
  | nil =>
      rw [RequirementReviewGuard.accepted, List.append_nil]
      exact represents.later reached
  | cons call rest inductionHypothesis =>
      obtain ⟨first, restOrdered⟩ := List.pairwise_cons.mp ordered
      have next := represents.next (after call (by simp))
      have rested := inductionHypothesis next restOrdered first (before call (by simp))
        fun other member => before other (by simp [member])
      by_cases accepts : (guard.check call).1 = none
      · rw [if_pos accepts, List.append_assoc] at rested
        rw [accepted_of_accepts accepts]
        exact rested
      · rw [if_neg accepts] at rested
        rw [accepted_of_drops accepts]
        exact rested

/-- A guard that never sees the rejected calls accepts the others. -/
theorem Represents.accepted_accepted {other : RequirementReviewGuard}
    (represents : Represents window cap guard history since)
    (same : Represents window cap other history since) {calls : List ReviewCall}
    (ordered : calls.Pairwise fun earlier later => earlier.time ≤ later.time)
    (after : ∀ call ∈ calls, since ≤ call.time) :
    other.accepted (guard.accepted calls) = guard.accepted calls := by
  induction calls generalizing guard other history since with
  | nil => rfl
  | cons call rest inductionHypothesis =>
      obtain ⟨first, restOrdered⟩ := List.pairwise_cons.mp ordered
      have order := after call (by simp)
      have next := represents.next order
      by_cases accepts : (guard.check call).1 = none
      · have otherAccepts : (other.check call).1 = none :=
          (same.accepts_iff order).mpr ((represents.accepts_iff order).mp accepts)
        have otherNext := same.next order
        rw [if_pos accepts] at next
        rw [if_pos otherAccepts] at otherNext
        rw [accepted_of_accepts accepts, accepted_of_accepts otherAccepts,
          inductionHypothesis next otherNext restOrdered first]
      · rw [if_neg accepts] at next
        rw [accepted_of_drops accepts]
        exact inductionHypothesis next (same.later order) restOrdered first

/-- Guards that stand for the same history decide alike. -/
theorem Represents.check_congr {other : RequirementReviewGuard}
    (represents : Represents window cap guard history since)
    (same : Represents window cap other history since) (order : since ≤ call.time) :
    (other.check call).1 = (guard.check call).1 := by
  have accepts : (other.check call).1 = none ↔ (guard.check call).1 = none := by
    rw [represents.accepts_iff order, same.accepts_iff order]
  have rateLimited : (other.check call).1 = some .rateLimited ↔
      (guard.check call).1 = some .rateLimited := by
    rw [represents.rateLimited_iff order, same.rateLimited_iff order]
  rcases represents.check order with ⟨decided, -⟩ | ⟨decided, -⟩ | ⟨decided, -⟩
  · rw [decided, accepts, decided]
  · rw [decided] at accepts rateLimited ⊢
    cases isReason : (other.check call).1 with
    | none => exact absurd (accepts.mp isReason) (by simp)
    | some reason =>
        cases reason with
        | duplicate => rfl
        | rateLimited => exact absurd (rateLimited.mp isReason) (by simp)
  · rw [decided, rateLimited, decided]

theorem accepted_sublist (guard : RequirementReviewGuard) (calls : List ReviewCall) :
    (guard.accepted calls).Sublist calls := by
  induction calls generalizing guard with
  | nil => exact List.Sublist.slnil
  | cons call rest inductionHypothesis =>
      by_cases accepts : (guard.check call).1 = none
      · rw [accepted_of_accepts accepts]
        exact (inductionHypothesis _).cons_cons call
      · rw [accepted_of_drops accepts]
        exact (inductionHypothesis _).cons call

/-- A new guard stands for the empty history. -/
theorem represents_new (window : ℚ) (cap : Int) (since : ℚ) :
    Represents window cap (.new window cap) [] since where
  dedup := rfl
  rate := rfl
  past call member := by cases member
  sorted := List.Pairwise.nil
  earlier time member := by cases member
  minute now _ := rfl
  seen now _ workItemId := by
    constructor
    · rintro ⟨time, found, -⟩
      cases found
    · rintro ⟨call, member, -⟩
      cases member

end Representation

/-- **Review guard.** After any calls at non-decreasing times, a call is accepted exactly when
fewer than `cap` calls were accepted in the last minute and none for its work item within the
window; the cap is reported whenever it stands against the call; and the rejected calls among
the earlier ones do not matter. -/
theorem reviewGuard_check (window : ℚ) (cap : Int) (calls : List ReviewCall) (call : ReviewCall)
    (ordered : (calls ++ [call]).Pairwise fun earlier later => earlier.time ≤ later.time) :
    let guard := RequirementReviewGuard.new window cap
    let history := guard.accepted calls
    (((guard.run calls).check call).1 = none ↔
        (inLastMinute history call.time).length < cap ∧ ¬AlreadySeen window history call) ∧
      (((guard.run calls).check call).1 = some .rateLimited ↔
        cap ≤ (inLastMinute history call.time).length) ∧
      ((guard.run history).check call).1 = ((guard.run calls).check call).1 := by
  intro guard history
  obtain ⟨since, afterSince⟩ : ∃ since, ∀ other ∈ calls ++ [call], since ≤ other.time := by
    cases calls with
    | nil =>
        refine ⟨call.time, ?_⟩
        intro other member
        rw [List.mem_singleton.mp member]
    | cons first rest =>
        refine ⟨first.time, ?_⟩
        intro other member
        rcases List.mem_cons.mp member with rfl | later
        · exact le_rfl
        · exact (List.pairwise_cons.mp ordered).1 other later
  obtain ⟨callsOrdered, -, beforeCall⟩ := List.pairwise_append.mp ordered
  have initially := represents_new window cap since
  have after : ∀ other ∈ calls, since ≤ other.time :=
    fun other member => afterSince other (List.mem_append_left _ member)
  have before : ∀ other ∈ calls, other.time ≤ call.time :=
    fun other member => beforeCall other member call (by simp)
  have reached : since ≤ call.time := afterSince call (by simp)
  have ran : Represents window cap (guard.run calls) history call.time :=
    initially.run callsOrdered after reached before
  have chosen : history.Sublist calls := accepted_sublist guard calls
  have ranAccepted : Represents window cap (guard.run history) history call.time := by
    have rerun := initially.run (callsOrdered.sublist chosen)
      (fun other member => after other (chosen.subset member)) reached
      (fun other member => before other (chosen.subset member))
    rwa [initially.accepted_accepted initially callsOrdered after] at rerun
  exact ⟨ran.accepts_iff le_rfl, ran.rateLimited_iff le_rfl, ran.check_congr ranAccepted le_rfl⟩

/-- `0.1` and `60.1`, as doubles. Their difference is more than a minute, and is rounded to one. -/
def minuteApart : ReviewCall × ReviewCall :=
  (⟨3602879701896397 / 36028797018963968, "WI-1"⟩,
    ⟨8458323050155213 / 140737488355328, "WI-2"⟩)

theorem ordered_minuteApart : ([minuteApart.1] ++ [minuteApart.2]).Pairwise
    fun earlier later => earlier.time ≤ later.time := by
  decide +kernel

theorem accepted_minuteApart :
    (RequirementReviewGuard.new 300 1).accepted [minuteApart.1] = [minuteApart.1] := by
  decide +kernel

/-- The first call counts in the minute up to the second one. -/
theorem reviewGuard_check_minuteApart :
    (((RequirementReviewGuard.new 300 1).run [minuteApart.1]).check minuteApart.2).1 =
      some .rateLimited := by
  have decides := (reviewGuard_check 300 1 [minuteApart.1] minuteApart.2 ordered_minuteApart).2.1
  rw [accepted_minuteApart] at decides
  exact decides.mpr (by decide +kernel)

/-- By the exact differences the second call would be accepted. -/
theorem reviewGuard_rounds :
    ¬∀ (window : ℚ) (cap : Int) (calls : List ReviewCall) (call : ReviewCall),
      0 ≤ window → 0 ≤ cap →
      (calls ++ [call]).Pairwise (fun earlier later => earlier.time ≤ later.time) →
      let guard := RequirementReviewGuard.new window cap
      let history := guard.accepted calls
      ((guard.run calls).check call).1 = none ↔
        (history.filter fun earlier =>
            call.time - 60 ≤ earlier.time ∧ earlier.time ≤ call.time).length < cap ∧
          ¬∃ earlier ∈ history, earlier.workItemId = call.workItemId ∧
            call.time - window ≤ earlier.time ∧ earlier.time ≤ call.time := by
  intro exact
  have decides := exact 300 1 [minuteApart.1] minuteApart.2 (by decide) (by decide)
    ordered_minuteApart
  dsimp only at decides
  rw [accepted_minuteApart] at decides
  have dropped : (((RequirementReviewGuard.new 300 1).run [minuteApart.1]).check
      minuteApart.2).1 ≠ none := by
    decide +kernel
  refine dropped (decides.mpr ⟨by decide +kernel, ?_⟩)
  rintro ⟨earlier, member, same, -⟩
  rw [List.mem_singleton.mp member] at same
  exact absurd same (by decide)

end QuAIA.Orchestrator
