import Mathlib.Order.Lattice
import QuAIA.Library.Dict

/-!
Contract: events of the last `span` of time, kept in a queue or under a key.

Owns: the two ways to forget old events, from the front of a queue and from a map; and that
what is forgotten at one time is not missed at a later one.

How the age of an event is computed is a parameter, as a difference may be rounded. A queue is
pruned at its front only, so it forgets the right events where its times are ordered.
-/

set_option autoImplicit false

namespace QuAIA.Library.SlidingWindow

universe u v w

variable {α : Type u} {β : Type v} [LinearOrder β]
  {κ : Type w} [DecidableEq κ]

/-- An event ages as time goes on, and a later one is no older. -/
structure Ageing [LE α] (age : α → α → β) : Prop where
  grows : ∀ {earlier now : α}, earlier ≤ now → ∀ time, age earlier time ≤ age now time
  falls : ∀ {time later : α}, time ≤ later → ∀ now, age now later ≤ age now time

variable (age : α → α → β)

/-- A time is at most `span` old. -/
def Recent (span : β) (now time : α) : Prop := age now time ≤ span

instance (span : β) (now : α) : DecidablePred (Recent age span now) :=
  fun time => inferInstanceAs (Decidable (age now time ≤ span))

/-- Remove old times from the front of a queue. -/
def prune (span : β) (now : α) (times : List α) : List α :=
  times.dropWhile fun time => ¬ Recent age span now time

/-- Remove the keys whose time is old. -/
def expire (span : β) (now : α) (dict : Dict κ α) : Dict κ α :=
  dict.popAll ((dict.entries.filter fun entry => ¬ Recent age span now entry.2).map Prod.fst)

variable {age} {span : β}

section Ordered

variable [LinearOrder α] (ageing : Ageing age) {earlier now time : α}
include ageing

/-- What is recent now was recent before. -/
theorem Recent.before (recent : Recent age span now time) (order : earlier ≤ now) :
    Recent age span earlier time :=
  (ageing.grows order time).trans recent

/-- A later time is recent where an earlier one is. -/
theorem Recent.after {later : α} (recent : Recent age span now time) (order : time ≤ later) :
    Recent age span now later :=
  (ageing.falls order now).trans recent

theorem prune_eq_filter (now : α) {times : List α} (sorted : times.Pairwise (· ≤ ·)) :
    prune age span now times = times.filter fun time => Recent age span now time := by
  induction times with
  | nil => rfl
  | cons time rest inductionHypothesis =>
      obtain ⟨first, restSorted⟩ := List.pairwise_cons.mp sorted
      by_cases recent : Recent age span now time
      · have all : ∀ other ∈ time :: rest, Recent age span now other := by
          intro other member
          rcases List.mem_cons.mp member with rfl | inRest
          · exact recent
          · exact recent.after ageing (first other inRest)
        rw [List.filter_eq_self.mpr (by simpa using all)]
        simp [prune, recent]
      · have dropped : prune age span now (time :: rest) = prune age span now rest := by
          simp [prune, recent]
        rw [dropped, inductionHypothesis restSorted]
        simp [recent]

/-- A queue that was pruned before shows the recent times of the whole queue. -/
theorem filter_prune {times : List α} (sorted : times.Pairwise (· ≤ ·))
    (order : earlier ≤ now) :
    ((prune age span earlier times).filter fun time => Recent age span now time) =
      times.filter fun time => Recent age span now time := by
  rw [prune_eq_filter ageing earlier sorted, List.filter_filter]
  apply List.filter_congr
  intro time _
  by_cases recent : Recent age span now time
  · simp [recent, recent.before ageing order]
  · simp [recent]

end Ordered

theorem prune_sorted [LE α] {now : α} {times : List α} (sorted : times.Pairwise (· ≤ ·)) :
    (prune age span now times).Pairwise (· ≤ ·) :=
  sorted.sublist (List.dropWhile_sublist _)

theorem mem_get?_expire {now : α} {dict : Dict κ α} {key : κ} {time : α} :
    time ∈ (expire age span now dict).get? key ↔
      time ∈ dict.get? key ∧ Recent age span now time := by
  have known : ∀ entry ∈ dict.entries, dict.get? entry.1 = some entry.2 :=
    fun entry member => dict.get?_of_mem_entries member
  rw [expire, Dict.get?_popAll]
  split
  · rename_i expired
    obtain ⟨entry, chosen, rfl⟩ := List.mem_map.mp expired
    obtain ⟨member, old⟩ := List.mem_filter.mp chosen
    rw [known entry member]
    constructor
    · intro isNone
      cases isNone
    · rintro ⟨isTime, recent⟩
      obtain rfl : entry.2 = time := Option.some.inj isTime
      exact absurd recent (of_decide_eq_true old)
  · rename_i kept
    refine ⟨fun found => ⟨found, ?_⟩, fun both => both.1⟩
    by_contra old
    have member : (key, time) ∈ dict.entries := (dict.mem_entries_iff key time).mpr found
    exact kept (List.mem_map.mpr ⟨(key, time),
      List.mem_filter.mpr ⟨member, decide_eq_true old⟩, rfl⟩)

end QuAIA.Library.SlidingWindow
