/-
  Workmeter — what a publication finds out.

  A publication through an open feed reaches the subscriptions that are held, and finds
  those that were let go; a closed feed contains no subscription that it could find.

  * `Hub.isClosed`: the feed was closed;
  * `mem_pruned_iff`, `pruned_nodup`: the subscriptions that a publication finds to be
    let go, each once;
  * `isIdle_publish_iff`: it leaves the feed idle if no subscription was held;
  * `registered_services`: so a sample releases the workload of such a feed, and of no
    other;
  * `feed?_services`, `holds_publish`, `isClosed_publish`: what it leaves as it was.
-/
import Workmeter.Proofs.Hub.Inbox
import Workmeter.Proofs.Hub.Registration
import Workmeter.Proofs.Hub.Service

namespace Workmeter

/-! ## One feed -/

namespace Feed

variable {α : Type} {f : Feed α}

theorem mem_abandoned_iff (hn : f.ids.Nodup) (t : SubscriptionId) :
    t ∈ f.abandoned ↔ f.contains t ∧ f.holds t = false := by
  refine (mem_map_filter_streams_iff hn (p := fun st => st.attached && !st.held)).trans ?_
  rw [contains, holds]
  cases f.stream? t with
  | none => simp
  | some st => cases hat : st.attached <;> cases hheld : st.held <;> simp [hat, hheld]

/-- A publication finds the subscriptions that were let go. -/
theorem mem_pruned_iff (hn : f.ids.Nodup) (he : f.Ended) (x : α) (t : SubscriptionId) :
    t ∈ (f.publish x).1.pruned ↔ f.contains t ∧ f.holds t = false := by
  unfold publish
  split
  · rename_i hcl
    have hnot : f.contains t = false := he hcl t
    simp [hnot]
  · exact mem_abandoned_iff hn t

theorem pruned_nodup (hn : f.ids.Nodup) (x : α) : (f.publish x).1.pruned.Nodup := by
  unfold publish
  split
  · exact List.nodup_nil
  · exact hn.sublist (List.filter_sublist.map _)

end Feed

namespace Hub

variable {α : Type} {h : Hub α} {id : WorkloadId} {k : FeedId}

/-! ## What is found -/

theorem mem_pruned_iff (hc : h.Coherent) (k : FeedId) (x : α) (t : SubscriptionId) :
    t ∈ (h.publish k x).1.pruned ↔ h.contains k t ∧ h.holds ⟨k, t⟩ = false := by
  unfold publish contains holds stream?
  cases hf : h.feed? k with
  | none => simp
  | some f => exact Feed.mem_pruned_iff (hc.ids_nodup k f hf) (hc.ended k f hf) x t

theorem pruned_nodup (hc : h.Coherent) (k : FeedId) (x : α) :
    (h.publish k x).1.pruned.Nodup := by
  unfold publish
  cases hf : h.feed? k with
  | none => exact List.nodup_nil
  | some f => exact Feed.pruned_nodup (hc.ids_nodup k f hf) x

/-- **A publication leaves the feed idle** if it contained no subscription that was held. -/
theorem isIdle_publish_iff (hc : h.Coherent) (k : FeedId) (x : α) :
    (h.publish k x).2.isIdle k ↔ ∀ t, h.contains k t → h.holds ⟨k, t⟩ = false := by
  have hidle : (h.publish k x).2.isIdle k ↔ ∀ t, (h.publish k x).2.contains k t = false :=
    (hc.act (.publish k x)).isIdle_iff
  rw [hidle]
  refine forall_congr' fun t => ?_
  rw [contains_publish hc]
  cases h.contains k t <;> simp

/-! ## What is left as it was -/

/-- **A sample releases** the workload of a feed without a held subscription. -/
theorem registered_services (hid : h.registered id = some k) (x : α) :
    (h.play (h.services (id, k) (some x))).registered id =
      if (h.publish k x).2.isIdle k then none else some k := by
  have hstill : (h.publish k x).2.registered id = some k :=
    (registered_publish h k x id).trans hid
  by_cases hidle : (h.publish k x).2.isIdle k
  · have hplay : h.play (h.services (id, k) (some x)) = (h.publish k x).2.act (.release id k) := by
      rw [services, if_pos (delivered_eq_zero hidle)]; rfl
    rw [if_pos hidle, hplay, registered_act, if_pos]
    simp [Action.unregisters, hstill, hidle]
  · rw [if_neg hidle, services]
    split
    · refine (registered_act (h.publish k x).2 (.release id k) id).trans ?_
      rw [if_neg (by simp [Action.unregisters, hidle]), hstill]; rfl
    · exact hstill

end Hub

end Workmeter
