/-
  Workmeter — what happens while somebody is asked.

  The one who is asked for a measurement may turn to the hub before it answers:
  it may subscribe to workloads, end subscriptions, let them go or stop
  workloads, each time seeing what it got.

  * `Inquiry α`: such a course of requests, ending in an answer of type `α`;
  * `Inquiry.run`: the answer, and the hub it leaves;
  * `Outcome`: the three ways in which a measurement may end.
-/
import Workmeter.Hub
import Workmeter.Sample.Basic

namespace Workmeter

/-- How a measurement ends. -/
inductive Outcome (ε α : Type) where
  | value (a : α)
  | failure (cause : ε)
  /-- The one who was asked broke down; the report says how. -/
  | crash (report : String)

/-- A result, as the end of a measurement that does not break down. -/
def Outcome.ofExcept {ε α : Type} : Except ε α → Outcome ε α
  | .ok a => .value a
  | .error cause => .failure cause

/-- The same end, with something made of the value. -/
def Outcome.map {ε α β : Type} (f : α → β) : Outcome ε α → Outcome ε β
  | value a => .value (f a)
  | failure cause => .failure cause
  | crash report => .crash report

/-- A course of requests to the hub, ending in an answer. -/
inductive Inquiry (α : Type) where
  | answer (a : α)
  | subscribe (id : WorkloadId) (next : Subscription → Inquiry α)
  | unsubscribe (id : WorkloadId) (s : SubscriptionId) (next : Inquiry α)
  | stop (id : WorkloadId) (next : Inquiry α)
  | letGo (s : Subscription) (next : Inquiry α)

/-- Carries the requests out, one after the other. -/
def Inquiry.run {α : Type} : Inquiry α → Hub Sample → α × Hub Sample
  | answer a, hub => (a, hub)
  | subscribe id next, hub =>
    let (s, hub) := hub.subscribe id
    (next s).run hub
  | unsubscribe id s next, hub => next.run (hub.unsubscribe id s)
  | stop id next, hub => next.run (hub.stop id)
  | letGo s next, hub => next.run (hub.letGo s)

end Workmeter
