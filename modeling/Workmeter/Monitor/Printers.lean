/-
  Workmeter — the printers of the program, and how its rounds may go.

  There is a printer for each configured entry.  The printers subscribe one after the
  other, in the order of the entries, and the first rounds need not wait for them.

  * `Printers.subscribing`: the next printers subscribe;
  * `Course`: what is left open in a round of the program;
  * `Course.sources`, `Course.round`: those who are asked in a round, while printers
    subscribe, and this round.
-/
import Workmeter.Round.Order

namespace Workmeter

/-- The printers of the configured entries. -/
structure Printers where
  /-- The workloads of those that have not subscribed yet. -/
  waiting : List WorkloadId
  /-- The workloads of those that have, each with what it reads. -/
  subscribed : List (WorkloadId × Subscription) := []

/-- The next printers subscribe, so many of them or all that are left, before the answer. -/
def Printers.subscribing {α : Type} (answer : Printers → α) : Nat → Printers → Inquiry α
  | 0, p => .answer (answer p)
  | count + 1, p =>
    match p.waiting with
    | [] => .answer (answer p)
    | id :: waiting => .subscribe id fun s =>
        subscribing answer count { waiting, subscribed := p.subscribed ++ [(id, s)] }

/-- How a round of the program may go. -/
structure Course where
  order : Round.Order
  /-- The interfaces of a workload, in the order in which they are listed this time. -/
  listed : WorkloadId → List Interface → List Interface
  perm : ∀ id interfaces, (listed id interfaces).Perm interfaces
  /-- The printers that subscribe while the host is asked. -/
  amidHost : Nat
  /-- The printers that subscribe while a workload is asked about. -/
  amid : WorkloadId → Nat

/-- The steps and the interfaces as they come, and nobody subscribes. -/
def Course.plain : Course where
  order := .inTurn
  listed _ := id
  perm _ _ := .rfl
  amidHost := 0
  amid _ := 0

/-- What is remembered in a round of the program. -/
structure Asked where
  printers : Printers
  /-- How the interfaces of the workload that was asked about last are listed. -/
  listed : List Interface → List Interface := id

/-- Those who give the answers while printers subscribe. -/
def Course.sources (c : Course) (a : Answers) : Sources Asked where
  hostUsage asked :=
    asked.printers.subscribing (fun printers => (a.hostUsage, { asked with printers })) c.amidHost
  stats id asked :=
    asked.printers.subscribing (fun printers => (a.stats id, { printers, listed := c.listed id }))
      (c.amid id)
  sandbox id _ := a.sandbox id
  interfaces sandbox asked := (a.interfaces sandbox).map asked.listed

/-- A round of the program. -/
def Course.round (c : Course) (a : Answers) (asked : Asked) (hub : Hub Sample) : Round Asked :=
  Round.runWith c.order.moves (c.sources a) asked hub

end Workmeter
