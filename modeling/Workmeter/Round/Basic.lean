/-
  Workmeter — one round of measurements.

  A round takes the workloads registered at its start.  It asks for the CPU
  usage of the host once, and gives up if there is none.  Then every workload
  is measured, and its sample goes to the feed that it was registered with at
  the start, whatever has happened to the registration since; a workload whose
  feed turned out to have no reader left is unregistered when its measurement
  is settled.

  * `Sources σ`: those who are asked, with a state `σ` of their own; `Answers`:
    what they say if they have none;
  * `Round.measure`, `Round.settle`: the two steps of each workload;
  * `Round.play`: the steps in a given order;
  * `Round.run`: the round, with every workload measured before any is settled.
-/
import Workmeter.Event
import Workmeter.Round.Inquiry

namespace Workmeter

/-- Those who are asked in a round; `σ` is what they remember. -/
structure Sources (σ : Type) where
  /-- The CPU usage of the host. -/
  hostUsage : σ → Inquiry (Outcome HostCpu.Fault UInt64 × σ)
  /-- The counters of a workload. -/
  stats : WorkloadId → σ → Inquiry (Outcome WorkloadFault WorkloadStats × σ)
  /-- The sandbox of a workload, if it has one. -/
  sandbox : WorkloadId → σ → Option SandboxId
  /-- The interfaces of a sandbox. -/
  interfaces : SandboxId → σ → Outcome SandboxFault (List Interface)

/-- Answers that are given at once, without a request to the hub and without a
    memory. -/
structure Answers where
  hostUsage : Outcome HostCpu.Fault UInt64
  stats : WorkloadId → Outcome WorkloadFault WorkloadStats
  sandbox : WorkloadId → Option SandboxId
  interfaces : SandboxId → Outcome SandboxFault (List Interface)

/-- Those who give the answers. -/
def Answers.sources (a : Answers) : Sources Unit where
  hostUsage _ := .answer (a.hostUsage, ())
  stats id _ := .answer (a.stats id, ())
  sandbox id _ := a.sandbox id
  interfaces id _ := a.interfaces id

/-- A question that was put. -/
inductive Call where
  | hostUsage
  | stats (id : WorkloadId)
  | interfaces (sandbox : SandboxId)
  deriving DecidableEq

/-- How the measurement of a workload went. -/
inductive Measured where
  /-- Its sample reached this many subscriptions. -/
  | published (delivered : Nat)
  | unavailable
  | crashed (report : String)

/-- A registered workload and its feed. -/
abbrev Task := WorkloadId × FeedId

/-- A step of a round. -/
inductive Move where
  | measure (task : Task)
  | settle (task : Task)

/-- A round in progress. -/
structure Round (σ : Type) where
  hub : Hub Sample
  state : σ
  calls : List Call := []
  events : List Event := []
  results : List (WorkloadId × Measured) := []

namespace Round

variable {σ : Type}

/-- Notes a question that was put. -/
def call (r : Round σ) (c : Call) : Round σ := { r with calls := r.calls ++ [c] }

/-- Notes something worth a report. -/
def report (r : Round σ) (e : Event) : Round σ := { r with events := r.events ++ [e] }

/-- Notes how the measurement of a workload went. -/
def result (r : Round σ) (id : WorkloadId) (m : Measured) : Round σ :=
  { r with results := r.results ++ [(id, m)] }

/-- Publishes a sample through the feed. -/
def deliver (r : Round σ) (k : FeedId) (sample : Sample) : Round σ :=
  let (delivery, hub) := r.hub.publish k sample
  { r with hub, events := r.events ++ delivery.pruned.map Event.pruned }.result sample.workload
    (.published delivery.delivered)

/-- Measures a workload and publishes its sample, if there is one.  This is one step: nothing
    comes between the counters, the interfaces and the publication. -/
def measure (sources : Sources σ) (usage : UInt64) (task : Task) (r : Round σ) : Round σ :=
  let (id, k) := task
  let ((outcome, state), hub) := (sources.stats id r.state).run r.hub
  let r := { r with hub, state }.call (.stats id)
  match outcome with
  | .crash text => r.result id (.crashed text)
  | .failure (.notRunning _) => r.result id .unavailable
  | .failure cause => (r.report (.statsFailed id cause)).result id .unavailable
  | .value stats =>
    match sources.sandbox id state with
    | none => r.deliver k ⟨id, stats, usage, []⟩
    | some sandbox =>
      let r := r.call (.interfaces sandbox)
      match sources.interfaces sandbox state with
      | .value interfaces => r.deliver k ⟨id, stats, usage, interfaces⟩
      | .failure cause => (r.report (.interfacesFailed id cause)).deliver k ⟨id, stats, usage, []⟩
      | .crash text => r.result id (.crashed text)

/-- Settles a workload that was measured. -/
def settle (task : Task) (r : Round σ) : Round σ :=
  let (id, k) := task
  match r.results.lookup id with
  | some (.published 0) =>
    let (released, hub) := r.hub.releaseIfIdle id k
    let r := { r with hub }
    if released then r.report (.released id) else r
  | some (.crashed text) => r.report (.measureCrashed text)
  | _ => r

/-- Takes one step. -/
def step (sources : Sources σ) (usage : UInt64) (r : Round σ) : Move → Round σ
  | .measure task => r.measure sources usage task
  | .settle task => r.settle task

/-- Takes the steps in order. -/
def play (sources : Sources σ) (usage : UInt64) (r : Round σ) (moves : List Move) : Round σ :=
  moves.foldl (step sources usage) r

/-- Every workload is measured before any is settled. -/
def inTurn (tasks : List Task) : List Move := tasks.map .measure ++ tasks.map .settle

/-- A round whose steps are put in order by `order`. -/
def runWith (order : List Task → List Move) (sources : Sources σ) (state : σ)
    (hub : Hub Sample) : Round σ :=
  let tasks := hub.entries
  if tasks.isEmpty then { hub, state }
  else
    let ((outcome, state), hub) := (sources.hostUsage state).run hub
    let r : Round σ := { hub, state, calls := [.hostUsage] }
    match outcome with
    | .failure cause => r.report (.hostFailed cause)
    | .crash text => r.report (.hostCrashed text)
    | .value usage => (r.play sources usage (order tasks)).report .roundTook

/-- One round. -/
def run (sources : Sources σ) (state : σ) (hub : Hub Sample) : Round σ :=
  runWith inTurn sources state hub

end Round

end Workmeter
