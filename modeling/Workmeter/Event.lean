/-
  Workmeter — what the program reports while it works.

  * `Event`: the things worth a report, each with what it is about;
  * `Event.level`, `Event.source`, `Event.text`: how it is written to a log.
-/
import Workmeter.Feed.Basic
import Workmeter.HostCpu
import Workmeter.Sandbox
import Workmeter.Workload.Fault

namespace Workmeter

/-- How much a report matters. -/
inductive Level where
  | error
  | warn
  | info
  | debug
  | trace
  deriving DecidableEq, Repr

/-- The name of a level. -/
def Level.name : Level → String
  | error => "ERROR"
  | warn => "WARN"
  | info => "INFO"
  | debug => "DEBUG"
  | trace => "TRACE"

/-- The things worth a report. -/
inductive Event where
  /-- A reader learns that samples were driven out unread. -/
  | skipped (subscription : SubscriptionId) (count : Nat)
  /-- A publication found a subscription that was let go. -/
  | pruned (subscription : SubscriptionId)
  /-- A workload without subscriptions was unregistered. -/
  | released (id : WorkloadId)
  | hostFailed (cause : HostCpu.Fault)
  | hostCrashed (report : String)
  | statsFailed (id : WorkloadId) (cause : WorkloadFault)
  | measureCrashed (report : String)
  /-- A sample goes without interfaces. -/
  | interfacesFailed (id : WorkloadId) (cause : SandboxFault)
  | roundTook
  /-- An entry of another hierarchy was passed over. -/
  | entrySkipped (line : String)
  | registered (id : WorkloadId) (pid : UInt32) (directory : Path)
  | monitoring (id : WorkloadId) (pid : UInt32)
  | nothingToMonitor
  deriving DecidableEq

/-- How reports write what only the surroundings know. -/
structure Wording where
  /-- The name of a subscription. -/
  subscription : SubscriptionId → String := fun s => toString s.number
  /-- The nanoseconds that a round took. -/
  elapsed : String

namespace Event

/-- How much it matters. -/
def level : Event → Level
  | hostFailed _ | hostCrashed _ | statsFailed _ _ | measureCrashed _ => .error
  | interfacesFailed _ _ | nothingToMonitor => .warn
  | monitoring _ _ => .info
  | skipped _ _ | pruned _ | released _ | registered _ _ _ => .debug
  | roundTook | entrySkipped _ => .trace

/-- The part of the program that reports. -/
def source : Event → String
  | skipped _ _ | pruned _ => "creo_stats::broker"
  | released _ | hostFailed _ | hostCrashed _ | statsFailed _ _ | measureCrashed _ | roundTook =>
    "stats collector"
  | interfacesFailed _ _ => "creo_stats::error"
  | entrySkipped _ | registered _ _ _ => "creo_stats::runtime::cgroup"
  | monitoring _ _ | nothingToMonitor => "creo_stats"

/-- What is written. -/
def text (w : Wording) : Event → String
  | skipped s count => s!"subscription {w.subscription s} skipped {count} samples"
  | pruned s => s!"pruning dropped subscription {w.subscription s}"
  | released id => s!"released workload {id.name}: no subscription left"
  | hostFailed cause => s!"collecting system cpu usage: {cause.message}"
  | hostCrashed report => s!"collecting system cpu usage: task failed: {report}"
  | statsFailed id cause => s!"collecting stats for {id.name}: {cause.message}"
  | measureCrashed report => s!"collecting workload stats: task failed: {report}"
  | interfacesFailed id cause => s!"collecting network stats for {id.name}: {cause.message}"
  | roundTook => s!"collection tick took {w.elapsed} nanoseconds"
  | entrySkipped line => s!"skipping cgroup v1 entry `{line}`"
  | registered id pid directory =>
    s!"registered workload {id.name}: pid={pid.toNat}, cgroup={directory.text}"
  | monitoring id pid => s!"Monitoring workload {id.name} (pid {pid.toNat})"
  | nothingToMonitor =>
    "No workloads configured, set `CREO_STATS_WORKLOADS` to `<id>=<pid>,...`"

end Event

end Workmeter
