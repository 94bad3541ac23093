/-
  Workmeter — samples as JSON.

  * `Sample.json`: the value of a sample; what is absent is `null`, and a memory
    limit without a number is a record that holds `null`;
  * `Sample.line`: its compact text, one line.
-/
import Workmeter.Sample.Basic
import Workmeter.Text.Json

namespace Workmeter

/-- A counter as JSON. -/
def counterJson (n : UInt64) : Json := .number n.toNat

/-- A value that may be absent as JSON. -/
def optionJson {α : Type} (json : α → Json) : Option α → Json
  | none => .null
  | some a => json a

/-- CPU accounting as JSON. -/
def CpuStat.json (s : CpuStat) : Json :=
  .record [("usage_usec", counterJson s.usageUsec), ("user_usec", counterJson s.userUsec),
    ("system_usec", counterJson s.systemUsec), ("nr_periods", counterJson s.periods),
    ("nr_throttled", counterJson s.throttledPeriods),
    ("throttled_usec", counterJson s.throttledUsec)]

/-- Memory in use as JSON. -/
def MemoryUsage.json (m : MemoryUsage) : Json :=
  .record [("usage_bytes", counterJson m.bytes)]

/-- A memory limit as JSON. -/
def MemoryLimit.json (m : MemoryLimit) : Json :=
  .record [("limit_bytes", optionJson counterJson m.bytes)]

/-- The counters of a control group as JSON. -/
def WorkloadStats.json (s : WorkloadStats) : Json :=
  .record [("cpu_stat", optionJson CpuStat.json s.cpu),
    ("memory_usage", optionJson MemoryUsage.json s.memory),
    ("memory_limit", optionJson MemoryLimit.json s.limit)]

/-- An interface as JSON. -/
def Interface.json (i : Interface) : Json :=
  .record [("name", .text i.name),
    ("rx_bytes", counterJson i.received.bytes), ("rx_packets", counterJson i.received.packets),
    ("rx_errors", counterJson i.received.errors), ("rx_dropped", counterJson i.received.dropped),
    ("tx_bytes", counterJson i.sent.bytes), ("tx_packets", counterJson i.sent.packets),
    ("tx_errors", counterJson i.sent.errors), ("tx_dropped", counterJson i.sent.dropped)]

/-- A workload as JSON. -/
def WorkloadId.json (id : WorkloadId) : Json := .text id.name

/-- A sample as JSON, its fields in the order in which they are published. -/
def Sample.json (s : Sample) : Json :=
  .record [("workload_id", s.workload.json), ("stats", s.stats.json),
    ("system_usage", counterJson s.hostUsage), ("interfaces", .list (s.interfaces.map Interface.json))]

/-- A sample as one line of text. -/
def Sample.line (s : Sample) : String := s.json.compact

end Workmeter
