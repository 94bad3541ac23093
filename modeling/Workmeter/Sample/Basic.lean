/-
  Workmeter — one published sample of a workload.
-/
import Workmeter.Counters.Cpu
import Workmeter.Counters.Memory
import Workmeter.Interfaces
import Workmeter.Workload.Basic

namespace Workmeter

/-- The counters of a control group; a file that does not exist tells nothing. -/
structure WorkloadStats where
  cpu : Option CpuStat := none
  memory : Option MemoryUsage := none
  limit : Option MemoryLimit := none
  deriving DecidableEq, Repr

/-- What the subscribers of a workload receive. -/
structure Sample where
  workload : WorkloadId
  stats : WorkloadStats
  /-- Nanoseconds of CPU time of the host, the same in all samples of a round. -/
  hostUsage : UInt64
  interfaces : List Interface := []
  deriving DecidableEq

end Workmeter
