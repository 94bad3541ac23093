/-
  Workmeter — the CPU accounting of a control group.
-/
import Workmeter.Counters.Keyed

namespace Workmeter

/-- The CPU accounting of a control group since its creation. -/
structure CpuStat where
  /-- Microseconds of CPU time, in user space and in the kernel together. -/
  usageUsec : UInt64 := 0
  userUsec : UInt64 := 0
  systemUsec : UInt64 := 0
  /-- Enforcement periods that have passed. -/
  periods : UInt64 := 0
  /-- Periods in which the group was throttled. -/
  throttledPeriods : UInt64 := 0
  throttledUsec : UInt64 := 0
  deriving DecidableEq, Repr

namespace CpuStat

/-- The six keys of the file, each given once. -/
def format : KeyedFormat CpuStat where
  blank := {}
  keys :=
    [("usage_usec", fun s v => { s with usageUsec := v }),
      ("user_usec", fun s v => { s with userUsec := v }),
      ("system_usec", fun s v => { s with systemUsec := v }),
      ("nr_periods", fun s v => { s with periods := v }),
      ("nr_throttled", fun s v => { s with throttledPeriods := v }),
      ("throttled_usec", fun s v => { s with throttledUsec := v })]
  repeats := false

/-- The accounting that the lines tell; a key that is missing counts zero. -/
def read (lines : List Text.Line) : Except StatFault CpuStat := format.read lines

end CpuStat

end Workmeter
