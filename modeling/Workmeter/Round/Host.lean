/-
  Workmeter — a host as the one who is asked in a round.

  A host answers from its files alone: it turns to the hub for nothing, and
  remembers nothing.

  * `hostUsage`: the CPU usage of the host, from the file of its CPU counters;
  * `hostAnswers`: what the host answers about the workloads of a roster.
-/
import Workmeter.Round.Basic
import Workmeter.Workload.Roster

namespace Workmeter

/-- The file of the host's CPU counters. -/
def hostCpuFile (rootfs : Path) : Path := rootfs.join "proc/stat"

/-- The CPU usage of a host; a file that cannot be opened counts as one that
    cannot be read. -/
def hostUsage (files : Files) (path : Path) (hz : Nat) : Except HostCpu.Fault UInt64 :=
  match files.opened path with
  | .error cause => .error (.reading cause)
  | .ok content => HostCpu.usage hz content.lines

/-- What a host answers from its files, with `hz` clock ticks per second. -/
def hostAnswers (files : Files) (roster : Roster) (hz : Nat) : Answers where
  hostUsage := .ofExcept (hostUsage files (hostCpuFile roster.rootfs) hz)
  stats id := .ofExcept (roster.stats files id)
  sandbox := roster.sandbox
  interfaces id := .ofExcept ((hostNetwork files roster.rootfs).interfaces id)

end Workmeter
