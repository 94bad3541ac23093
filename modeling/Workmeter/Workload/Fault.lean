/-
  Workmeter — why a workload cannot be registered or measured.

  A workload that is known and not running is a fault like the others here; a
  round of measurements passes over it in silence.
-/
import Workmeter.Cgroup.Entry
import Workmeter.Counters.Fault
import Workmeter.Files.Basic
import Workmeter.Workload.Basic

namespace Workmeter

/-- Why a workload cannot be registered or measured. -/
inductive WorkloadFault where
  | notRunning (id : WorkloadId)
  | unknown (id : WorkloadId)
  | opening (cause : OpenFault)
  /-- A stat file cannot be read or understood. -/
  | badStats (path : Path) (cause : StatFault)
  /-- The control-group file of a process cannot be read. -/
  | unreadable (path : Path) (cause : ReadFault)
  | badEntry (path : Path) (cause : CgroupEntry.Fault)
  /-- The control-group file of a process has no unified entry. -/
  | noUnifiedEntry (path : Path)
  deriving DecidableEq

/-- The wording of a fault. -/
def WorkloadFault.message : WorkloadFault → String
  | notRunning id => s!"workload `{id.name}` is not running"
  | unknown id => s!"unknown workload `{id.name}`"
  | opening cause => cause.message
  | badStats path cause => s!"failed to parse stat file `{path.text}`: {cause.message}"
  | unreadable path cause => s!"failed to read cgroup file `{path.text}`: {cause.message}"
  | badEntry path cause => s!"invalid cgroup file `{path.text}`: {cause.message}"
  | noUnifiedEntry path => s!"no cgroup v2 entry in `{path.text}`"

end Workmeter
