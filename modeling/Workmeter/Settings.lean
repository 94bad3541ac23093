/-
  Workmeter — the settings, read from five variables.

  A variable that is not set leaves its default; an empty directory variable
  counts as not set.  The variables are read in a fixed order and the first one
  with a bad value is blamed.

  * `Settings.read lookup`: the settings, or a `Settings.Fault`;
  * `Settings.readWorkloads`: the workloads of a list `<id>=<pid>,...`, empty
    items left out, in the order of the list.
-/
import Workmeter.Feed.Inbox
import Workmeter.Files.Path
import Workmeter.Text.Blank
import Workmeter.Text.Decimal
import Workmeter.Workload.Basic

namespace Workmeter

open Text

/-- What the program is told. -/
structure Settings where
  /-- Milliseconds between rounds. -/
  interval : UInt64
  /-- The number of unread samples kept for each subscription. -/
  buffer : Nat
  rootfs : Path
  cgroupRoot : Path
  /-- The workloads to monitor, each with a pid. -/
  workloads : List (WorkloadId × UInt32)
  deriving DecidableEq

namespace Settings

/-- The variables that are read. -/
inductive Variable where
  | interval
  | buffer
  | rootfs
  | cgroupRoot
  | workloads
  deriving DecidableEq, Repr

/-- The name of a variable. -/
def Variable.name : Variable → String
  | interval => "CREO_STATS_INTERVAL_MS"
  | buffer => "CREO_STATS_BUFFER"
  | rootfs => "ROOTFS_MOUNT_PATH"
  | cgroupRoot => "CGROUP_ROOT"
  | workloads => "CREO_STATS_WORKLOADS"

/-- Why a value is refused. -/
inductive Reason where
  | notDecimal (cause : Decimal.Fault)
  | zero
  | aboveLargestBuffer
  | noPid
  | badId (cause : WorkloadId.Fault)
  deriving DecidableEq, Repr

/-- The wording of a reason. -/
def Reason.message : Reason → String
  | notDecimal cause => cause.message
  | zero => "must be greater than zero"
  | aboveLargestBuffer => s!"must not exceed {largestBuffer}"
  | noPid => "expected `<id>=<pid>`"
  | badId cause => cause.message

/-- A variable with a bad value. -/
structure Fault where
  var : Variable
  value : String
  reason : Reason
  deriving DecidableEq, Repr

/-- The wording of a fault. -/
def Fault.message (f : Fault) : String :=
  s!"invalid value `{f.value}` for `{f.var.name}`: {f.reason.message}"

/-- The milliseconds between rounds when nothing else is told. -/
def defaultInterval : UInt64 := 1000

/-- The place of the control groups below the root file system. -/
def cgroupMount : String := "sys/fs/cgroup"

/-- A number above zero, blanks around it left out. -/
def readPositive (var : Variable) (raw : String) : Except Fault UInt64 :=
  match Decimal.readUInt64 (trim raw.toList) with
  | .error cause => .error ⟨var, raw, .notDecimal cause⟩
  | .ok n => if n = 0 then .error ⟨var, raw, .zero⟩ else .ok n

/-- A number above zero that a buffer may have. -/
def readBuffer (raw : String) : Except Fault Nat :=
  match readPositive .buffer raw with
  | .error fault => .error fault
  | .ok n =>
    if n.toNat ≤ largestBuffer then .ok n.toNat else .error ⟨.buffer, raw, .aboveLargestBuffer⟩

/-- One item of the list of workloads. -/
def readWorkload (item : List Char) : Except Fault (WorkloadId × UInt32) :=
  let refuse reason := .error ⟨.workloads, String.ofList item, reason⟩
  match cut '=' item with
  | none => refuse .noPid
  | some (id, pid) =>
    match WorkloadId.ofString (String.ofList (trim id)) with
    | .error cause => refuse (.badId cause)
    | .ok id =>
      match Decimal.readUInt32 (trim pid) with
      | .error cause => refuse (.notDecimal cause)
      | .ok pid => .ok (id, pid)

/-- The items between commas, without the blanks around them and without the
    empty ones. -/
def itemsOf (raw : List Char) : List (List Char) :=
  ((raw.splitOn ',').map trim).filter fun item => !item.isEmpty

/-- The workloads of a list. -/
def readWorkloads (raw : String) : Except Fault (List (WorkloadId × UInt32)) :=
  (itemsOf raw.toList).mapM readWorkload

/-- A directory variable; the empty text counts as not set. -/
def readDirectory (value : Option String) (default : Path) : Path :=
  match value with
  | some text => if text.isEmpty then default else ⟨text⟩
  | none => default

/-- The value of a variable, or its default if it is not set. -/
def readOr {α : Type} (value : Option String) (read : String → Except Fault α) (default : α) :
    Except Fault α :=
  match value with
  | some raw => read raw
  | none => .ok default

/-- The settings that the variables tell. -/
def read (lookup : Variable → Option String) : Except Fault Settings := do
  let interval ← readOr (lookup .interval) (readPositive .interval) defaultInterval
  let buffer ← readOr (lookup .buffer) readBuffer defaultBuffer
  let rootfs := readDirectory (lookup .rootfs) ⟨"/"⟩
  let cgroupRoot := readDirectory (lookup .cgroupRoot) (rootfs.join cgroupMount)
  let workloads ← readOr (lookup .workloads) readWorkloads []
  return { interval, buffer, rootfs, cgroupRoot, workloads }

end Settings

end Workmeter
