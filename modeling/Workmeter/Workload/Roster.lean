/-
  Workmeter — the workloads that are known, and where their counters are.

  A workload is known from the registration of a process of it.  Its control
  group is named by the first unified entry of the process's control-group file;
  the lines behind that entry are never looked at.

  * `Roster.register`: a registration by pid, and the roster it leaves;
  * `Roster.enter`, `Roster.remove`: a registration with a known directory, and
    its end (`find?_enter`, `find?_remove`);
  * `Roster.stats`, `Roster.sandbox`: what is known of a workload;
  * `Roster.statsAmid`: its counters while the files change.
-/
import Workmeter.Association
import Workmeter.Event
import Workmeter.Sample.Basic

namespace Workmeter

/-- Where the counters of a known workload are. -/
structure Monitored where
  pid : UInt32
  directory : Path
  deriving DecidableEq, Repr

/-- The known workloads of a host. -/
structure Roster where
  rootfs : Path
  cgroupRoot : Path
  known : List (WorkloadId × Monitored) := []

namespace Roster

/-! ## Registration -/

/-- What a registration came to, and the roster it leaves. -/
structure Registration where
  result : Except WorkloadFault Unit
  roster : Roster
  events : List Event := []

/-- What is known of a workload. -/
def find? (r : Roster) (id : WorkloadId) : Option Monitored := r.known.lookup id

/-- The workload is known no more. -/
def remove (r : Roster) (id : WorkloadId) : Roster :=
  { r with known := r.known.filter fun e => e.1 ≠ id }

/-- The workload is known by this, whatever was known of it before. -/
def enter (r : Roster) (id : WorkloadId) (m : Monitored) : Roster :=
  { r.remove id with known := (id, m) :: (r.remove id).known }

/-- The control-group file of a process. -/
def cgroupFile (r : Roster) (pid : UInt32) : Path :=
  r.rootfs.join s!"proc/{pid.toNat}/cgroup"

/-- The lines passed over before the first unified entry, and that entry. -/
def firstUnified (path : Path) :
    List Text.Line → List String × Except WorkloadFault CgroupEntry
  | [] => ([], .error (.noUnifiedEntry path))
  | .error cause :: _ => ([], .error (.unreadable path cause))
  | .ok line :: rest =>
    match CgroupEntry.ofLine line with
    | .error cause => ([], .error (.badEntry path cause))
    | .ok entry =>
      if entry.isUnified then ([], .ok entry)
      else
        let (passed, found) := firstUnified path rest
        (String.ofList (Text.trim line) :: passed, found)

/-- The text without one separator at its start. -/
def withoutSeparator (text : String) : String :=
  match text.toList with
  | c :: rest => if c = Path.separator then String.ofList rest else text
  | [] => text

/-- The directory of a control group. -/
def directoryOf (r : Roster) (entry : CgroupEntry) : Path :=
  r.cgroupRoot.join (withoutSeparator entry.path)

/-- Registers the workload of a process. -/
def register (r : Roster) (files : Files) (id : WorkloadId) (pid : UInt32) : Registration :=
  let path := r.cgroupFile pid
  match files.openFile path with
  | .error fault => { result := .error (.opening fault), roster := r }
  | .ok content =>
    match firstUnified path content.lines with
    | (passed, .error fault) =>
      { result := .error fault, roster := r, events := passed.map .entrySkipped }
    | (passed, .ok entry) =>
      let directory := r.directoryOf entry
      { result := .ok (), roster := r.enter id ⟨pid, directory⟩
        events := passed.map .entrySkipped ++ [.registered id pid directory] }

/-! ## Counters -/

/-- One stat file of a control group, if it exists. -/
def readStat {α : Type} (files : Files) (directory : Path) (name : String)
    (read : List Text.Line → Except StatFault α) : Except WorkloadFault (Option α) :=
  let path := directory.join name
  match files.openOptional path with
  | .error fault => .error (.opening fault)
  | .ok none => .ok none
  | .ok (some content) =>
    match read content.lines with
    | .ok a => .ok (some a)
    | .error fault => .error (.badStats path fault)

/-- The file of the CPU accounting. -/
def cpuFile : String := "cpu.stat"

/-- The file of the memory in use. -/
def memoryFile : String := "memory.current"

/-- The file of the memory limit. -/
def limitFile : String := "memory.max"

/-- The stat files of a control group. -/
def statFiles : List String := [cpuFile, memoryFile, limitFile]

/-- The counters in the directory of a control group. -/
def readStats (files : Files) (directory : Path) : Except WorkloadFault WorkloadStats := do
  let cpu ← readStat files directory cpuFile CpuStat.read
  let memory ← readStat files directory memoryFile MemoryUsage.read
  let limit ← readStat files directory limitFile MemoryLimit.read
  return { cpu, memory, limit }

/-- The counters of a workload. -/
def stats (r : Roster) (files : Files) (id : WorkloadId) : Except WorkloadFault WorkloadStats :=
  match r.find? id with
  | none => .error (.unknown id)
  | some m =>
    if files.isDirectory m.directory then readStats files m.directory
    else .error (.notRunning id)

/-- The counters of a workload while the files change: as they are when its directory is looked
    for, while its stat files are read, and after that.  A failure is told only if the directory
    is still there. -/
def statsAmid (r : Roster) (before during after : Files) (id : WorkloadId) :
    Except WorkloadFault WorkloadStats :=
  match r.find? id with
  | none => .error (.unknown id)
  | some m =>
    if before.isDirectory m.directory then
      match readStats during m.directory with
      | .ok s => .ok s
      | .error fault =>
        if after.isDirectory m.directory then .error fault else .error (.notRunning id)
    else .error (.notRunning id)

/-- The sandbox of a workload: its process. -/
def sandbox (r : Roster) (id : WorkloadId) : Option SandboxId :=
  (r.find? id).map fun m => ⟨toString m.pid.toNat⟩

theorem find?_remove (r : Roster) (id other : WorkloadId) :
    (r.remove id).find? other = if other = id then none else r.find? other := by
  unfold find? remove
  rw [Association.lookup_filter fun t => t ≠ id]
  by_cases ho : other = id <;> simp [ho]

theorem find?_enter (r : Roster) (id other : WorkloadId) (m : Monitored) :
    (r.enter id m).find? other = if other = id then some m else r.find? other := by
  by_cases h : other = id
  · simp [enter, find?, h]
  · have ho : (other == id) = false := by simpa using h
    have hr := find?_remove r id other
    simp only [if_neg h] at hr ⊢
    rw [← hr]
    simp [enter, find?, List.lookup_cons, ho]

end Roster

end Workmeter
