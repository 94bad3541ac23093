/-
  Workmeter — network namespaces and the interfaces in them.

  * `Network`: whoever finds a sandbox by its name; `Network.interfaces` asks
    the sandbox it finds for its table, and makes a record of each row;
  * `hostNetwork files rootfs`: the sandboxes of a host, each named by the pid
    of a process in it.
-/
import Workmeter.Files.Basic
import Workmeter.Interfaces
import Workmeter.Workload.Basic

namespace Workmeter

/-- Why the interfaces of a sandbox cannot be told. -/
inductive SandboxFault where
  | notFound (sandbox : SandboxId)
  | invalidId (sandbox : SandboxId)
  | opening (cause : OpenFault)
  | badTable (sandbox : SandboxId) (cause : Interfaces.Fault)
  deriving DecidableEq, Repr

/-- The wording of a fault. -/
def SandboxFault.message : SandboxFault → String
  | notFound sandbox => s!"sandbox `{sandbox.name}` not found"
  | invalidId sandbox => s!"invalid sandbox id `{sandbox.name}`"
  | opening cause => cause.message
  | badTable sandbox cause =>
    s!"failed to read statistics of sandbox `{sandbox.name}`: {cause.message}"

/-- A sandbox, as far as it is asked: the table of its interfaces, or why this cannot be told. -/
structure Sandbox where
  table : Except SandboxFault (List Interfaces.Row)

/-- Finds sandboxes by name. -/
structure Network where
  sandbox : SandboxId → Except SandboxFault Sandbox

/-- The interfaces of the sandbox of that name. -/
def Network.interfaces (network : Network) (id : SandboxId) :
    Except SandboxFault (List Interface) :=
  match network.sandbox id with
  | .error fault => .error fault
  | .ok sandbox =>
    match sandbox.table with
    | .error fault => .error fault
    | .ok table => .ok (table.map Interface.ofRow)

/-- The directory of a process. -/
def processDirectory (rootfs : Path) (pid : UInt32) : Path :=
  rootfs.join s!"proc/{pid.toNat}"

/-- The interface table of the process with that directory. -/
def interfaceTable (directory : Path) : Path := directory.join "net/dev"

/-- The sandbox `id` of the process with that directory. -/
def processSandbox (files : Files) (id : SandboxId) (directory : Path) : Sandbox where
  table :=
    match files.openFile (interfaceTable directory) with
    | .error fault => .error (.opening fault)
    | .ok content =>
      match Interfaces.read content.lines with
      | .ok table => .ok table
      | .error fault => .error (.badTable id fault)

/-- The sandboxes of a host. -/
def hostNetwork (files : Files) (rootfs : Path) : Network where
  sandbox id :=
    match Decimal.readUInt32 id.name.toList with
    | .error _ => .error (.invalidId id)
    | .ok pid =>
      let directory := processDirectory rootfs pid
      if files.isDirectory directory then .ok (processSandbox files id directory)
      else .error (.notFound id)

end Workmeter
