/-
  Workmeter — the program: it monitors the configured workloads of a host and
  prints every sample.

  * `Monitor.prepare`: reads the settings and registers the configured workloads;
    the first failure ends it;
  * `Monitor.subscribe`: the next printers subscribe;
  * `Monitor.answers files`: what the host answers in a round;
  * `Monitor.tick`: one round, and the samples that are printed after it;
  * `Monitor.pathsToPrepare`, `Monitor.pathsToTick`: all that is looked at.
-/
import Workmeter.Monitor.Printers
import Workmeter.Round.Host
import Workmeter.Sample.Json
import Workmeter.Settings

namespace Workmeter

/-- The program between two rounds. -/
structure Monitor where
  settings : Settings
  /-- The clock ticks per second of the host. -/
  clockTicks : Nat
  roster : Roster
  hub : Hub Sample
  printers : Printers

/-- Why the program does not start. -/
inductive StartFault where
  | settings (cause : Settings.Fault)
  | registration (cause : WorkloadFault)
  deriving DecidableEq

/-- The wording of a fault. -/
def StartFault.message : StartFault → String
  | settings cause => cause.message
  | registration cause => cause.message

/-- What a round of the program gave. -/
structure Tick where
  monitor : Monitor
  /-- The samples printed, those of one printer together. -/
  printed : List Sample
  calls : List Call
  events : List Event

namespace Monitor

/-- Registers workloads in order, up to the first failure. -/
def registerAll (files : Files) (roster : Roster) :
    List (WorkloadId × UInt32) → Roster.Registration
  | [] => { result := .ok (), roster }
  | (id, pid) :: rest =>
    let one := roster.register files id pid
    match one.result with
    | .error _ => one
    | .ok () =>
      let all := registerAll files one.roster rest
      { all with events := one.events ++ .monitoring id pid :: all.events }

/-- The program before its first round and the first subscription. -/
def prepare (clockTicks : Nat) (lookup : Settings.Variable → Option String) (files : Files) :
    Except StartFault Monitor × List Event :=
  match Settings.read lookup with
  | .error cause => (.error (.settings cause), [])
  | .ok settings =>
    let host : Roster := { rootfs := settings.rootfs, cgroupRoot := settings.cgroupRoot }
    let registration := registerAll files host settings.workloads
    match registration.result with
    | .error cause => (.error (.registration cause), registration.events)
    | .ok () =>
      (.ok {
        settings, clockTicks
        roster := registration.roster
        hub := { buffer := settings.buffer }
        printers := { waiting := settings.workloads.map (·.1) } },
        registration.events ++ if settings.workloads.isEmpty then [.nothingToMonitor] else [])

/-- The next printers subscribe, so many of them or all that are left. -/
def subscribe (m : Monitor) (count : Nat) : Monitor :=
  let (printers, hub) := (m.printers.subscribing id count).run m.hub
  { m with printers, hub }

/-- Nothing is left to print, now and for ever. -/
def isFinished (m : Monitor) : Bool :=
  m.printers.waiting.isEmpty && m.printers.subscribed.isEmpty

/-- What the host answers in a round of the program. -/
def answers (m : Monitor) (files : Files) : Answers :=
  hostAnswers files m.roster m.clockTicks

/-- Each printer reads what is unread. -/
def printAll (hub : Hub Sample) : List Subscription → List Sample × List Event × Hub Sample
  | [] => ([], [], hub)
  | s :: rest =>
    let (receipts, hub) := hub.receiveAll s
    let (samples, events, hub) := printAll hub rest
    (receipts.items ++ samples, receipts.skipped.map (Event.skipped s.id) ++ events, hub)

/-- One round of the program, after which each printer that has subscribed prints. -/
def tick (m : Monitor) (files : Files) (course : Course) : Tick :=
  let round := course.round (m.answers files) { printers := m.printers } m.hub
  let printers := round.state.printers
  let (printed, events, hub) := printAll round.hub (printers.subscribed.map (·.2))
  { monitor := { m with hub, printers }, printed, calls := round.calls
    events := round.events ++ events }

/-! ## What is looked at -/

/-- The files that are opened before the first round. -/
def pathsToPrepare (s : Settings) : List Path :=
  let roster : Roster := { rootfs := s.rootfs, cgroupRoot := s.cgroupRoot }
  s.workloads.map fun (_, pid) => roster.cgroupFile pid

/-- The files and directories that a round may ask about. -/
def pathsToTick (m : Monitor) : List Path :=
  hostCpuFile m.roster.rootfs :: m.roster.known.flatMap fun (_, w) =>
    w.directory :: Roster.statFiles.map w.directory.join ++
      [processDirectory m.roster.rootfs w.pid, interfaceTable (processDirectory m.roster.rootfs w.pid)]

end Monitor

end Workmeter
