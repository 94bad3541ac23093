/-
  Workmeter — a run of the program.

  * `Step`, `Monitor.play`: printers subscribe and rounds take place, one after the
    other, over files that do not change;
  * `Monitor.run`: the program from its start: it ends at once if it cannot
    start or has nothing to print, and goes on otherwise.
-/
import Workmeter.Monitor.Basic

namespace Workmeter

/-- How a run stands after its steps. -/
inductive Ending where
  | failed (cause : StartFault)
  | returned
  | running
  deriving DecidableEq

/-- A step of a run. -/
inductive Step where
  /-- The next printers subscribe. -/
  | subscribe (count : Nat)
  | round (course : Course)

/-- What a run did. -/
structure Run where
  ending : Ending
  /-- What each round printed. -/
  printed : List (List Sample) := []
  /-- The workloads of the entries whose printers have subscribed. -/
  subscribed : List WorkloadId := []
  calls : List Call := []
  events : List Event

namespace Monitor

/-- The next steps: the rounds among them, and the program after them. -/
def play (m : Monitor) (files : Files) : List Step → List Tick × Monitor
  | [] => ([], m)
  | .subscribe count :: steps => (m.subscribe count).play files steps
  | .round course :: steps =>
    let tick := m.tick files course
    let (ticks, after) := tick.monitor.play files steps
    (tick :: ticks, after)

/-- The program from its start, for these steps. -/
def run (clockTicks : Nat) (lookup : Settings.Variable → Option String) (files : Files)
    (steps : List Step) : Run :=
  match prepare clockTicks lookup files with
  | (.error cause, events) => { ending := .failed cause, events }
  | (.ok m, events) =>
    if m.isFinished then { ending := .returned, events }
    else
      let (ticks, after) := m.play files steps
      { ending := .running
        printed := ticks.map (·.printed)
        subscribed := after.printers.subscribed.map (·.1)
        calls := ticks.flatMap (·.calls)
        events := events ++ ticks.flatMap (·.events) }

end Monitor

end Workmeter
