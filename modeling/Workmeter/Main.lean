/-
  Workmeter — the command: monitors the workloads named in the environment and
  prints every sample as one line on standard output.

  The files are looked at here and nowhere else; what they answer goes to the
  program as a value.  Errors are reported on standard error.
-/
import Workmeter.Monitor.Basic

namespace Workmeter.Main

/-- The cause behind an error of the operating system. -/
def causeOf : IO.Error → ReadFault
  | .noFileOrDirectory _ _ _ => .notFound
  | .inappropriateType _ 21 _ => .isDirectory
  | .inappropriateType _ _ _ => .notDirectory
  | e => .other (toString e)

/-- What opening the path gives now; a directory can be opened but not read. -/
def look (path : Path) : BaseIO (Except ReadFault Content) := do
  match ← (IO.FS.readBinFile path.text).toBaseIO with
  | .ok bytes => return .ok (.ok bytes.toList)
  | .error e =>
    match causeOf e with
    | .isDirectory => return .ok (.error .isDirectory)
    | cause => return .error cause

/-- The answers for the paths, taken now. -/
def lookAll (paths : List Path) : BaseIO Files := do
  return .ofAnswers (← paths.mapM fun path => return (path, ← look path))

/-- The variables of the environment. -/
def environment : BaseIO (Settings.Variable → Option String) := do
  let all := [.interval, .buffer, .rootfs, .cgroupRoot, .workloads]
  let values ← all.mapM fun v => return (v, ← IO.getEnv (Settings.Variable.name v))
  return fun v => (values.lookup v).join

/-- The number that bytes stand for, the least first. -/
def number (bytes : List UInt8) : Nat := bytes.foldr (fun b n => 256 * n + b.toNat) 0

/-- The clock ticks per second that the system tells a process at its start: the word behind
    the word 17. -/
def clockTicksIn (bytes : List UInt8) : Option Nat :=
  if bytes.length < 16 then none
  else if number (bytes.take 8) = 17 then some (number ((bytes.drop 8).take 8))
  else clockTicksIn (bytes.drop 16)
termination_by bytes.length
decreasing_by simp only [List.length_drop]; omega

/-- The clock ticks per second of this host; where they are not told, there are 100. -/
def clockTicks : BaseIO Nat := do
  match ← (IO.FS.readBinFile "/proc/self/auxv").toBaseIO with
  | .ok bytes => return ((clockTicksIn bytes.toList).filter (0 < ·)).getD 100
  | .error _ => return 100

/-- Reports the errors among the events. -/
def reportErrors (events : List Event) (elapsed : Nat) : IO Unit := do
  for e in events do
    if e.level = .error then
      let text := e.text { elapsed := toString elapsed }
      IO.eprintln s!"[{e.level.name} {e.source}] {text}"

/-- Sleeps for so many milliseconds. -/
def sleepFor (ms : Nat) : BaseIO Unit := do
  let most := 1000000000
  for _ in [0 : ms / most] do
    IO.sleep (UInt32.ofNat most)
  IO.sleep (UInt32.ofNat (ms % most))

/-- Rounds for ever, one per interval. -/
partial def loop (m : Monitor) : IO Unit := do
  let before ← IO.monoNanosNow
  let files ← lookAll m.pathsToTick
  let tick := m.tick files .plain
  let elapsed := (← IO.monoNanosNow) - before
  reportErrors tick.events elapsed
  let out ← IO.getStdout
  for sample in tick.printed do
    out.putStrLn sample.line
  out.flush
  sleepFor (m.settings.interval.toNat - elapsed / 1000000)
  loop tick.monitor

/-- The whole program; the result is its exit status. -/
def start : IO UInt32 := do
  let lookup ← environment
  let paths := match Settings.read lookup with
    | .ok settings => Monitor.pathsToPrepare settings
    | .error _ => []
  let (result, events) := Monitor.prepare (← clockTicks) lookup (← lookAll paths)
  reportErrors events 0
  match result with
  | .error cause =>
    IO.eprintln s!"Error: {cause.message}"
    return 1
  | .ok m =>
    unless m.isFinished do loop (m.subscribe m.printers.waiting.length)
    return 0

end Workmeter.Main

def main : IO UInt32 := Workmeter.Main.start
