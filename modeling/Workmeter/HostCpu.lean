/-
  Workmeter — the CPU time of the host, from its aggregate `cpu` line.

  The first line whose first word is `cpu` decides.  Its first seven counters
  (user, nice, system, idle, iowait, irq, softirq) are summed and converted
  from clock ticks to nanoseconds; what follows them is never looked at.

  * `HostCpu.usage hz lines`: the usage since boot, or a `HostCpu.Fault`;
  * `HostCpu.nanoseconds hz ticks`: the conversion, rounded down and capped at
    the largest 64-bit value (`nanoseconds_toNat`).
-/
import Workmeter.Text.Blank
import Workmeter.Text.Decimal
import Workmeter.Text.Lines

namespace Workmeter.HostCpu

open Text

/-- The counters that are summed. -/
def counterCount : Nat := 7

/-- Why the usage of the host cannot be told. -/
inductive Fault where
  | reading (cause : ReadFault)
  /-- The line has `found` words instead of at least eight. -/
  | tooFewFields (found : Nat)
  | badField (value : String) (cause : Decimal.Fault)
  | noCpuLine
  deriving DecidableEq, Repr

/-- The wording of a fault. -/
def Fault.message : Fault → String
  | reading cause => cause.message
  | tooFewFields found =>
    s!"invalid number of cpu fields: expected at least {counterCount + 1}, found {found}"
  | badField value cause => s!"unable to convert value `{value}` to int: {cause.message}"
  | noCpuLine => "invalid stat format: no `cpu` line found"

/-- The nanoseconds of a second. -/
def nanosPerSecond : Nat := 1000000000

/-- Clock ticks as nanoseconds; a rate of zero counts as one tick per second. -/
def nanoseconds (hz ticks : Nat) : UInt64 :=
  UInt64.ofNat (min (ticks * nanosPerSecond / max hz 1) (UInt64.size - 1))

theorem nanoseconds_toNat (hz ticks : Nat) :
    (nanoseconds hz ticks).toNat = min (ticks * nanosPerSecond / max hz 1) (UInt64.size - 1) := by
  rw [nanoseconds, UInt64.toNat_ofNat_of_lt']
  have : 0 < UInt64.size := by decide
  omega

/-- One counter. -/
def readField (field : List Char) : Except Fault UInt64 :=
  match Decimal.readUInt64 field with
  | .ok ticks => .ok ticks
  | .error cause => .error (.badField (String.ofList field) cause)

/-- All counters together. -/
def total (ticks : List UInt64) : Nat := ticks.foldr (fun count rest => count.toNat + rest) 0

/-- The usage that the words behind `cpu` tell. -/
def ofFields (hz : Nat) (fields : List (List Char)) : Except Fault UInt64 :=
  let counters := fields.take counterCount
  if counters.length < counterCount then .error (.tooFewFields (counters.length + 1))
  else match counters.mapM readField with
    | .ok ticks => .ok (nanoseconds hz (total ticks))
    | .error fault => .error fault

/-- The usage of the host, with `hz` clock ticks per second. -/
def usage (hz : Nat) : List Line → Except Fault UInt64
  | [] => .error .noCpuLine
  | .error cause :: _ => .error (.reading cause)
  | .ok line :: rest =>
    match words line with
    | ['c', 'p', 'u'] :: fields => ofFields hz fields
    | _ => usage hz rest

end Workmeter.HostCpu
