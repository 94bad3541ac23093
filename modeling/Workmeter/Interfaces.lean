/-
  Workmeter — network interfaces and the table of their counters.

  The table has two header lines and one line per interface: its name, a colon
  and sixteen counters, of which the first four tell what was received and the
  ninth to twelfth what was sent.  Lines without a colon and the loopback
  interface are passed over.

  * `InterfaceTraffic`, `Interfaces.Row`: the counters of an interface, and a row
    of the table;
  * `Interfaces.read`: the rows that the lines tell, with distinct names
    (`put_names_nodup`), or the first fault from the top;
  * `Interface`, `Interface.ofRow`: the record of an interface, and the one made of
    a row.
-/
import Workmeter.Text.Blank
import Workmeter.Text.Decimal
import Workmeter.Text.Lines

namespace Workmeter

open Text

/-- What passed an interface in one direction. -/
structure Traffic where
  bytes : UInt64 := 0
  packets : UInt64 := 0
  errors : UInt64 := 0
  dropped : UInt64 := 0
  deriving DecidableEq, Repr

/-- What passed an interface since it was made, both ways. -/
structure InterfaceTraffic where
  received : Traffic := {}
  sent : Traffic := {}
  deriving DecidableEq, Repr

/-- The record of a network interface. -/
structure Interface where
  name : String
  received : Traffic := {}
  sent : Traffic := {}
  deriving DecidableEq, Repr

namespace Interfaces

/-- A row of the table: the name of an interface, and its counters. -/
abbrev Row := String × InterfaceTraffic

/-- The counters of an interface line. -/
def columnCount : Nat := 16

/-- The interface by which a host reaches itself. -/
def loopback : List Char := ['l', 'o']

/-- Why a table cannot be understood. -/
inductive Fault where
  | tooFewCounters (name : String) (found : Nat)
  | badCounter (name value : String) (cause : Decimal.Fault)
  | reading (cause : ReadFault)
  deriving DecidableEq, Repr

/-- The wording of a fault. -/
def Fault.message : Fault → String
  | tooFewCounters name found =>
    s!"interface `{name}` has {found} counters, expected {columnCount}"
  | badCounter name value cause =>
    s!"invalid counter `{value}` for interface `{name}`: {cause.message}"
  | reading cause => s!"error during I/O: {cause.message}"

/-- One counter of the interface `name`. -/
def readCounter (name : String) (text : List Char) : Except Fault UInt64 :=
  match Decimal.readUInt64 text with
  | .ok n => .ok n
  | .error cause => .error (.badCounter name (String.ofList text) cause)

/-- Four counters in a row. -/
def readTraffic (name : String) (bytes packets errors dropped : List Char) :
    Except Fault Traffic := do
  let bytes ← readCounter name bytes
  let packets ← readCounter name packets
  let errors ← readCounter name errors
  let dropped ← readCounter name dropped
  return { bytes, packets, errors, dropped }

/-- The counters in the line of the interface `name`. -/
def ofCounters (name : String) : List (List Char) → Except Fault InterfaceTraffic
  | rb :: rp :: re :: rd :: _ :: _ :: _ :: _ :: sb :: sp :: se :: sd :: _ :: _ :: _ :: _ :: _ => do
    let received ← readTraffic name rb rp re rd
    let sent ← readTraffic name sb sp se sd
    return { received, sent }
  | counters => .error (.tooFewCounters name counters.length)

/-- The row of a line, if the line tells an interface that counts. -/
def ofLine (line : List Char) : Except Fault (Option Row) :=
  match cut ':' (trim line) with
  | none => .ok none
  | some (name, counters) =>
    if trim name = loopback then .ok none
    else
      let name := String.ofList (trim name)
      (ofCounters name (words counters)).map fun traffic => some (name, traffic)

/-- Adds a row; one of the same name gives way to it. -/
def put (table : List Row) (row : Row) : List Row :=
  if row.1 ∈ table.map (·.1) then table.map fun other => if other.1 = row.1 then row else other
  else table ++ [row]

/-- Reads the lines behind the header into the table. -/
def readRows (table : List Row) : List Line → Except Fault (List Row)
  | [] => .ok table
  | .error cause :: _ => .error (.reading cause)
  | .ok line :: rest =>
    match ofLine line with
    | .error fault => .error fault
    | .ok none => readRows table rest
    | .ok (some row) => readRows (put table row) rest

/-- The lines behind `n` header lines. -/
def skipHeader : Nat → List Line → Except Fault (List Line)
  | 0, lines => .ok lines
  | _ + 1, [] => .ok []
  | _ + 1, .error cause :: _ => .error (.reading cause)
  | n + 1, .ok _ :: rest => skipHeader n rest

/-- The lines of the header. -/
def headerLines : Nat := 2

/-- The rows that the lines tell, in order of first appearance. -/
def read (lines : List Line) : Except Fault (List Row) :=
  (skipHeader headerLines lines).bind (readRows [])

theorem put_names (table : List Row) (row : Row) :
    (put table row).map (·.1) =
      if row.1 ∈ table.map (·.1) then table.map (·.1) else table.map (·.1) ++ [row.1] := by
  unfold put
  split
  · rw [List.map_map]
    apply List.map_congr_left
    intro other _
    by_cases h : other.1 = row.1 <;> simp [h]
  · simp

theorem put_names_nodup {table : List Row} {row : Row} (h : (table.map (·.1)).Nodup) :
    ((put table row).map (·.1)).Nodup := by
  rw [put_names]
  split
  · exact h
  · rename_i hn
    exact List.nodup_append.2 ⟨h, by simp, fun a ha b hb => by
      rw [List.mem_singleton.1 hb]; exact fun hab => hn (hab ▸ ha)⟩

end Interfaces

/-- The record of the interface of a row. -/
def Interface.ofRow (row : Interfaces.Row) : Interface :=
  { name := row.1, received := row.2.received, sent := row.2.sent }

end Workmeter
