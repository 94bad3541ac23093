/-
  Workmeter — stat files of keys and values, one pair a line.

  A line with fewer than two words, or whose first word is no known key, has no
  effect; what follows the second word is never looked at.

  * `KeyedFormat α`: the known keys, what each does to the record, and whether
    a key may come back;
  * `KeyedFormat.read`: the record that the lines make, or the first fault from
    the top.
-/
import Workmeter.Counters.Fault
import Workmeter.Text.Blank
import Workmeter.Text.Lines

namespace Workmeter

open Text

/-- A stat file of keys and values that makes a record of type `α`. -/
structure KeyedFormat (α : Type) where
  /-- The record before any line. -/
  blank : α
  /-- Every known key, with what its value does to the record. -/
  keys : List (String × (α → UInt64 → α))
  /-- A key may appear more than once; the last value counts. -/
  repeats : Bool

namespace KeyedFormat

variable {α : Type}

/-- Reads the lines from number `line` on, after lines that set the keys `seen`. -/
def readFrom (format : KeyedFormat α) (line : Nat) (seen : List String) (record : α) :
    List Line → Except StatFault α
  | [] => .ok record
  | .error cause :: _ => .error (.reading cause)
  | .ok text :: rest =>
    match words text with
    | first :: second :: _ =>
      let key := String.ofList first
      match format.keys.lookup key with
      | none => format.readFrom (line + 1) seen record rest
      | some store =>
        match Decimal.readUInt64 second with
        | .error cause => .error (.badEntry key (String.ofList second) line cause)
        | .ok value =>
          if !format.repeats && seen.contains key then .error (.repeatedKey key line)
          else format.readFrom (line + 1) (key :: seen) (store record value) rest
    | _ => format.readFrom (line + 1) seen record rest

/-- The record that the lines make. -/
def read (format : KeyedFormat α) (lines : List Line) : Except StatFault α :=
  format.readFrom 1 [] format.blank lines

end KeyedFormat

end Workmeter
