/-
  Workmeter — the memory use and the memory limit of a control group, each
  the only value of its file.

  Only the first line counts, without the blanks around it; a file without a
  line holds the empty text.

  * `MemoryUsage.ofText`, `MemoryLimit.ofText`: the value that a text is;
  * `MemoryUsage.read`, `MemoryLimit.read`: the value of a file.
-/
import Workmeter.Counters.Fault
import Workmeter.Text.Blank
import Workmeter.Text.Lines

namespace Workmeter

open Text

/-- The memory that a control group uses. -/
structure MemoryUsage where
  bytes : UInt64
  deriving DecidableEq, Repr

/-- The memory that a control group may use; no number stands for no limit. -/
structure MemoryLimit where
  bytes : Option UInt64
  deriving DecidableEq, Repr

/-- The number that a text is. -/
def readValue (text : List Char) : Except StatFault UInt64 :=
  match Decimal.readUInt64 text with
  | .ok n => .ok n
  | .error cause => .error (.badValue (String.ofList text) cause)

/-- The text of the first line, without the blanks around it. -/
def soleValue : List Line → Except StatFault (List Char)
  | [] => .ok []
  | .ok line :: _ => .ok (trim line)
  | .error cause :: _ => .error (.reading cause)

namespace MemoryUsage

/-- The use that a text tells. -/
def ofText (text : List Char) : Except StatFault MemoryUsage :=
  (readValue text).map MemoryUsage.mk

/-- The use that the lines tell. -/
def read (lines : List Line) : Except StatFault MemoryUsage :=
  (soleValue lines).bind ofText

end MemoryUsage

namespace MemoryLimit

/-- The text of a control group without a limit. -/
def unlimited : List Char := ['m', 'a', 'x']

/-- The limit that a text tells. -/
def ofText (text : List Char) : Except StatFault MemoryLimit :=
  if text = unlimited then .ok ⟨none⟩ else (readValue text).map fun n => ⟨some n⟩

/-- The limit that the lines tell. -/
def read (lines : List Line) : Except StatFault MemoryLimit :=
  (soleValue lines).bind ofText

end MemoryLimit

end Workmeter
