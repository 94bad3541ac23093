/-
  Workmeter — the entries of a process's control-group file.

  An entry is written `<hierarchy>:<controllers>:<path>`.  The hierarchy is read
  before the separators are counted, so it is blamed first.

  * `CgroupEntry.ofLine`: the entry of a line, trailing blanks left out;
  * `CgroupEntry.isUnified`: the entry of the unified hierarchy, number zero and
    without controllers.
-/
import Workmeter.Text.Blank
import Workmeter.Text.Decimal

namespace Workmeter

open Text

/-- An entry of a control-group file. -/
structure CgroupEntry where
  hierarchy : UInt32
  controllers : List String
  path : String
  deriving DecidableEq, Repr

namespace CgroupEntry

/-- Why a line is no entry; each cause carries the line. -/
inductive Fault where
  | badFormat (line : String)
  | badHierarchy (line : String)
  | tooManySeparators (line : String)
  deriving DecidableEq, Repr

/-- The wording of a fault. -/
def Fault.message : Fault → String
  | badFormat line => s!"invalid cgroup line format: {line}"
  | badHierarchy line => s!"invalid hierarchy id in cgroup line: {line}"
  | tooManySeparators line => s!"too many separators: {line}"

/-- The names between commas; the empty text names none. -/
def controllersOf (text : List Char) : List String :=
  if text.isEmpty then [] else (text.splitOn ',').map String.ofList

/-- The entry of a line. -/
def ofLine (line : List Char) : Except Fault CgroupEntry :=
  let text := trimEnd line
  match text.splitOn ':' with
  | [] => .error (.badFormat (String.ofList text))
  | first :: rest =>
    match Decimal.readUInt32 first with
    | .error _ => .error (.badHierarchy (String.ofList text))
    | .ok hierarchy =>
      match rest with
      | [controllers, path] => .ok ⟨hierarchy, controllersOf controllers, String.ofList path⟩
      | [] | [_] => .error (.badFormat (String.ofList text))
      | _ => .error (.tooManySeparators (String.ofList text))

/-- The entry belongs to the unified hierarchy. -/
def isUnified (e : CgroupEntry) : Bool := e.hierarchy = 0 && e.controllers.isEmpty

end CgroupEntry

end Workmeter
