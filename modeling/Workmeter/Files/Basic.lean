/-
  Workmeter — what the library asks of a file system.

  A `Files` value answers two questions about a path: is it a directory, and
  what does opening it give.  An open file is its whole content, or the fault
  that reading it meets (a directory can be opened but not read).

  * `Files.openFile`: the content, or an `OpenFault` that names the path;
  * `Files.openOptional`: the same, but an absent file is no fault;
  * `Content.lines`: the lines of an open file;
  * `Files.ofAnswers`: a file system known from the answers for some paths.
-/
import Workmeter.Files.Path
import Workmeter.Text.Lines

namespace Workmeter

/-- What an open file holds: its bytes, or the fault of reading it. -/
abbrev Content := Except ReadFault (List UInt8)

/-- The lines of an open file; a file that cannot be read fails at its first line. -/
def Content.lines : Content → List Text.Line
  | .ok bytes => Text.linesOf bytes
  | .error fault => [.error fault]

/-- The answers of a file system at one moment. -/
structure Files where
  isDirectory : Path → Bool
  opened : Path → Except ReadFault Content

/-- A file that cannot be opened. -/
structure OpenFault where
  path : Path
  cause : ReadFault
  deriving DecidableEq, Repr

/-- The wording of an open fault. -/
def OpenFault.message (f : OpenFault) : String :=
  s!"failed to open file `{f.path.text}`: {f.cause.message}"

/-- The file does not exist. -/
def OpenFault.isNotFound (f : OpenFault) : Bool := f.cause.isNotFound

namespace Files

/-- The file system of which only these paths are known; a path is a directory
    if opening it gives one, and a path that is not known does not exist. -/
def ofAnswers (answers : List (Path × Except ReadFault Content)) : Files where
  isDirectory path := answers.lookup path matches some (.ok (.error .isDirectory))
  opened path := (answers.lookup path).getD (.error .notFound)

/-- Opens a file. -/
def openFile (files : Files) (path : Path) : Except OpenFault Content :=
  match files.opened path with
  | .ok content => .ok content
  | .error cause => .error ⟨path, cause⟩

/-- Opens a file that may be absent. -/
def openOptional (files : Files) (path : Path) : Except OpenFault (Option Content) :=
  match files.openFile path with
  | .ok content => .ok (some content)
  | .error fault => if fault.isNotFound then .ok none else .error fault

end Files

end Workmeter
