/-
  Workmeter — why a file cannot be opened or read.

  * `ReadFault`: the causes, `ReadFault.message` their wording;
  * `ReadFault.isNotFound`: the file, or a directory above it, does not exist.
    No other cause counts as absence.
-/

namespace Workmeter

/-- Why a file cannot be opened or read. -/
inductive ReadFault where
  /-- Nothing has that name. -/
  | notFound
  /-- A name above the last one belongs to a file. -/
  | notDirectory
  /-- A directory has no bytes to read. -/
  | isDirectory
  | nameTooLong
  | nulInName
  /-- A line that was read is not valid UTF-8. -/
  | notUtf8
  /-- Any other cause, in the words of its reporter. -/
  | other (text : String)
  deriving DecidableEq, Repr

namespace ReadFault

/-- The wording of a cause; those of the operating system carry its number. -/
def message : ReadFault → String
  | notFound => "No such file or directory (os error 2)"
  | notDirectory => "Not a directory (os error 20)"
  | isDirectory => "Is a directory (os error 21)"
  | nameTooLong => "File name too long (os error 36)"
  | nulInName => "file name contained an unexpected NUL byte"
  | notUtf8 => "stream did not contain valid UTF-8"
  | other text => text

/-- The file does not exist. -/
def isNotFound : ReadFault → Bool
  | notFound => true
  | _ => false

end ReadFault

end Workmeter
