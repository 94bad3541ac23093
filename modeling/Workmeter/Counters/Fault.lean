/-
  Workmeter — why a control group's stat file cannot be understood.
-/
import Workmeter.Files.Fault
import Workmeter.Text.Decimal

namespace Workmeter

/-- Why a stat file cannot be understood. -/
inductive StatFault where
  /-- A key that may appear once appears again. -/
  | repeatedKey (key : String) (line : Nat)
  /-- The value of a known key is no 64-bit decimal. -/
  | badEntry (key value : String) (line : Nat) (cause : Decimal.Fault)
  /-- The only value of a file is no 64-bit decimal. -/
  | badValue (value : String) (cause : Decimal.Fault)
  | reading (cause : ReadFault)
  deriving DecidableEq, Repr

/-- The wording of a fault. -/
def StatFault.message : StatFault → String
  | repeatedKey key line => s!"duplicate field '{key}' at line {line}"
  | badEntry key value line cause =>
    s!"invalid value for '{key}' at line {line}: '{value}': {cause.message}"
  | badValue value cause => s!"invalid value '{value}': {cause.message}"
  | reading cause => s!"error during I/O: {cause.message}"

end Workmeter
