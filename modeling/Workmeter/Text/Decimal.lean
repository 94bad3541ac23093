/-
  Workmeter — unsigned decimals with an upper bound.

  A decimal is an optional plus sign and one or more ASCII digits, with any
  number of leading zeros.  It is read from the left: the first character that
  is no digit, or by which the value leaves the range, decides why a text is
  refused.

  * `Decimal.read limit s`: the value of `s`, which is below `limit`
    (`Decimal.read_lt`);
  * `Decimal.readUInt64`, `Decimal.readUInt32`: the readings that fit a word.
-/

namespace Workmeter

/-- Why a text is no decimal of the range. -/
inductive Decimal.Fault where
  | empty
  | invalidDigit
  | tooLarge
  deriving DecidableEq, Repr

/-- The wording of a refusal. -/
def Decimal.Fault.message : Decimal.Fault → String
  | empty => "cannot parse integer from empty string"
  | invalidDigit => "invalid digit found in string"
  | tooLarge => "number too large to fit in target type"

namespace Decimal

/-- The value of an ASCII digit. -/
def digit? (c : Char) : Option Nat :=
  if c.isDigit then some (c.toNat - '0'.toNat) else none

/-- Reads digits on, after digits of value `value`. -/
def readDigits (limit : Nat) : Nat → List Char → Except Fault Nat
  | value, [] => .ok value
  | value, c :: cs =>
    match digit? c with
    | none => .error .invalidDigit
    | some d =>
      if 10 * value + d < limit then readDigits limit (10 * value + d) cs else .error .tooLarge

/-- The value of a decimal below `limit`. -/
def read (limit : Nat) : List Char → Except Fault Nat
  | [] => .error .empty
  | '+' :: c :: cs => readDigits limit 0 (c :: cs)
  | cs => readDigits limit 0 cs

theorem readDigits_lt {limit value n : Nat} {s : List Char} (hv : value < limit)
    (h : readDigits limit value s = .ok n) : n < limit := by
  induction s generalizing value with
  | nil => simp only [readDigits, Except.ok.injEq] at h; omega
  | cons c cs ih =>
    simp only [readDigits] at h
    split at h
    · cases h
    · split at h
      · exact ih ‹_› h
      · cases h

theorem read_lt {limit n : Nat} {s : List Char} (hl : 0 < limit) (h : read limit s = .ok n) :
    n < limit := by
  unfold read at h
  split at h
  · cases h
  · exact readDigits_lt hl h
  · exact readDigits_lt hl h

/-- The decimals of 64 bits. -/
def readUInt64 (s : List Char) : Except Fault UInt64 :=
  (read UInt64.size s).map UInt64.ofNat

/-- The decimals of 32 bits. -/
def readUInt32 (s : List Char) : Except Fault UInt32 :=
  (read UInt32.size s).map UInt32.ofNat

end Decimal

end Workmeter
