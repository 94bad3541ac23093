/-
  Workmeter — the lines of a byte stream.

  A line ends at the byte of `\n` and nowhere else; the last line may lack it.
  A line is read as a whole and has to be valid UTF-8.  A stream is given as
  the list of its lines, each either its text or the fault met when it is read,
  so a reader that stops at a line never depends on the lines after it.

  * `pieces bs`: the lines as bytes, without their ends;
  * `linesOf bs`: the lines as texts or faults.
-/
import Workmeter.Files.Fault

namespace Workmeter.Text

/-- The byte that ends a line. -/
def lineEnd : UInt8 := 10

/-- The bytes of each line, without the line end. -/
def pieces : List UInt8 → List (List UInt8)
  | [] => []
  | b :: bs =>
    if b = lineEnd then [] :: pieces bs
    else match pieces bs with
      | [] => [[b]]
      | l :: ls => (b :: l) :: ls

/-- What reading one line gives. -/
abbrev Line := Except ReadFault (List Char)

/-- The text that the bytes encode. -/
def decode (bs : List UInt8) : Line :=
  match String.fromUTF8? ⟨bs.toArray⟩ with
  | some s => .ok s.toList
  | none => .error .notUtf8

/-- The lines of a stream, in order. -/
def linesOf (bs : List UInt8) : List Line := (pieces bs).map decode

theorem pieces_eq_nil_iff {bs : List UInt8} : pieces bs = [] ↔ bs = [] := by
  cases bs with
  | nil => simp [pieces]
  | cons b bs =>
    simp only [pieces, reduceCtorEq, iff_false]
    split
    · simp
    · split <;> simp

/-- A terminated line stands alone before the lines of the rest. -/
theorem pieces_append {l bs : List UInt8} (h : lineEnd ∉ l) :
    pieces (l ++ lineEnd :: bs) = l :: pieces bs := by
  induction l with
  | nil => simp [pieces]
  | cons b l ih =>
    simp only [List.mem_cons, not_or] at h
    simp [pieces, ih h.2, Ne.symm h.1]

/-- Bytes without a line end are one line, if there are any. -/
theorem pieces_of_not_mem {l : List UInt8} (h : lineEnd ∉ l) (hl : l ≠ []) : pieces l = [l] := by
  induction l with
  | nil => exact absurd rfl hl
  | cons b l ih =>
    simp only [List.mem_cons, not_or] at h
    cases l with
    | nil => simp [pieces, Ne.symm h.1]
    | cons c l => rw [pieces, if_neg (Ne.symm h.1), ih h.2 (by simp)]

end Workmeter.Text
