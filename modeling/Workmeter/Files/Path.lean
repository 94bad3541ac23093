/-
  Workmeter — paths as texts.

  A path is kept as it is written: nothing is normalised, and joining works on
  the text alone.

  * `Path.join a b`: the path `b` as seen from `a`; an absolute `b` stands for
    itself (`join_of_absolute`), any other is appended behind one separator
    (`join_of_relative`);
  * `Path.components`: the pieces between separators, empty ones included.
-/

namespace Workmeter

/-- A path, as written. -/
structure Path where
  text : String
  deriving DecidableEq, Repr

namespace Path

/-- The character between the names of a path. -/
def separator : Char := '/'

/-- The text starts at the top of the file system. -/
def isAbsolute (b : String) : Bool := b.toList.head? = some separator

/-- The text needs a separator before a further name. -/
def needsSeparator (a : Path) : Bool :=
  match a.text.toList.getLast? with
  | some c => c ≠ separator
  | none => false

/-- The path `b` as seen from `a`. -/
def join (a : Path) (b : String) : Path :=
  if isAbsolute b then ⟨b⟩
  else if a.needsSeparator then ⟨a.text ++ "/" ++ b⟩
  else ⟨a.text ++ b⟩

/-- The pieces of the text between separators. -/
def components (a : Path) : List String :=
  (a.text.toList.splitOn separator).map String.ofList

theorem join_of_absolute {a : Path} {b : String} (h : isAbsolute b = true) : a.join b = ⟨b⟩ := by
  simp [join, h]

theorem join_of_relative {a : Path} {b : String} (h : isAbsolute b = false) :
    (a.join b).text = a.text ++ (if a.needsSeparator then "/" else "") ++ b := by
  cases hs : a.needsSeparator <;> simp [join, h, hs]

end Path

end Workmeter
