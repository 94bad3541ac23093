/-
  Workmeter — blank characters (the Unicode property White_Space) and what the
  file formats do with them: trim a text, cut it into words, cut it at its
  first separator.

  * `isBlank c`: `c` has the property White_Space;
  * `trimEnd`, `trim`: the text without the blanks at its end, at both ends;
  * `words s`: the maximal blank-free pieces of `s`, in order;
  * `cut sep s`: the texts before and after the first `sep` of `s`
    (`cut_eq_some_iff`, `cut_eq_none_iff`).
-/

namespace Workmeter.Text

/-- The ranges of code points with the property White_Space. -/
def blankRanges : List (Nat × Nat) :=
  [(0x09, 0x0d), (0x20, 0x20), (0x85, 0x85), (0xa0, 0xa0), (0x1680, 0x1680), (0x2000, 0x200a),
    (0x2028, 0x2029), (0x202f, 0x202f), (0x205f, 0x205f), (0x3000, 0x3000)]

/-- The character has the property White_Space. -/
def isBlank (c : Char) : Bool :=
  blankRanges.any fun (first, last) => first ≤ c.toNat && c.toNat ≤ last

/-- The text from its first character that is not blank. -/
def trimStart (s : List Char) : List Char := s.dropWhile isBlank

/-- The text up to its last character that is not blank. -/
def trimEnd (s : List Char) : List Char := (s.reverse.dropWhile isBlank).reverse

/-- The text between its first and its last character that is not blank. -/
def trim (s : List Char) : List Char := trimEnd (trimStart s)

/-- The maximal pieces of the text that hold no blank, in order. -/
def words (s : List Char) : List (List Char) :=
  (s.splitOnP isBlank).filter fun w => !w.isEmpty

/-- The texts before and after the first `sep`, if there is one. -/
def cut (sep : Char) : List Char → Option (List Char × List Char)
  | [] => none
  | c :: cs => if c = sep then some ([], cs) else (cut sep cs).map fun (a, b) => (c :: a, b)

theorem cut_eq_none_iff {sep : Char} {s : List Char} : cut sep s = none ↔ sep ∉ s := by
  induction s with
  | nil => simp [cut]
  | cons c cs ih =>
    by_cases h : c = sep
    · simp [cut, h]
    · simp [cut, h, ih, Ne.symm h]

/-- **The first separator.**  A cut keeps all of the text, and no separator
    stands before the place of the cut. -/
theorem cut_eq_some_iff {sep : Char} {s a b : List Char} :
    cut sep s = some (a, b) ↔ s = a ++ sep :: b ∧ sep ∉ a := by
  induction s generalizing a with
  | nil => simp [cut]
  | cons c cs ih =>
    cases a with
    | nil => by_cases h : c = sep <;> simp [cut, h]
    | cons x xs =>
      by_cases h : c = sep
      · subst h
        simp only [cut, if_true, Option.some.injEq, Prod.mk.injEq, reduceCtorEq, false_and,
          List.cons_append, List.cons.injEq, List.mem_cons, not_or, false_iff]
        rintro ⟨⟨hx, _⟩, hn, _⟩
        exact hn hx
      · simp only [cut, h, if_false, Option.map_eq_some_iff, Prod.exists, Prod.mk.injEq,
          List.cons.injEq, List.cons_append, List.mem_cons, not_or]
        constructor
        · rintro ⟨u, v, huv, ⟨rfl, rfl⟩, rfl⟩
          exact ⟨⟨rfl, (ih.1 huv).1⟩, Ne.symm h, (ih.1 huv).2⟩
        · rintro ⟨⟨rfl, hs⟩, _, hx⟩
          exact ⟨xs, b, ih.2 ⟨hs, hx⟩, ⟨rfl, rfl⟩, rfl⟩

end Workmeter.Text
