/-
  Workmeter — the pieces of a text between separators.

  * `length_splitOn`: there is one more of them than separators;
  * `splitOn_eq_iff`: they are the only texts without a separator that make the text when a
    separator is written between any two of them;
  * `mem_intercalate_iff`: the characters of a text that is made so.
-/
namespace Workmeter.Text

variable {sep : Char} {s piece : List Char} {pieces : List (List Char)}

theorem length_splitOn (sep : Char) (s : List Char) :
    (s.splitOn sep).length = s.count sep + 1 := by
  induction s with
  | nil => rw [List.splitOn_nil]; rfl
  | cons c cs ih =>
    rw [List.splitOn_cons_eq_if_modifyHead, List.count_cons]
    split <;> simp [ih]

theorem not_mem_of_mem_splitOn (h : piece ∈ s.splitOn sep) : sep ∉ piece := by
  induction s generalizing piece with
  | nil =>
    rw [List.splitOn_nil, List.mem_singleton] at h
    exact h ▸ List.not_mem_nil
  | cons c cs ih =>
    obtain ⟨first, rest, hsplit⟩ := List.exists_cons_of_ne_nil (List.splitOn_ne_nil sep cs)
    rw [List.splitOn_cons_eq_if_modifyHead] at h
    rw [hsplit] at h ih
    split at h
    · rcases List.mem_cons.1 h with rfl | h
      · exact List.not_mem_nil
      · exact ih h
    · rename_i hc
      rcases List.mem_cons.1 h with rfl | h
      · have hfirst : sep ∉ first := ih List.mem_cons_self
        exact fun hmem => (List.mem_cons.1 hmem).elim (fun he => hc (by simp [he])) hfirst
      · exact ih (List.mem_cons_of_mem _ h)

/-- **The pieces of a text** are the only way to part it at its separators. -/
theorem splitOn_eq_iff :
    s.splitOn sep = pieces ↔
      pieces ≠ [] ∧ (∀ p ∈ pieces, sep ∉ p) ∧ [sep].intercalate pieces = s := by
  constructor
  · rintro rfl
    exact ⟨List.splitOn_ne_nil sep s, fun p hp => not_mem_of_mem_splitOn hp,
      List.intercalate_splitOn sep⟩
  · rintro ⟨hne, hsep, rfl⟩
    exact List.splitOn_intercalate sep hsep hne

theorem mem_intercalate_iff {c : Char} {between : List Char} :
    c ∈ between.intercalate pieces ↔
      (∃ p ∈ pieces, c ∈ p) ∨ c ∈ between ∧ 2 ≤ pieces.length := by
  induction pieces with
  | nil => simp
  | cons first rest ih =>
    cases rest with
    | nil => simp
    | cons second rest =>
      rw [List.intercalate_cons_cons, List.mem_append, List.mem_append, ih]
      grind

end Workmeter.Text
