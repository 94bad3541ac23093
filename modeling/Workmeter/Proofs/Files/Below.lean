/-
  Workmeter — what lies below a path.

  * `Path.isAbsolute_iff`: the texts that begin with a separator;
  * `Path.Below`: a path that continues another one, the root, behind a separator;
  * `Path.below_join`: a text that does not begin with one names such a path;
  * `Files.AgreeBelow`: two file systems that give the same answers below a root.
-/
import Workmeter.Files.Basic

namespace Workmeter

/-! ## Paths -/

namespace Path

variable {root path inner : Path} {text : String}

theorem toList_separator_append (rest : String) :
    ("/" ++ rest).toList = Path.separator :: rest.toList := by
  rw [String.toList_append]
  rfl

theorem isAbsolute_iff : isAbsolute text ↔ ∃ more, text = "/" ++ more := by
  rw [isAbsolute, decide_eq_true_iff]
  constructor
  · intro h
    obtain ⟨rest, hrest⟩ := List.head?_eq_some_iff.1 h
    refine ⟨String.ofList rest, String.toList_inj.1 ?_⟩
    rw [hrest, toList_separator_append, String.toList_ofList]
  · rintro ⟨more, rfl⟩
    rw [toList_separator_append]
    rfl

/-- The path continues the text of the root, behind a separator if the root needs one. -/
def Below (root path : Path) : Prop :=
  ∃ rest, path.text = root.text ++ rest ∧ (root.needsSeparator → isAbsolute rest)

theorem Below.isPrefix (h : root.Below path) : root.text.toList <+: path.text.toList := by
  obtain ⟨rest, hrest, -⟩ := h
  exact ⟨rest.toList, by rw [hrest, String.toList_append]⟩

theorem Below.trans (h : root.Below path) (h' : path.Below inner) : root.Below inner := by
  obtain ⟨rest, hrest, habsolute⟩ := h
  obtain ⟨more, hmore, -⟩ := h'
  refine ⟨rest ++ more, by rw [hmore, hrest, String.append_assoc], fun hneeds => ?_⟩
  obtain ⟨rest', rfl⟩ := isAbsolute_iff.1 (habsolute hneeds)
  exact isAbsolute_iff.2 ⟨rest' ++ more, String.append_assoc⟩

theorem below_join (h : isAbsolute text = false) : root.Below (root.join text) := by
  refine ⟨_, by rw [join_of_relative h, String.append_assoc], fun hneeds => ?_⟩
  rw [if_pos hneeds]
  exact isAbsolute_iff.2 ⟨text, rfl⟩

end Path

/-! ## File systems -/

namespace Files

variable {root directory : Path} {files files' : Files}

/-- The file systems give the same answers for all that is below the root. -/
def AgreeBelow (root : Path) (files files' : Files) : Prop :=
  ∀ path, root.Below path →
    files'.isDirectory path = files.isDirectory path ∧ files'.opened path = files.opened path

theorem AgreeBelow.mono (h : AgreeBelow root files files') (hdirectory : root.Below directory) :
    AgreeBelow directory files files' := fun path hpath => h path (hdirectory.trans hpath)

/-- Answers for paths that lie elsewhere are no answers. -/
theorem agreeBelow_ofAnswers {answers : List (Path × Except ReadFault Content)}
    (h : ∀ e ∈ answers, ¬ root.Below e.1) :
    AgreeBelow root (Files.ofAnswers answers) (Files.ofAnswers []) := by
  intro path hpath
  have hlookup : answers.lookup path = none := List.lookup_eq_none_iff.2 fun e he => by
    rw [bne_iff_ne]
    rintro rfl
    exact h e he hpath
  simp only [Files.ofAnswers, hlookup, List.lookup_nil, and_self]

end Files

end Workmeter
