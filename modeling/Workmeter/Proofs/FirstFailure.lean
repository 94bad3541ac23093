/-
  Workmeter — the first failure in a list whose entries are taken one after the other.

  * `Clean fails l`: no entry of `l` fails, given those before it;
  * `FailsFirst fails l fault`: an entry of `l` fails so, and none before it;
  * `clean_or_failsFirst`: one of the two is the case;
  * `all_or_first`, `append_of_skipped`, `failsFirst_cons_iff`: entries that stand each for
    itself;
  * `bind_eq_ok_iff`, `bind_eq_error_iff`: what becomes of two readings, one after the other;
  * `mapM_eq_ok_iff`, `mapM_eq_error_iff`: what becomes of a list whose entries are all read;
  * `Scan`: a reading of a list that goes on behind entries that do not fail, and stops at
    one that does;
  * `Scan.eq_error_iff`, `Scan.exists_ok_iff`, `Scan.inv_of_ok`: what such a reading gives.
-/
import Mathlib.Data.List.Forall2
import Mathlib.Data.List.Induction

namespace Workmeter

variable {α β φ : Type} {fails : List α → α → φ → Prop} {past l : List α} {a : α}
  {fault : φ}

/-- None of the entries fails. -/
def Clean (fails : List α → α → φ → Prop) (l : List α) : Prop :=
  ∀ before a after, l = before ++ a :: after → ∀ fault, ¬ fails before a fault

/-- One of the entries fails with this fault, and none before it fails. -/
def FailsFirst (fails : List α → α → φ → Prop) (l : List α) (fault : φ) : Prop :=
  ∃ before a after, l = before ++ a :: after ∧ Clean fails before ∧ fails before a fault

theorem clean_nil : Clean fails [] := fun before a after he => by simp at he

theorem clean_concat_iff :
    Clean fails (past ++ [a]) ↔ Clean fails past ∧ ∀ fault, ¬ fails past a fault := by
  constructor
  · intro h
    exact ⟨fun before b after he => h before b (after ++ [a]) (by simp [he]), h past a [] rfl⟩
  · rintro ⟨hpast, ha⟩ before b after he
    rcases List.eq_nil_or_concat after with rfl | ⟨after, last, rfl⟩
    · obtain ⟨rfl, hlast⟩ := List.append_inj' he rfl
      obtain rfl := List.singleton_inj.1 hlast
      exact ha
    · have he' : past ++ [a] = (before ++ b :: after) ++ [last] := by simpa using he
      exact hpast before b after (List.append_inj' he' rfl).1

/-- **No entry fails, or one does first.** -/
theorem clean_or_failsFirst (fails : List α → α → φ → Prop) (l : List α) :
    Clean fails l ∨ ∃ fault, FailsFirst fails l fault := by
  induction l using List.reverseRecOn with
  | nil => exact .inl clean_nil
  | append_singleton past a ih =>
    obtain hpast | ⟨fault, before, b, after, rfl, hfails⟩ := ih
    · by_cases ha : ∃ fault, fails past a fault
      · obtain ⟨fault, hfails⟩ := ha
        exact .inr ⟨fault, past, a, [], rfl, hpast, hfails⟩
      · exact .inl (clean_concat_iff.2 ⟨hpast, fun fault hfails => ha ⟨fault, hfails⟩⟩)
    · exact .inr ⟨fault, before, b, after ++ [a], by simp, hfails⟩

/-- All entries have the property, or there is a first one that has not. -/
theorem all_or_first (p : α → Prop) (l : List α) :
    (∀ a ∈ l, p a) ∨
      ∃ before a after, l = before ++ a :: after ∧ (∀ b ∈ before, p b) ∧ ¬ p a := by
  have hall : ∀ l, Clean (fun _ a (_ : Unit) => ¬ p a) l → ∀ a ∈ l, p a := by
    intro l hclean a ha
    obtain ⟨before, after, rfl⟩ := List.append_of_mem ha
    exact Classical.not_not.1 (hclean before a after rfl ())
  obtain hclean | ⟨-, before, a, after, he, hclean, ha⟩ :=
    clean_or_failsFirst (fun _ a (_ : Unit) => ¬ p a) l
  · exact .inl (hall l hclean)
  · exact .inr ⟨before, a, after, he, hall before hclean, ha⟩

/-- A function of lists that skips some entries skips all of them at the start. -/
theorem append_of_skipped {p : α → Prop} {f : List α → β}
    (hskip : ∀ a, p a → ∀ l, f (a :: l) = f l) {before : List α} (h : ∀ a ∈ before, p a)
    (l : List α) : f (before ++ l) = f l := by
  induction before with
  | nil => rfl
  | cons a before ih =>
    obtain ⟨ha, hbefore⟩ := List.forall_mem_cons.1 h
    rw [List.cons_append, hskip a ha, ih hbefore]

/-! ## Entries that stand each for itself -/

section
variable {p : α → φ → Prop}

theorem clean_iff_forall : Clean (fun _ => p) l ↔ ∀ a ∈ l, ∀ fault, ¬ p a fault := by
  constructor
  · intro hclean a ha
    obtain ⟨before, after, rfl⟩ := List.append_of_mem ha
    exact hclean before a after rfl
  · rintro h before a after rfl
    exact h a (by simp)

theorem failsFirst_iff_exists :
    FailsFirst (fun _ => p) l fault ↔
      ∃ before a after, l = before ++ a :: after ∧ (∀ b ∈ before, ∀ fault, ¬ p b fault) ∧
        p a fault := by
  simp only [FailsFirst, clean_iff_forall]

theorem not_failsFirst_nil : ¬ FailsFirst fails [] fault := by
  rintro ⟨before, a, after, he, -⟩
  simp at he

theorem failsFirst_cons_iff :
    FailsFirst (fun _ => p) (a :: l) fault ↔
      p a fault ∨ (∀ fault, ¬ p a fault) ∧ FailsFirst (fun _ => p) l fault := by
  simp only [failsFirst_iff_exists]
  constructor
  · rintro ⟨_ | ⟨b, before⟩, c, after, he, hbefore, hc⟩
    · cases he; exact .inl hc
    · cases he
      obtain ⟨hb, hbefore⟩ := List.forall_mem_cons.1 hbefore
      exact .inr ⟨hb, before, c, after, rfl, hbefore, hc⟩
  · rintro (ha | ⟨ha, before, b, after, rfl, hbefore, hb⟩)
    · exact ⟨[], a, l, rfl, nofun, ha⟩
    · exact ⟨a :: before, b, after, rfl, List.forall_mem_cons.2 ⟨ha, hbefore⟩, hb⟩

end

/-! ## Readings one after the other -/

section
variable {x : Except φ α} {f : α → Except φ β} {b : β} {bs : List β}

theorem forall_ne_error_iff : (∀ fault, ¬ x = .error fault) ↔ ∃ a, x = .ok a := by
  cases x <;> simp

theorem bind_eq_ok_iff : x >>= f = .ok b ↔ ∃ a, x = .ok a ∧ f a = .ok b := by
  cases x <;> simp [bind, Except.bind]

theorem bind_eq_error_iff :
    x >>= f = .error fault ↔ x = .error fault ∨ ∃ a, x = .ok a ∧ f a = .error fault := by
  cases x <;> simp [bind, Except.bind]

/-- **A list is read** if each of its entries is. -/
theorem mapM_eq_ok_iff : l.mapM f = .ok bs ↔ List.Forall₂ (fun a b => f a = .ok b) l bs := by
  induction l generalizing bs with
  | nil => simp [pure, Except.pure, eq_comm]
  | cons a l ih =>
    simp only [List.mapM_cons, List.forall₂_cons_left_iff, bind_eq_ok_iff, ih, pure, Except.pure,
      Except.ok.injEq]
    constructor
    · rintro ⟨b, hb, bs, hbs, rfl⟩
      exact ⟨b, bs, hb, hbs, rfl⟩
    · rintro ⟨b, bs, hb, hbs, rfl⟩
      exact ⟨b, hb, bs, hbs, rfl⟩

theorem exists_mapM_iff : (∃ bs, l.mapM f = .ok bs) ↔ ∀ a ∈ l, ∃ b, f a = .ok b := by
  simp only [mapM_eq_ok_iff]
  induction l with
  | nil => simp
  | cons a l ih => simp [List.forall₂_cons_left_iff, ← ih]

/-- **It is not read** for the first of its entries that is not. -/
theorem mapM_eq_error_iff :
    l.mapM f = .error fault ↔ FailsFirst (fun _ a fault => f a = .error fault) l fault := by
  induction l with
  | nil => simp [pure, Except.pure, not_failsFirst_nil]
  | cons a l ih =>
    rw [List.mapM_cons, failsFirst_cons_iff, ← ih]
    cases ha : f a with
    | error fault => simp [bind, Except.bind]
    | ok b => cases l.mapM f <;> simp [bind, Except.bind, pure, Except.pure]

end

/-! ## Readings that stop at the first failure -/

/-- A reading of a list, entry by entry.  Behind the entries `past` it goes on as `next`, for
    some `next` with `inv past next`. -/
structure Scan (fails : List α → α → φ → Prop) (inv : List α → (List α → Except φ β) → Prop)
    (read : List α → Except φ β) : Prop where
  start : inv [] read
  /-- An entry that does not fail takes the reading on. -/
  step {past : List α} {next : List α → Except φ β} {a : α} : inv past next →
    (∀ fault, ¬ fails past a fault) →
    ∃ next', inv (past ++ [a]) next' ∧ ∀ rest, next (a :: rest) = next' rest
  /-- An entry that fails ends it. -/
  stop {past : List α} {next : List α → Except φ β} {a : α} {fault : φ} : inv past next →
    fails past a fault → ∀ rest, next (a :: rest) = .error fault
  /-- The end of the list is no failure. -/
  finish {past : List α} {next : List α → Except φ β} : inv past next → ∃ b, next [] = .ok b

namespace Scan

variable {inv : List α → (List α → Except φ β) → Prop} {read : List α → Except φ β}

/-- **A reading goes on** behind entries that do not fail. -/
theorem goes_on (h : Scan fails inv read) (hclean : Clean fails past) :
    ∃ next, inv past next ∧ ∀ rest, read (past ++ rest) = next rest := by
  induction past using List.reverseRecOn with
  | nil => exact ⟨read, h.start, fun rest => rfl⟩
  | append_singleton past a ih =>
    obtain ⟨hpast, ha⟩ := clean_concat_iff.1 hclean
    obtain ⟨next, hinv, hread⟩ := ih hpast
    obtain ⟨next', hinv', hstep⟩ := h.step hinv ha
    refine ⟨next', hinv', fun rest => ?_⟩
    rw [List.append_assoc, List.singleton_append, hread, hstep]

theorem ok_of_clean (h : Scan fails inv read) (hclean : Clean fails l) :
    ∃ next b, inv l next ∧ next [] = .ok b ∧ read l = .ok b := by
  obtain ⟨next, hinv, hread⟩ := h.goes_on hclean
  obtain ⟨b, hb⟩ := h.finish hinv
  exact ⟨next, b, hinv, hb, by rw [← List.append_nil l, hread, hb]⟩

theorem error_of_failsFirst (h : Scan fails inv read) (hfails : FailsFirst fails l fault) :
    read l = .error fault := by
  obtain ⟨before, a, after, rfl, hclean, ha⟩ := hfails
  obtain ⟨next, hinv, hread⟩ := h.goes_on hclean
  rw [hread, h.stop hinv ha]

/-- **A reading fails** with the first failure, and with no other. -/
theorem eq_error_iff (h : Scan fails inv read) :
    read l = .error fault ↔ FailsFirst fails l fault := by
  refine ⟨fun herror => ?_, h.error_of_failsFirst⟩
  obtain hclean | ⟨fault', hfails⟩ := clean_or_failsFirst fails l
  · obtain ⟨next, b, -, -, hok⟩ := h.ok_of_clean hclean
    rw [hok] at herror; cases herror
  · rw [h.error_of_failsFirst hfails] at herror
    cases herror
    exact hfails

/-- **A reading succeeds** if there is no failure. -/
theorem exists_ok_iff (h : Scan fails inv read) : (∃ b, read l = .ok b) ↔ Clean fails l := by
  constructor
  · rintro ⟨b, hok⟩
    refine (clean_or_failsFirst fails l).resolve_right ?_
    rintro ⟨fault, hfails⟩
    rw [h.error_of_failsFirst hfails] at hok; cases hok
  · intro hclean
    obtain ⟨next, b, -, -, hok⟩ := h.ok_of_clean hclean
    exact ⟨b, hok⟩

theorem inv_of_ok {b : β} (h : Scan fails inv read) (hok : read l = .ok b) :
    ∃ next, inv l next ∧ next [] = .ok b := by
  obtain ⟨next, b', hinv, hb, hok'⟩ := h.ok_of_clean (h.exists_ok_iff.1 ⟨b, hok⟩)
  rw [hok] at hok'
  cases hok'
  exact ⟨next, hinv, hb⟩

end Scan

end Workmeter
