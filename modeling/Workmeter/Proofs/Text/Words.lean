/-
  Workmeter — texts between blanks, and texts that are made of words.

  * `TrimsEnd`, `Trims`: a text without the blanks at its end, and at both ends
    (`trimEnd_eq_iff`, `trim_eq_iff`);
  * `Padded`: a text with blanks around it (`trims_iff`, `trims_nil_iff`, `Padded.trims`);
  * `words_append`: a blank parts the words before it from those behind it;
  * `words_spaced`: words that are written behind blanks are read back;
  * `isWord_toDigits`: a number in decimal is a word.
-/
import Workmeter.Text.Blank

namespace Workmeter.Text

variable {s t : List Char}

/-! ## Blanks at the ends -/

/-- The text `s` is `t` with blanks behind it, and `t` does not end in one. -/
def TrimsEnd (s t : List Char) : Prop :=
  (∃ after, s = t ++ after ∧ ∀ c ∈ after, isBlank c) ∧ ∀ c ∈ t.getLast?, isBlank c = false

/-- The text `s` is `t` between blanks, and `t` neither begins nor ends with one. -/
def Trims (s t : List Char) : Prop :=
  (∃ before after, s = before ++ t ++ after ∧ (∀ c ∈ before, isBlank c) ∧
    ∀ c ∈ after, isBlank c) ∧
  (∀ c ∈ t.head?, isBlank c = false) ∧ ∀ c ∈ t.getLast?, isBlank c = false

theorem trimStart_eq_iff :
    trimStart s = t ↔
      (∃ before, s = before ++ t ∧ ∀ c ∈ before, isBlank c) ∧
        ∀ c ∈ t.head?, isBlank c = false := by
  constructor
  · rintro rfl
    refine ⟨⟨s.takeWhile isBlank, List.takeWhile_append_dropWhile.symm,
      List.all_eq_true.1 List.all_takeWhile⟩, fun c hc => ?_⟩
    have hhead := List.head?_dropWhile_not isBlank s
    rw [← trimStart, Option.mem_def.1 hc] at hhead
    exact hhead
  · rintro ⟨⟨before, rfl, hbefore⟩, ht⟩
    rw [trimStart, List.dropWhile_append_of_pos hbefore]
    cases t with
    | nil => rfl
    | cons c t => exact List.dropWhile_cons_of_neg (by rw [ht c rfl]; decide)

theorem trimEnd_eq_iff : trimEnd s = t ↔ TrimsEnd s t := by
  have hmirror : trimEnd s = t ↔ trimStart s.reverse = t.reverse := by
    rw [trimEnd, trimStart, List.reverse_eq_iff]
  rw [hmirror, trimStart_eq_iff, List.head?_reverse, TrimsEnd]
  refine and_congr_left fun _ => ⟨?_, ?_⟩
  · rintro ⟨before, hs, hbefore⟩
    exact ⟨before.reverse, by simpa using congrArg List.reverse hs, by simpa using hbefore⟩
  · rintro ⟨after, rfl, hafter⟩
    exact ⟨after.reverse, List.reverse_append, by simpa using hafter⟩

theorem trim_eq_iff : trim s = t ↔ Trims s t := by
  constructor
  · rintro rfl
    obtain ⟨⟨before, hs, hbefore⟩, hhead⟩ := (trimStart_eq_iff (s := s)).1 rfl
    obtain ⟨⟨after, hinner, hafter⟩, hlast⟩ : TrimsEnd (trimStart s) (trim s) :=
      trimEnd_eq_iff.1 rfl
    refine ⟨⟨before, after, by rw [List.append_assoc, ← hinner, ← hs], hbefore, hafter⟩,
      fun c hc => hhead c ?_, hlast⟩
    rw [hinner, List.head?_append, Option.mem_def.1 hc]
    rfl
  · rintro ⟨⟨before, after, rfl, hbefore, hafter⟩, hhead, hlast⟩
    cases t with
    | nil =>
      have hblank : trimStart (before ++ [] ++ after) = [] := by
        refine trimStart_eq_iff.2 ⟨⟨_, (List.append_nil _).symm, fun c hc => ?_⟩, nofun⟩
        rw [List.append_nil] at hc
        exact (List.mem_append.1 hc).elim (hbefore c) (hafter c)
      rw [trim, hblank]
      rfl
    | cons c t =>
      have hstart : trimStart (before ++ c :: t ++ after) = c :: t ++ after :=
        trimStart_eq_iff.2 ⟨⟨before, List.append_assoc _ _ _, hbefore⟩, hhead⟩
      rw [trim, hstart]
      exact trimEnd_eq_iff.2 ⟨⟨after, rfl, hafter⟩, hlast⟩

/-- The text `s` is `t` with blanks around it. -/
def Padded (s t : List Char) : Prop :=
  ∃ before after, s = before ++ t ++ after ∧ (∀ c ∈ before, isBlank c) ∧ ∀ c ∈ after, isBlank c

theorem trims_iff :
    Trims s t ↔
      Padded s t ∧ (∀ c ∈ t.head?, isBlank c = false) ∧ ∀ c ∈ t.getLast?, isBlank c = false :=
  Iff.rfl

theorem Trims.padded (h : Trims s t) : Padded s t := h.1

theorem padded_refl (t : List Char) : Padded t t := ⟨[], [], by simp, nofun, nofun⟩

theorem trims_nil_iff : Trims s [] ↔ ∀ c ∈ s, isBlank c := by
  constructor
  · rintro ⟨⟨before, after, rfl, hbefore, hafter⟩, -⟩ c hc
    rw [List.append_nil] at hc
    exact (List.mem_append.1 hc).elim (hbefore c) (hafter c)
  · intro h
    exact ⟨⟨s, [], by simp, h, nofun⟩, nofun, nofun⟩

theorem Padded.append_left {before : List Char} (h : Padded s t)
    (hbefore : ∀ c ∈ before, isBlank c) : Padded (before ++ s) t := by
  obtain ⟨first, last, rfl, hfirst, hlast⟩ := h
  exact ⟨before ++ first, last, by simp,
    fun c hc => (List.mem_append.1 hc).elim (hbefore c) (hfirst c), hlast⟩

theorem Padded.append_right {after : List Char} (h : Padded s t)
    (hafter : ∀ c ∈ after, isBlank c) : Padded (s ++ after) t := by
  obtain ⟨first, last, rfl, hfirst, hlast⟩ := h
  exact ⟨first, last ++ after, by simp, hfirst,
    fun c hc => (List.mem_append.1 hc).elim (hlast c) (hafter c)⟩

theorem trim_concat_of_blank {c : Char} (hc : isBlank c) : trim (s ++ [c]) = trim s := by
  obtain ⟨hpadded, hends⟩ := trims_iff.1 (trim_eq_iff.1 (Eq.refl (trim s)))
  have hafter : ∀ d ∈ [c], isBlank d := List.forall_mem_singleton.2 hc
  exact trim_eq_iff.2 (trims_iff.2 ⟨hpadded.append_right hafter, hends⟩)

theorem Padded.mem_or {c : Char} (h : Padded s t) (hc : c ∈ s) : c ∈ t ∨ isBlank c := by
  obtain ⟨before, after, rfl, hbefore, hafter⟩ := h
  rcases List.mem_append.1 hc with hc | hc
  · exact (List.mem_append.1 hc).elim (fun hc => .inr (hbefore c hc)) .inl
  · exact .inr (hafter c hc)

/-! ## Words -/

/-- A word: some characters, and no blank. -/
def IsWord (w : List Char) : Prop := w ≠ [] ∧ ∀ c ∈ w, isBlank c = false

theorem words_append {c : Char} (hc : isBlank c) (s t : List Char) :
    words (s ++ c :: t) = words s ++ words t := by
  rw [words, List.splitOnP_append_cons s t hc, List.filter_append]
  rfl

theorem IsWord.words_eq {w : List Char} (h : IsWord w) : words w = [w] := by
  obtain ⟨hne, hblank⟩ := h
  rw [words, List.splitOnP_eq_singleton hblank]
  simpa using hne

theorem Padded.trims {w : List Char} (h : Padded s w) (hw : IsWord w) : Trims s w :=
  ⟨h, fun c hc => hw.2 c (List.mem_of_head? hc), fun c hc => hw.2 c (List.mem_of_getLast? hc)⟩

/-- The words, each behind a blank. -/
def spaced (ws : List (List Char)) : List Char := ws.flatMap (' ' :: ·)

/-- **Words** that are written behind blanks are read back. -/
theorem words_spaced {w : List Char} {ws : List (List Char)} (h : ∀ v ∈ w :: ws, IsWord v) :
    words (w ++ spaced ws) = w :: ws := by
  have hblank : isBlank ' ' := by decide
  induction ws generalizing w with
  | nil =>
    rw [spaced, List.flatMap_nil, List.append_nil]
    exact (h w (by simp)).words_eq
  | cons v ws ih =>
    obtain ⟨hw, hws⟩ := List.forall_mem_cons.1 h
    have hspaced : w ++ spaced (v :: ws) = w ++ ' ' :: (v ++ spaced ws) := by
      rw [spaced, List.flatMap_cons, List.cons_append]
      rfl
    rw [hspaced, words_append hblank, hw.words_eq, ih hws]
    rfl

theorem isBlank_of_isDigit {c : Char} (h : c.isDigit) : isBlank c = false := by
  simp only [Char.isDigit, Bool.and_eq_true, decide_eq_true_eq] at h
  have hlow : 48 ≤ c.toNat := h.1
  have hhigh : c.toNat ≤ 57 := h.2
  rw [isBlank, List.any_eq_false]
  rintro ⟨first, last⟩ hrange
  simp only [blankRanges, List.mem_cons, Prod.mk.injEq, List.not_mem_nil, or_false] at hrange
  simp only [Bool.and_eq_true, decide_eq_true_eq]
  omega

theorem isWord_toDigits (n : Nat) : IsWord (Nat.toDigits 10 n) :=
  ⟨Nat.toDigits_ne_nil, fun _ hc =>
    isBlank_of_isDigit (Nat.isDigit_of_mem_toDigits (by decide) (by decide) hc)⟩

end Workmeter.Text
