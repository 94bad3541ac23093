/-
  Workmeter — the texts that are decimals, and why all others are refused.

  * `Denotes`, `read_eq_ok_iff`, `map_read_eq_ok_iff`: which texts are read, and as what;
  * `denotes_toDigits`, `readUInt32_toString`: a number is read from its own digits;
  * `DenotesWord`, `not_denotesWord_iff`: which texts are read as words of 64 bits;
  * `Offends`, `digits_or_offends`: digits are read to their end, or up to a first character
    that offends;
  * `Refused`, `read_eq_error_iff`: a text is refused for this character, or because it is
    empty.
-/
import Workmeter.Text.Decimal

namespace Workmeter.Decimal

variable {limit value : Nat} {s digits rest : List Char} {c : Char} {cause : Fault}

theorem le_ofDigitChars (s : List Char) (value : Nat) : value ≤ Nat.ofDigitChars 10 s value := by
  induction s generalizing value with
  | nil => exact Nat.le_refl _
  | cons c cs ih =>
    rw [Nat.ofDigitChars_cons]
    exact Nat.le_trans (by omega) (ih _)

/-! ## Reading digits -/

/-- Behind digits of value `value` the character is no digit, or one by which the value leaves
    the range. -/
inductive Offends (limit value : Nat) (c : Char) : Fault → Prop where
  | tooLarge : c.isDigit → limit ≤ Nat.ofDigitChars 10 [c] value → Offends limit value c .tooLarge
  | invalidDigit : ¬ c.isDigit → Offends limit value c .invalidDigit

theorem goes_on_or_offends (limit value : Nat) (c : Char) :
    (c.isDigit ∧ Nat.ofDigitChars 10 [c] value < limit) ∨ ∃ cause, Offends limit value c cause := by
  by_cases hc : c.isDigit
  · rcases Nat.lt_or_ge (Nat.ofDigitChars 10 [c] value) limit with hlt | hle
    · exact .inl ⟨hc, hlt⟩
    · exact .inr ⟨_, .tooLarge hc hle⟩
  · exact .inr ⟨_, .invalidDigit hc⟩

/-- Digits whose value stays in the range are read over. -/
theorem readDigits_append (hdigits : ∀ c ∈ digits, c.isDigit)
    (hlt : Nat.ofDigitChars 10 digits value < limit) (rest : List Char) :
    readDigits limit value (digits ++ rest) =
      readDigits limit (Nat.ofDigitChars 10 digits value) rest := by
  induction digits generalizing value with
  | nil => rfl
  | cons c cs ih =>
    obtain ⟨hc, hcs⟩ := List.forall_mem_cons.1 hdigits
    rw [Nat.ofDigitChars_cons] at hlt ⊢
    -- the value only grows with the digits that follow
    have hgrown := le_ofDigitChars cs (10 * value + (c.toNat - '0'.toNat))
    rw [List.cons_append, readDigits, digit?, if_pos hc]
    exact (if_pos (by omega)).trans (ih hcs hlt)

theorem readDigits_of_digits (hs : ∀ c ∈ s, c.isDigit)
    (hlt : Nat.ofDigitChars 10 s value < limit) :
    readDigits limit value s = .ok (Nat.ofDigitChars 10 s value) := by
  have h := readDigits_append hs hlt []
  rwa [List.append_nil] at h

theorem readDigits_of_offends (h : Offends limit value c cause) :
    readDigits limit value (c :: rest) = .error cause := by
  cases h with
  | tooLarge hc hlarge =>
    rw [Nat.ofDigitChars_cons, Nat.ofDigitChars_nil] at hlarge
    rw [readDigits, digit?, if_pos hc]
    exact if_neg (Nat.not_lt.2 hlarge)
  | invalidDigit hc => rw [readDigits, digit?, if_neg hc]

/-- The first of the characters that offends, behind digits of value `value`, does so. -/
def FirstOffends (limit value : Nat) (s : List Char) (cause : Fault) : Prop :=
  ∃ digits c rest, s = digits ++ c :: rest ∧ (∀ d ∈ digits, d.isDigit) ∧
    Nat.ofDigitChars 10 digits value < limit ∧
    Offends limit (Nat.ofDigitChars 10 digits value) c cause

theorem FirstOffends.readDigits_eq (h : FirstOffends limit value s cause) :
    readDigits limit value s = .error cause := by
  obtain ⟨digits, c, rest, rfl, hdigits, hlt, hoffends⟩ := h
  rw [readDigits_append hdigits hlt, readDigits_of_offends hoffends]

/-- **Characters** are digits of a value in the range, or one of them is the first to offend. -/
theorem digits_or_offends (hv : value < limit) (s : List Char) :
    ((∀ c ∈ s, c.isDigit) ∧ Nat.ofDigitChars 10 s value < limit) ∨
      ∃ cause, FirstOffends limit value s cause := by
  induction s generalizing value with
  | nil => exact .inl ⟨nofun, hv⟩
  | cons c cs ih =>
    obtain ⟨hc, hlt⟩ | ⟨cause, hoffends⟩ := goes_on_or_offends limit value c
    · obtain ⟨hcs, hlt'⟩ | ⟨cause, digits, d, rest, rfl, hdigits, hlt', hoffends⟩ := ih hlt
      · exact .inl ⟨List.forall_mem_cons.2 ⟨hc, hcs⟩, hlt'⟩
      · exact .inr ⟨cause, c :: digits, d, rest, rfl, List.forall_mem_cons.2 ⟨hc, hdigits⟩, hlt',
          hoffends⟩
    · exact .inr ⟨cause, [], c, cs, rfl, nofun, hv, hoffends⟩

theorem readDigits_eq_ok_iff {n : Nat} (hv : value < limit) :
    readDigits limit value s = .ok n ↔
      (∀ c ∈ s, c.isDigit) ∧ Nat.ofDigitChars 10 s value = n ∧ n < limit := by
  constructor
  · intro h
    obtain ⟨hs, hlt⟩ | ⟨cause, hfirst⟩ := digits_or_offends hv s
    · rw [readDigits_of_digits hs hlt] at h
      cases h; exact ⟨hs, rfl, hlt⟩
    · rw [hfirst.readDigits_eq] at h
      cases h
  · rintro ⟨hs, rfl, hlt⟩
    exact readDigits_of_digits hs hlt

theorem readDigits_eq_error_iff (hv : value < limit) :
    readDigits limit value s = .error cause ↔ FirstOffends limit value s cause := by
  refine ⟨fun h => ?_, FirstOffends.readDigits_eq⟩
  obtain ⟨hs, hlt⟩ | ⟨cause', hfirst⟩ := digits_or_offends hv s
  · rw [readDigits_of_digits hs hlt] at h
    cases h
  · rw [hfirst.readDigits_eq] at h
    cases h
    exact hfirst

/-! ## The texts that are read -/

/-- The text is a decimal of this value: one digit or more, behind a plus sign or not. -/
def Denotes (s : List Char) (n : Nat) : Prop :=
  ∃ digits, (s = digits ∨ s = '+' :: digits) ∧ digits ≠ [] ∧ (∀ c ∈ digits, c.isDigit) ∧
    Nat.ofDigitChars 10 digits 0 = n

theorem denotes_toDigits (n : Nat) : Denotes (Nat.toDigits 10 n) n :=
  ⟨_, .inl rfl, Nat.toDigits_ne_nil,
    fun _ hc => Nat.isDigit_of_mem_toDigits (by decide) (by decide) hc,
    Nat.ofDigitChars_ten_toDigits⟩

/-- **The decimals of the range** are read as their values, and nothing else is read. -/
theorem read_eq_ok_iff {n : Nat} (hl : 0 < limit) :
    read limit s = .ok n ↔ Denotes s n ∧ n < limit := by
  have hplus : ¬ '+'.isDigit := by decide
  unfold read
  split
  · simp [Denotes]
  · rename_i c cs
    rw [readDigits_eq_ok_iff hl]
    constructor
    · rintro ⟨hs, hn, hlt⟩
      exact ⟨⟨c :: cs, .inr rfl, List.cons_ne_nil _ _, hs, hn⟩, hlt⟩
    · rintro ⟨⟨digits, rfl | he, hne, hs, hn⟩, hlt⟩
      · exact absurd (hs '+' (by simp)) hplus
      · obtain rfl := (List.cons.inj he).2
        exact ⟨hs, hn, hlt⟩
  · rename_i hnil hsign
    rw [readDigits_eq_ok_iff hl]
    constructor
    · rintro ⟨hs, hn, hlt⟩
      exact ⟨⟨s, .inl rfl, hnil, hs, hn⟩, hlt⟩
    · rintro ⟨⟨digits, rfl | rfl, hne, hs, hn⟩, hlt⟩
      · exact ⟨hs, hn, hlt⟩
      · -- a sign before digits is the case above
        obtain ⟨c, cs, rfl⟩ := List.exists_cons_of_ne_nil hne
        exact absurd rfl (hsign c cs)

/-- **A word** is read from the decimals of its value, and from nothing else. -/
theorem map_read_eq_ok_iff {ω : Type} {ofNat : Nat → ω} {toNat : ω → Nat} {v : ω}
    (hl : 0 < limit) (hlt : ∀ v, toNat v < limit) (hof : ∀ n < limit, toNat (ofNat n) = n)
    (hto : ∀ v, ofNat (toNat v) = v) :
    (read limit s).map ofNat = .ok v ↔ Denotes s (toNat v) := by
  constructor
  · intro h
    cases hr : read limit s with
    | error cause => rw [hr] at h; cases h
    | ok n =>
      obtain ⟨hden, hn⟩ := (read_eq_ok_iff hl).1 hr
      rw [hr] at h
      cases h
      rwa [hof n hn]
  · intro hden
    rw [(read_eq_ok_iff hl).2 ⟨hden, hlt v⟩]
    exact congrArg Except.ok (hto v)

theorem readUInt64_eq_ok_iff {v : UInt64} : readUInt64 s = .ok v ↔ Denotes s v.toNat :=
  map_read_eq_ok_iff (by decide) UInt64.toNat_lt (fun _ hn => UInt64.toNat_ofNat_of_lt' hn)
    fun _ => UInt64.ofNat_toNat

theorem readUInt32_eq_ok_iff {v : UInt32} : readUInt32 s = .ok v ↔ Denotes s v.toNat :=
  map_read_eq_ok_iff (by decide) UInt32.toNat_lt (fun _ hn => UInt32.toNat_ofNat_of_lt' hn)
    fun _ => UInt32.ofNat_toNat

/-- **A word** is read from its text. -/
theorem readUInt32_toString (n : UInt32) : readUInt32 (toString n.toNat).toList = .ok n := by
  rw [Nat.toString_eq_repr, Nat.toList_repr, readUInt32_eq_ok_iff]
  exact denotes_toDigits n.toNat

/-- The text is the decimal of a word of 64 bits. -/
def DenotesWord (s : List Char) : Prop := ∃ n < UInt64.size, Denotes s n

theorem denotesWord_iff : DenotesWord s ↔ ∃ v, readUInt64 s = .ok v := by
  constructor
  · rintro ⟨n, hlt, hden⟩
    refine ⟨.ofNat n, readUInt64_eq_ok_iff.2 ?_⟩
    rwa [UInt64.toNat_ofNat_of_lt' hlt]
  · rintro ⟨v, hread⟩
    exact ⟨v.toNat, v.toNat_lt, readUInt64_eq_ok_iff.1 hread⟩

/-- **A text is refused** if it is no such decimal. -/
theorem not_denotesWord_iff : ¬ DenotesWord s ↔ ∃ cause, readUInt64 s = .error cause := by
  rw [denotesWord_iff]
  cases readUInt64 s <;> simp

/-! ## The texts that are refused -/

/-- A decimal may begin so, with digits of this value: perhaps none yet, behind a plus sign or
    not. -/
def Begins (s : List Char) (value : Nat) : Prop :=
  ∃ digits, (s = digits ∨ s = '+' :: digits) ∧ (∀ c ∈ digits, c.isDigit) ∧
    Nat.ofDigitChars 10 digits 0 = value

/-- Why a text is no decimal below `limit`: it is empty, or its first character that offends
    does so.  A plus sign does not offend at the start of a longer text. -/
inductive Refused (limit : Nat) : List Char → Fault → Prop where
  | empty : Refused limit [] .empty
  | character {past rest : List Char} {c : Char} {value : Nat} {cause : Fault} :
      Begins past value → value < limit → (c = '+' → past = [] → rest = []) →
      Offends limit value c cause → Refused limit (past ++ c :: rest) cause

/-- A plus sign before other characters is read over. -/
theorem read_signed (hs : s ≠ []) : read limit ('+' :: s) = readDigits limit 0 s := by
  obtain ⟨c, cs, rfl⟩ := List.exists_cons_of_ne_nil hs
  rfl

theorem read_unsigned (hs : s ≠ []) (hsign : ∀ rest, s = '+' :: rest → rest = []) :
    read limit s = readDigits limit 0 s := by
  unfold read
  split
  · exact absurd rfl hs
  · exact absurd (hsign _ rfl) (List.cons_ne_nil _ _)
  · rfl

theorem Refused.read_eq (h : Refused limit s cause) : read limit s = .error cause := by
  cases h with
  | empty => rfl
  | @character past rest c _ _ hbegins hlt hplus hoffends =>
    obtain ⟨digits, rfl | rfl, hdigits, rfl⟩ := hbegins
    · have hsign : ∀ more, past ++ c :: rest = '+' :: more → more = [] := by
        intro more he
        cases past with
        | nil =>
          obtain ⟨rfl, rfl⟩ := List.cons.inj he
          exact hplus rfl rfl
        | cons d ds =>
          obtain ⟨rfl, -⟩ := List.cons.inj he
          exact absurd (hdigits '+' List.mem_cons_self) (by decide)
      rw [read_unsigned (by simp) hsign]
      exact FirstOffends.readDigits_eq ⟨past, c, rest, rfl, hdigits, hlt, hoffends⟩
    · rw [List.cons_append, read_signed (by simp)]
      exact FirstOffends.readDigits_eq ⟨digits, c, rest, rfl, hdigits, hlt, hoffends⟩

/-- **All other texts** are refused, each for its first character that offends. -/
theorem read_eq_error_iff (hl : 0 < limit) :
    read limit s = .error cause ↔ Refused limit s cause := by
  refine ⟨fun h => ?_, Refused.read_eq⟩
  unfold read at h
  split at h
  · cases h
    exact .empty
  · rename_i c cs
    obtain ⟨digits, d, rest, he, hdigits, hlt, hoffends⟩ := (readDigits_eq_error_iff hl).1 h
    have hbegins : Begins ('+' :: digits) (Nat.ofDigitChars 10 digits 0) :=
      ⟨digits, .inr rfl, hdigits, rfl⟩
    rw [he]
    exact .character hbegins hlt nofun hoffends
  · rename_i hnil hsign
    obtain ⟨digits, d, rest, rfl, hdigits, hlt, hoffends⟩ := (readDigits_eq_error_iff hl).1 h
    refine .character ⟨digits, .inl rfl, hdigits, rfl⟩ hlt ?_ hoffends
    rintro rfl rfl
    -- a sign before other characters is the case above
    cases rest with
    | nil => rfl
    | cons c cs => exact absurd rfl (hsign c cs)

theorem readUInt64_eq_error_iff : readUInt64 s = .error cause ↔ Refused UInt64.size s cause := by
  rw [← read_eq_error_iff (by decide), readUInt64]
  cases read UInt64.size s <;> simp [Except.map]

/-- A text is refused as empty only if it is. -/
theorem Refused.eq_empty_iff (h : Refused limit s cause) : cause = .empty ↔ s = [] := by
  cases h with
  | empty => simp
  | character _ _ _ hoffends => cases hoffends <;> simp

end Workmeter.Decimal
