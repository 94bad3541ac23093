/-
  Workmeter — the reading of the memory files, each of which holds one value.

  * `Bears`, `soleValue_bind_of_bears`: the text of a line, and that of the first line counts;
  * `MemoryUsage.Tells`, `MemoryUsage.read_eq_iff`: what a first line tells as the memory in use;
  * `MemoryLimit.read_eq_none_iff`, `MemoryLimit.read_eq_map`: the limit is read like the memory
    in use, but for the text `max`;
  * `numberLine`, `read_numberLine`: a number that is written between blanks is read back;
  * `sole_value_of_first_line`: all of it, for any stream of bytes.
-/
import Workmeter.Counters.Memory
import Workmeter.Proofs.Text.Decimal
import Workmeter.Proofs.Text.Lines
import Workmeter.Proofs.Text.Words

namespace Workmeter

open Text

variable {bytes first : List UInt8} {v : List Char} {n : UInt64} {fault : StatFault}

/-! ## The text that counts -/

/-- The line has this text between its blanks. -/
def Bears (line : List UInt8) (v : List Char) : Prop := ∃ text, Encodes line text ∧ Trims text v

theorem soleValue_cons (line : Line) (lines : List Line) :
    soleValue (line :: lines) = (line.map trim).mapError .reading := by
  cases line <;> rfl

/-- Only the first line counts, with its end or without it; if there is none, it is empty. -/
theorem soleValue_linesOf (h : FirstLine bytes first) :
    soleValue (linesOf bytes) = ((decode first).map trim).mapError .reading := by
  cases h with
  | @terminated l bs hl =>
    have hblank : isBlank '\n' := by decide
    rw [linesOf, pieces_append hl, List.map_cons, soleValue_cons, decode_concat_lineEnd]
    cases decode l with
    | ok text => simp only [Except.map, trim_concat_of_blank hblank]
    | error cause => rfl
  | unterminated hl =>
    by_cases hempty : bytes = []
    · have hdecode : decode [] = .ok [] := decode_encode []
      rw [hempty, hdecode]
      rfl
    · rw [linesOf, pieces_of_not_mem hl hempty, List.map_singleton, soleValue_cons]

section
variable {α : Type} (ofText : List Char → Except StatFault α)

/-- **The text that counts** is that of the first line. -/
theorem soleValue_bind_of_bears (h : FirstLine bytes first) (hv : Bears first v) :
    (soleValue (linesOf bytes)).bind ofText = ofText v := by
  obtain ⟨text, htext, htrims⟩ := hv
  rw [soleValue_linesOf h, decode_eq_ok_iff.2 htext, ← trim_eq_iff.2 htrims]
  rfl

/-- There is none if the first line is not UTF-8, whatever is made of texts. -/
theorem soleValue_bind_of_unreadable (h : FirstLine bytes first)
    (hnone : ∀ text, ¬ Encodes first text) :
    (soleValue (linesOf bytes)).bind ofText = .error (.reading .notUtf8) := by
  rw [soleValue_linesOf h, decode_eq_error_iff.2 ⟨hnone, rfl⟩]
  rfl

end

theorem readValue_eq_ok_iff : readValue v = .ok n ↔ Decimal.Denotes v n.toNat := by
  rw [← Decimal.readUInt64_eq_ok_iff, readValue]
  cases Decimal.readUInt64 v <;> simp

theorem readValue_eq_error_iff :
    readValue v = .error fault ↔
      ∃ cause, Decimal.Refused UInt64.size v cause ∧ fault = .badValue (String.ofList v) cause := by
  simp only [← Decimal.readUInt64_eq_error_iff, readValue]
  cases Decimal.readUInt64 v <;> simp [eq_comm]

theorem Bears.eq (h : Bears first v) {w : List Char} (hw : Bears first w) : v = w := by
  obtain ⟨text, htext, htrims⟩ := h
  obtain ⟨text', htext', htrims'⟩ := hw
  rw [← decode_eq_ok_iff] at htext htext'
  rw [← trim_eq_iff] at htrims htrims'
  rw [htext] at htext'
  rw [← htrims, ← htrims', Except.ok.inj htext']

theorem bears_or_unreadable (first : List UInt8) :
    (∃ v, Bears first v) ∨ ∀ text, ¬ Encodes first text := by
  by_cases h : ∃ text, Encodes first text
  · obtain ⟨text, htext⟩ := h
    exact .inl ⟨trim text, text, htext, trim_eq_iff.1 rfl⟩
  · exact .inr fun text htext => h ⟨text, htext⟩

/-! ## The memory in use -/

namespace MemoryUsage

variable {outcome : Except StatFault MemoryUsage}

/-- What a first line tells as the memory in use. -/
inductive Tells (first : List UInt8) : Except StatFault MemoryUsage → Prop where
  | unreadable : (∀ text, ¬ Encodes first text) → Tells first (.error (.reading .notUtf8))
  | value {v : List Char} {u : MemoryUsage} : Bears first v → Decimal.Denotes v u.bytes.toNat →
      Tells first (.ok u)
  | refused {v : List Char} {cause : Decimal.Fault} : Bears first v → ¬ Decimal.DenotesWord v →
      Decimal.Refused UInt64.size v cause →
      Tells first (.error (.badValue (String.ofList v) cause))

theorem Tells.read_eq (h : FirstLine bytes first) (htells : Tells first outcome) :
    read (linesOf bytes) = outcome := by
  cases htells with
  | unreadable hnone => exact soleValue_bind_of_unreadable ofText h hnone
  | value hv hden =>
    rw [read, soleValue_bind_of_bears ofText h hv, ofText, readValue_eq_ok_iff.2 hden]
    rfl
  | refused hv _ hrefused =>
    rw [read, soleValue_bind_of_bears ofText h hv, ofText,
      readValue_eq_error_iff.2 ⟨_, hrefused, rfl⟩]
    rfl

theorem exists_tells (first : List UInt8) : ∃ outcome, Tells first outcome := by
  obtain ⟨v, hv⟩ | hnone := bears_or_unreadable first
  · cases hread : Decimal.readUInt64 v with
    | ok n =>
      have hden : Decimal.Denotes v n.toNat := Decimal.readUInt64_eq_ok_iff.1 hread
      exact ⟨.ok ⟨n⟩, .value hv hden⟩
    | error cause =>
      exact ⟨_, .refused hv (Decimal.not_denotesWord_iff.2 ⟨cause, hread⟩)
        (Decimal.readUInt64_eq_error_iff.1 hread)⟩
  · exact ⟨_, .unreadable hnone⟩

/-- **The memory in use** is what the first line tells, and nothing else. -/
theorem read_eq_iff (h : FirstLine bytes first) :
    read (linesOf bytes) = outcome ↔ Tells first outcome := by
  refine ⟨fun hread => ?_, Tells.read_eq h⟩
  obtain ⟨outcome', htells⟩ := exists_tells first
  rw [htells.read_eq h] at hread
  exact hread ▸ htells

theorem exists_read_iff (h : FirstLine bytes first) :
    (∃ u, read (linesOf bytes) = .ok u) ↔ ∃ v, Bears first v ∧ Decimal.DenotesWord v := by
  simp only [read_eq_iff h]
  constructor
  · rintro ⟨u, htells⟩
    cases htells with
    | value hv hden => exact ⟨_, hv, _, u.bytes.toNat_lt, hden⟩
  · rintro ⟨v, hv, hword⟩
    obtain ⟨n, hread⟩ := Decimal.denotesWord_iff.1 hword
    exact ⟨⟨n⟩, .value hv (Decimal.readUInt64_eq_ok_iff.1 hread)⟩

end MemoryUsage

/-! ## The limit -/

namespace MemoryLimit

theorem ofText_of_ne (hv : v ≠ unlimited) :
    ofText v = (MemoryUsage.ofText v).map fun u => ⟨some u.bytes⟩ := by
  rw [ofText, if_neg hv, MemoryUsage.ofText]
  cases readValue v <;> rfl

theorem ofText_eq_none_iff : ofText v = .ok ⟨none⟩ ↔ v = unlimited := by
  by_cases hv : v = unlimited
  · simp [ofText, hv]
  · rw [ofText, if_neg hv]
    cases readValue v <;> simp [Except.map, hv]

/-- **There is no limit** if the first line says so. -/
theorem read_eq_none_iff (h : FirstLine bytes first) :
    read (linesOf bytes) = .ok ⟨none⟩ ↔ Bears first unlimited := by
  obtain ⟨v, hv⟩ | hnone := bears_or_unreadable first
  · rw [read, soleValue_bind_of_bears ofText h hv, ofText_eq_none_iff]
    exact ⟨fun he => he ▸ hv, hv.eq⟩
  · rw [read, soleValue_bind_of_unreadable ofText h hnone]
    simp [Bears, hnone]

/-- **The limit** is read like the memory in use if the first line does not say so. -/
theorem read_eq_map (h : FirstLine bytes first) (hlimited : ¬ Bears first unlimited) :
    read (linesOf bytes) = (MemoryUsage.read (linesOf bytes)).map fun u => ⟨some u.bytes⟩ := by
  obtain ⟨v, hv⟩ | hnone := bears_or_unreadable first
  · have hne : v ≠ unlimited := fun he => hlimited (he ▸ hv)
    rw [read, MemoryUsage.read, soleValue_bind_of_bears ofText h hv,
      soleValue_bind_of_bears MemoryUsage.ofText h hv, ofText_of_ne hne]
  · rw [read, MemoryUsage.read, soleValue_bind_of_unreadable ofText h hnone,
      soleValue_bind_of_unreadable MemoryUsage.ofText h hnone]
    rfl

end MemoryLimit

/-! ## Numbers that are written -/

/-- The line of a number in decimal, between blanks. -/
def numberLine (before : List Char) (n : UInt64) (after : List Char) : List UInt8 :=
  encode (before ++ Nat.toDigits 10 n.toNat ++ after)

section
variable {before after : List Char} {rest : List UInt8}

theorem bears_numberLine (hblank : ∀ c ∈ before ++ after, isBlank c) :
    Bears (numberLine before n after) (Nat.toDigits 10 n.toNat) := by
  obtain ⟨hbefore, hafter⟩ := List.forall_mem_append.1 hblank
  have hpadded : Padded (before ++ Nat.toDigits 10 n.toNat ++ after) (Nat.toDigits 10 n.toNat) :=
    ⟨before, after, rfl, hbefore, hafter⟩
  exact ⟨_, encodes_iff.2 rfl, hpadded.trims (isWord_toDigits n.toNat)⟩

theorem lineEnd_not_mem_numberLine (hbreak : '\n' ∉ before ++ after) :
    lineEnd ∉ numberLine before n after := by
  have hdigits : '\n' ∉ Nat.toDigits 10 n.toNat := fun hmem =>
    absurd ((isWord_toDigits n.toNat).2 _ hmem) (by decide)
  refine lineEnd_not_mem_encode ?_
  simp only [List.mem_append, not_or] at hbreak ⊢
  exact ⟨⟨hbreak.1, hdigits⟩, hbreak.2⟩

theorem Bears.concat_lineEnd (h : Bears first v) : Bears (first ++ [lineEnd]) v := by
  obtain ⟨text, htext, htrims⟩ := h
  have hblank : isBlank '\n' := by decide
  refine ⟨text ++ ['\n'], encodes_concat_lineEnd_iff.2 ⟨text, rfl, htext⟩, trim_eq_iff.1 ?_⟩
  rw [trim_concat_of_blank hblank, trim_eq_iff.2 htrims]

/-- **A number** that the first line bears is read back, in use and as a limit. -/
theorem read_of_bears_toDigits (h : FirstLine bytes first)
    (hv : Bears first (Nat.toDigits 10 n.toNat)) :
    MemoryUsage.read (linesOf bytes) = .ok ⟨n⟩ ∧ MemoryLimit.read (linesOf bytes) = .ok ⟨some n⟩ := by
  have husage : MemoryUsage.read (linesOf bytes) = .ok ⟨n⟩ :=
    (MemoryUsage.read_eq_iff h).2 (.value hv (Decimal.denotes_toDigits n.toNat))
  have hlimited : ¬ Bears first MemoryLimit.unlimited := by
    intro hmax
    have hread := Decimal.readUInt64_eq_ok_iff.2 (Decimal.denotes_toDigits n.toNat)
    rw [hv.eq hmax] at hread
    cases hread
  refine ⟨husage, ?_⟩
  rw [MemoryLimit.read_eq_map h hlimited, husage]
  rfl

theorem read_numberLine (hblank : ∀ c ∈ before ++ after, isBlank c)
    (hbreak : '\n' ∉ before ++ after)
    (hbytes : bytes = numberLine before n after ∨
      bytes = numberLine before n after ++ lineEnd :: rest) :
    MemoryUsage.read (linesOf bytes) = .ok ⟨n⟩ ∧ MemoryLimit.read (linesOf bytes) = .ok ⟨some n⟩ := by
  have hend : lineEnd ∉ numberLine before n after := lineEnd_not_mem_numberLine hbreak
  have hv : Bears (numberLine before n after) (Nat.toDigits 10 n.toNat) := bears_numberLine hblank
  rcases hbytes with rfl | rfl
  · exact read_of_bears_toDigits (.unterminated hend) hv
  · exact read_of_bears_toDigits (.terminated hend) hv.concat_lineEnd

end

/-! ## Bytes -/

/-- **The memory files** are read off their first line: a decimal of 64 bits between blanks, or
    for the limit `max`; anything else is reported for what offends first. -/
theorem sole_value_of_first_line :
    (∀ bytes, ∃ first, FirstLine bytes first) ∧
    (∀ bytes first, FirstLine bytes first →
      let usage := MemoryUsage.read (linesOf bytes)
      let limit := MemoryLimit.read (linesOf bytes)
      (∀ bytes', FirstLine bytes' first →
        MemoryUsage.read (linesOf bytes') = usage ∧ MemoryLimit.read (linesOf bytes') = limit) ∧
      (∀ outcome, usage = outcome ↔ MemoryUsage.Tells first outcome) ∧
      ((∃ u, usage = .ok u) ↔ ∃ v, Bears first v ∧ Decimal.DenotesWord v) ∧
      (∀ v cause, usage = .error (.badValue v cause) → (cause = .empty ↔ v = "")) ∧
      (limit = .ok ⟨none⟩ ↔ Bears first ['m', 'a', 'x']) ∧
      (¬ Bears first ['m', 'a', 'x'] → limit = usage.map fun u => ⟨some u.bytes⟩)) ∧
    ∀ (n : UInt64) (before after : List Char), (∀ c ∈ before ++ after, isBlank c) →
      '\n' ∉ before ++ after → ∀ bytes rest : List UInt8,
        bytes = numberLine before n after ∨ bytes = numberLine before n after ++ lineEnd :: rest →
        MemoryUsage.read (linesOf bytes) = .ok ⟨n⟩ ∧
          MemoryLimit.read (linesOf bytes) = .ok ⟨some n⟩ := by
  refine ⟨exists_firstLine, fun bytes first hfirst => ⟨fun bytes' hfirst' => ?_,
    fun outcome => MemoryUsage.read_eq_iff hfirst, MemoryUsage.exists_read_iff hfirst,
    fun v cause hread => ?_, MemoryLimit.read_eq_none_iff hfirst,
    MemoryLimit.read_eq_map hfirst⟩, fun n before after hblank hbreak bytes rest => ?_⟩
  · have hsame : soleValue (linesOf bytes') = soleValue (linesOf bytes) := by
      rw [soleValue_linesOf hfirst', soleValue_linesOf hfirst]
    exact ⟨congrArg (Except.bind · MemoryUsage.ofText) hsame,
      congrArg (Except.bind · MemoryLimit.ofText) hsame⟩
  · cases (MemoryUsage.read_eq_iff hfirst).1 hread with
    | refused _ _ hrefused => rw [hrefused.eq_empty_iff, String.ofList_eq_empty_iff]
  · exact read_numberLine hblank hbreak

/-- The largest word, though what follows the line is not UTF-8; of a digit too many and a
    letter, the first is reported. -/
theorem sole_value_of_first_line_before_garbage :
    let largest := numberLine ['\u3000'] 18446744073709551615 [' ', '\r'] ++ lineEnd :: [255]
    let large : List Char := "+18446744073709551616x".toList
    let lettered : List Char := "1844674407370955161x6".toList
    (MemoryUsage.read (linesOf largest) = .ok ⟨18446744073709551615⟩ ∧
      MemoryLimit.read (linesOf largest) = .ok ⟨some 18446744073709551615⟩) ∧
    MemoryUsage.read (linesOf (encode large)) =
      .error (.badValue (String.ofList large) .tooLarge) ∧
    MemoryUsage.read (linesOf (encode lettered)) =
      .error (.badValue (String.ofList lettered) .invalidDigit) := by
  intro largest large lettered
  obtain ⟨-, htold, hwritten⟩ := sole_value_of_first_line
  have hrefused : ∀ (v : List Char) (cause : Decimal.Fault), '\n' ∉ v → trim v = v →
      Decimal.readUInt64 v = .error cause →
      MemoryUsage.read (linesOf (encode v)) = .error (.badValue (String.ofList v) cause) := by
    intro v cause hbreak htrim hread
    obtain ⟨-, htells, -⟩ := htold _ _ (.unterminated (lineEnd_not_mem_encode hbreak))
    exact (htells _).2 (.refused ⟨v, encodes_iff.2 rfl, trim_eq_iff.1 htrim⟩
      (Decimal.not_denotesWord_iff.2 ⟨cause, hread⟩) (Decimal.readUInt64_eq_error_iff.1 hread))
  have hblank : ∀ c ∈ ['\u3000'] ++ [' ', '\r'], isBlank c := List.all_eq_true.1 (by decide)
  exact ⟨hwritten _ ['\u3000'] [' ', '\r'] hblank (by decide) largest [255] (.inr rfl),
    hrefused large .tooLarge (by decide +kernel) (by decide +kernel) (by decide +kernel),
    hrefused lettered .invalidDigit (by decide +kernel) (by decide +kernel) (by decide +kernel)⟩

end Workmeter
