/-
  Workmeter — what the lines of a byte stream are.

  * `Cuts`, `Encodes`, `Reads`: the lines of a stream, said without a reader;
  * `pieces_eq_iff`, `reads_iff`: the reader finds these lines, and no others;
  * `linesOf_append_lineEnd`: the lines behind a line end are read alone;
  * `pieces_concat_lineEnd`: it makes hardly a difference if the last line has an end;
  * `encode`, `decode_encode`, `lineEnd_not_mem_encode`: the bytes of a text, which is read
    back, and which is one line if it has no line end;
  * `terminated`, `linesOf_terminated_append`: lines that are written one after the other;
  * `FirstLine`, `decode_concat_lineEnd`: the line that a stream begins with, and what its end
    adds to its text.
-/
import Mathlib.Data.List.Forall2
import Workmeter.Text.Lines

namespace Workmeter.Text

variable {bytes piece : List UInt8} {cuts : List (List UInt8)} {line : Line} {lines : List Line}

/-! ## Cutting -/

/-- The bytes cut behind every line end; what is behind the last one is a line if it is not
    empty. -/
inductive Cuts : List UInt8 → List (List UInt8) → Prop where
  | nil : Cuts [] []
  | unterminated {l} : lineEnd ∉ l → l ≠ [] → Cuts l [l]
  | terminated {l bs ls} : lineEnd ∉ l → Cuts bs ls → Cuts (l ++ lineEnd :: bs) (l :: ls)

theorem Cuts.pieces_eq (h : Cuts bytes cuts) : pieces bytes = cuts := by
  induction h with
  | nil => rfl
  | unterminated hl hne => exact pieces_of_not_mem hl hne
  | terminated hl _ ih => rw [pieces_append hl, ih]

theorem Cuts.cons {b : UInt8} {l : List UInt8} (hb : b ≠ lineEnd) (h : Cuts bytes (l :: cuts)) :
    Cuts (b :: bytes) ((b :: l) :: cuts) := by
  have hnot : ∀ l, lineEnd ∉ l → lineEnd ∉ b :: l := fun l hl hmem =>
    (List.mem_cons.1 hmem).elim (fun he => hb he.symm) hl
  cases h with
  | unterminated hl _ => exact .unterminated (hnot _ hl) (List.cons_ne_nil _ _)
  | terminated hl hrest => exact .terminated (hnot _ hl) hrest

theorem cuts_pieces (bytes : List UInt8) : Cuts bytes (pieces bytes) := by
  induction bytes with
  | nil => exact .nil
  | cons b bs ih =>
    rw [pieces]
    split
    · subst b
      exact .terminated List.not_mem_nil ih
    · cases hp : pieces bs with
      | nil =>
        obtain rfl := pieces_eq_nil_iff.1 hp
        exact .unterminated (by simpa using Ne.symm ‹_›) (List.cons_ne_nil _ _)
      | cons l ls => exact (hp ▸ ih).cons ‹_›

/-- **The pieces of a stream** are the only way to cut it. -/
theorem pieces_eq_iff : pieces bytes = cuts ↔ Cuts bytes cuts :=
  ⟨fun h => h ▸ cuts_pieces bytes, Cuts.pieces_eq⟩

/-- What is behind a line end is cut alone. -/
theorem pieces_append_lineEnd (head tail : List UInt8) :
    pieces (head ++ lineEnd :: tail) = pieces (head ++ [lineEnd]) ++ pieces tail := by
  induction head with
  | nil => simp [pieces]
  | cons b head ih =>
    rw [List.cons_append, List.cons_append, pieces, pieces, ih]
    split
    · rfl
    · cases h : pieces (head ++ [lineEnd]) with
      | nil => exact absurd (pieces_eq_nil_iff.1 h) (by simp)
      | cons l ls => rfl

/-- A line end behind the last piece ends it, or makes an empty one if it has an end. -/
theorem pieces_concat_lineEnd (bytes : List UInt8) :
    pieces (bytes ++ [lineEnd]) = pieces bytes ∨
      pieces (bytes ++ [lineEnd]) = pieces bytes ++ [[]] := by
  have hcuts := cuts_pieces bytes
  generalize pieces bytes = cuts at hcuts
  induction hcuts with
  | nil => exact .inr (pieces_append List.not_mem_nil)
  | unterminated hl _ => exact .inl (pieces_append hl)
  | terminated hl _ ih =>
    rw [List.append_assoc, List.cons_append, pieces_append hl]
    exact ih.imp (congrArg _) (congrArg _)

/-! ## Reading -/

/-- The bytes are the UTF-8 encoding of the text. -/
def Encodes (piece : List UInt8) (text : List Char) : Prop :=
  text.utf8Encode = ⟨piece.toArray⟩

/-- What is read of a line: its text, or that it has none. -/
inductive ReadAs (piece : List UInt8) : Line → Prop where
  | text {s} : Encodes piece s → ReadAs piece (.ok s)
  | invalid : (∀ s, ¬ Encodes piece s) → ReadAs piece (.error .notUtf8)

theorem decode_eq_ok_iff {text : List Char} : decode piece = .ok text ↔ Encodes piece text := by
  rw [decode, Encodes, String.fromUTF8?, ← String.toByteArray_ofList]
  by_cases hv : ByteArray.IsValidUTF8 ⟨piece.toArray⟩
  · rw [dif_pos hv]
    simp only [Except.ok.injEq]
    constructor
    · rintro rfl
      rw [String.ofList_toList]
      rfl
    · intro h
      have : String.fromUTF8 ⟨piece.toArray⟩ hv = String.ofList text :=
        String.toByteArray_inj.1 h.symm
      rw [this, String.toList_ofList]
  · rw [dif_neg hv]
    simp only [reduceCtorEq, false_iff]
    intro h
    exact hv (h ▸ (String.ofList text).isValidUTF8)

theorem decode_eq_error_iff {cause : ReadFault} :
    decode piece = .error cause ↔ (∀ text, ¬ Encodes piece text) ∧ cause = .notUtf8 := by
  simp only [← decode_eq_ok_iff]
  unfold decode
  cases String.fromUTF8? ⟨piece.toArray⟩ with
  | some s => simp
  | none => simp [eq_comm]

theorem decode_eq_iff : decode piece = line ↔ ReadAs piece line := by
  cases line with
  | ok text =>
    rw [decode_eq_ok_iff]
    exact ⟨.text, fun | .text h => h⟩
  | error cause =>
    rw [decode_eq_error_iff]
    exact ⟨fun ⟨hnone, he⟩ => he ▸ .invalid hnone, fun | .invalid hnone => ⟨hnone, rfl⟩⟩

/-- The lines of a stream, from the first to the last, as they are read. -/
def Reads (bytes : List UInt8) (lines : List Line) : Prop :=
  ∃ cuts, Cuts bytes cuts ∧ List.Forall₂ ReadAs cuts lines

theorem forall₂_readAs_iff : List.Forall₂ ReadAs cuts lines ↔ cuts.map decode = lines := by
  rw [← List.forall₂_eq_eq_eq, List.forall₂_map_left_iff]
  simp only [decode_eq_iff]

/-- **The lines of a stream** are what the reader makes of it. -/
theorem reads_iff : Reads bytes lines ↔ linesOf bytes = lines := by
  simp [Reads, linesOf, forall₂_readAs_iff, ← pieces_eq_iff]

theorem linesOf_append_lineEnd (head tail : List UInt8) :
    linesOf (head ++ lineEnd :: tail) = linesOf (head ++ [lineEnd]) ++ linesOf tail := by
  rw [linesOf, pieces_append_lineEnd, List.map_append]
  rfl

/-! ## Writing -/

/-- The bytes that encode the text. -/
def encode (text : List Char) : List UInt8 := text.flatMap String.utf8EncodeChar

theorem encodes_iff {text : List Char} : Encodes piece text ↔ piece = encode text := by
  rw [Encodes, encode, List.utf8Encode, ByteArray.ext_iff, ← Array.toList_inj]
  simp [eq_comm]

theorem decode_encode (text : List Char) : decode (encode text) = .ok text :=
  decode_eq_ok_iff.2 (encodes_iff.2 rfl)

/-- The byte of a line end encodes no other character, alone or with others. -/
theorem eq_newline_of_lineEnd_mem {c : Char} (h : lineEnd ∈ String.utf8EncodeChar c) :
    c = '\n' := by
  have hbyte : ∀ n, lineEnd = UInt8.ofNat n → n % 256 = 10 := by
    intro n hn
    simpa [lineEnd] using (congrArg UInt8.toNat hn).symm
  have hval : c.val.toNat = 10 := by
    simp only [String.utf8EncodeChar] at h
    split_ifs at h with hone htwo hthree
    · have := hbyte _ (List.mem_singleton.1 h)
      omega
    -- the bytes of a longer encoding are 128 or more
    · simp only [List.mem_cons, List.not_mem_nil, or_false] at h
      rcases h with h | h <;> (have hle := hbyte _ h; omega)
    · simp only [List.mem_cons, List.not_mem_nil, or_false] at h
      rcases h with h | h | h <;> (have hle := hbyte _ h; omega)
    · simp only [List.mem_cons, List.not_mem_nil, or_false] at h
      rcases h with h | h | h | h <;> (have hle := hbyte _ h; omega)
  exact Char.ext (UInt32.toNat_inj.1 hval)

theorem lineEnd_not_mem_encode {text : List Char} (h : '\n' ∉ text) : lineEnd ∉ encode text := by
  intro hmem
  obtain ⟨c, hc, hbyte⟩ := List.mem_flatMap.1 hmem
  exact h (eq_newline_of_lineEnd_mem hbyte ▸ hc)

/-- The lines one after the other, a line end behind each. -/
def terminated (ls : List (List UInt8)) : List UInt8 := ls.flatMap (· ++ [lineEnd])

/-- **Terminated lines** are read one by one, and what is behind them is read alone. -/
theorem linesOf_terminated_append (ls : List (List UInt8)) (rest : List UInt8) :
    linesOf (terminated ls ++ rest) =
      ls.flatMap (fun l => linesOf (l ++ [lineEnd])) ++ linesOf rest := by
  induction ls with
  | nil => rfl
  | cons l ls ih =>
    have hfirst : terminated (l :: ls) ++ rest = l ++ lineEnd :: (terminated ls ++ rest) := by
      simp [terminated]
    rw [hfirst, linesOf_append_lineEnd, ih, List.flatMap_cons, List.append_assoc]

theorem linesOf_terminated (ls : List (List UInt8)) :
    linesOf (terminated ls) = ls.flatMap fun l => linesOf (l ++ [lineEnd]) := by
  have h := linesOf_terminated_append ls []
  have hnone : linesOf [] = [] := rfl
  rwa [List.append_nil, hnone, List.append_nil] at h

theorem linesOf_line {l : List UInt8} (h : lineEnd ∉ l) :
    linesOf (l ++ [lineEnd]) = [decode l] := by
  rw [linesOf, pieces_append h]
  rfl

/-! ## The first line -/

/-- The line that the bytes begin with: up to the first line end, which belongs to it, or all of
    the bytes if there is none. -/
inductive FirstLine : List UInt8 → List UInt8 → Prop where
  | terminated {l bs} : lineEnd ∉ l → FirstLine (l ++ lineEnd :: bs) (l ++ [lineEnd])
  | unterminated {l} : lineEnd ∉ l → FirstLine l l

theorem exists_firstLine (bytes : List UInt8) : ∃ first, FirstLine bytes first := by
  have hcuts := cuts_pieces bytes
  generalize pieces bytes = cuts at hcuts
  cases hcuts with
  | nil => exact ⟨[], .unterminated List.not_mem_nil⟩
  | unterminated hl _ => exact ⟨bytes, .unterminated hl⟩
  | terminated hl _ => exact ⟨_, .terminated hl⟩

theorem encode_concat (text : List Char) (c : Char) :
    encode (text ++ [c]) = encode text ++ String.utf8EncodeChar c := by
  rw [encode, List.flatMap_append, List.flatMap_singleton, encode]

/-- A line end behind an encoded text is a line break behind the text. -/
theorem encodes_concat_lineEnd_iff {text : List Char} :
    Encodes (piece ++ [lineEnd]) text ↔ ∃ t, text = t ++ ['\n'] ∧ Encodes piece t := by
  simp only [encodes_iff]
  constructor
  · intro h
    rcases List.eq_nil_or_concat' text with rfl | ⟨t, c, rfl⟩
    · exact absurd h (by simp [encode])
    · rw [encode_concat] at h
      -- the byte is the last one of the last character, so this is the line break
      have hlast : (String.utf8EncodeChar c).getLast? = some lineEnd := by
        rw [← List.getLast?_append_of_ne_nil _ String.utf8EncodeChar_ne_nil, ← h,
          List.getLast?_concat]
      obtain rfl := eq_newline_of_lineEnd_mem (List.mem_of_getLast? hlast)
      exact ⟨t, rfl, (List.append_inj' h rfl).1⟩
  · rintro ⟨t, rfl, rfl⟩
    rw [encode_concat]
    rfl

theorem decode_concat_lineEnd (l : List UInt8) :
    decode (l ++ [lineEnd]) = (decode l).map (· ++ ['\n']) := by
  rw [decode_eq_iff]
  cases h : decode l with
  | ok t => exact .text (encodes_concat_lineEnd_iff.2 ⟨t, rfl, decode_eq_ok_iff.1 h⟩)
  | error cause =>
    obtain ⟨hnone, rfl⟩ := decode_eq_error_iff.1 h
    refine .invalid fun text htext => ?_
    obtain ⟨t, -, ht⟩ := encodes_concat_lineEnd_iff.1 htext
    exact hnone t ht

end Workmeter.Text
