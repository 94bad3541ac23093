/-
  Workmeter — the reading of the host's CPU time.

  The first line that is marked `cpu`, or that cannot be read, decides, and nothing behind
  it is looked at.

  * `Passed`, `Decides`: the lines that have no part in a reading, and the one that has;
  * `Yields`: what the words behind `cpu` yield (`Yields.ofFields_eq`);
  * `Tells`: what a stream of lines tells (`usage_eq_iff`);
  * `usage_of_bytes`: the same of a stream of bytes, whatever stands behind the words and
    the line that decide.
-/
import Mathlib.Algebra.Ring.Nat
import Mathlib.Data.List.Forall2
import Workmeter.HostCpu
import Workmeter.Proofs.FirstFailure
import Workmeter.Proofs.Text.Decimal
import Workmeter.Proofs.Text.Lines

namespace Workmeter.HostCpu

open Text

variable {hz : Nat} {lines before after : List Line} {line : Line} {text : List Char}
  {fields : List (List Char)} {ticks : List UInt64}
  {outcome : Except Fault UInt64}

/-! ## Counters -/

/-- The fields are the decimals of these counters. -/
def Counted (fields : List (List Char)) (ticks : List UInt64) : Prop :=
  List.Forall₂ (fun field count => Decimal.Denotes field count.toNat) fields ticks

/-- The first of the fields that is no decimal of 64 bits, and why it is none. -/
def FirstBad (fields : List (List Char)) (bad : List Char) (cause : Decimal.Fault) : Prop :=
  ∃ good rest, fields = good ++ bad :: rest ∧
    (∀ field ∈ good, Decimal.DenotesWord field) ∧ ¬ Decimal.DenotesWord bad ∧
    Decimal.readUInt64 bad = .error cause

section
variable {ε : Type} {read : List Char → Except ε UInt64} {refusal : List Char → Decimal.Fault → ε}

/-- The reader takes the decimals of 64 bits, and has a refusal of its own for all else. -/
def TakesDecimals (read : List Char → Except ε UInt64) (refusal : List Char → Decimal.Fault → ε) :
    Prop :=
  ∀ field, read field = (Decimal.readUInt64 field).mapError (refusal field)

theorem Counted.mapM_eq (hread : TakesDecimals read refusal) (h : Counted fields ticks) :
    fields.mapM read = .ok ticks := by
  induction h with
  | nil => rfl
  | cons hden _ ih =>
    rw [List.mapM_cons, hread, Decimal.readUInt64_eq_ok_iff.2 hden, ih]
    rfl

theorem FirstBad.mapM_eq (hread : TakesDecimals read refusal) {bad : List Char}
    {cause : Decimal.Fault} (h : FirstBad fields bad cause) :
    fields.mapM read = .error (refusal bad cause) := by
  obtain ⟨good, rest, rfl, hgood, -, hbad⟩ := h
  induction good with
  | nil =>
    rw [List.nil_append, List.mapM_cons, hread, hbad]
    rfl
  | cons field good ih =>
    obtain ⟨hfield, hgood⟩ := List.forall_mem_cons.1 hgood
    obtain ⟨count, hcount⟩ := Decimal.denotesWord_iff.1 hfield
    rw [List.cons_append, List.mapM_cons, hread, hcount, ih hgood]
    rfl

end

theorem takesDecimals_readField :
    TakesDecimals readField fun field => .badField (String.ofList field) := by
  intro field
  rw [readField]
  cases Decimal.readUInt64 field <;> rfl

/-- Either all fields are counters, or one of them is the first that is none. -/
theorem counted_or_firstBad (fields : List (List Char)) :
    (∃ ticks, Counted fields ticks) ∨ ∃ bad cause, FirstBad fields bad cause := by
  induction fields with
  | nil => exact .inl ⟨[], .nil⟩
  | cons field fields ih =>
    cases h : Decimal.readUInt64 field with
    | error cause =>
      exact .inr ⟨field, cause, [], fields, rfl, nofun, Decimal.not_denotesWord_iff.2 ⟨cause, h⟩, h⟩
    | ok count =>
      obtain ⟨ticks, hticks⟩ | ⟨bad, cause, good, rest, rfl, hgood, hbad⟩ := ih
      · exact .inl ⟨count :: ticks, .cons (Decimal.readUInt64_eq_ok_iff.1 h) hticks⟩
      · have hfield := Decimal.denotesWord_iff.2 ⟨count, h⟩
        exact .inr ⟨bad, cause, field :: good, rest, rfl,
          List.forall_mem_cons.2 ⟨hfield, hgood⟩, hbad⟩

theorem mapM_readField_eq_ok_iff : fields.mapM readField = .ok ticks ↔ Counted fields ticks := by
  refine ⟨fun h => ?_, fun h => h.mapM_eq takesDecimals_readField⟩
  obtain ⟨ticks', hcounted⟩ | ⟨bad, cause, hbad⟩ := counted_or_firstBad fields
  · rw [hcounted.mapM_eq takesDecimals_readField] at h
    cases h
    exact hcounted
  · rw [hbad.mapM_eq takesDecimals_readField] at h
    cases h

/-! ## The words behind `cpu` -/

/-- What the words behind `cpu` yield. -/
inductive Yields (hz : Nat) (fields : List (List Char)) : Except Fault UInt64 → Prop where
  /-- A line of fewer than eight words is refused, whatever its words are. -/
  | tooFew : fields.length < 7 → Yields hz fields (.error (.tooFewFields (fields.length + 1)))
  /-- Of the seven words that count, the first that is no counter is reported. -/
  | bad {field cause} : 7 ≤ fields.length → FirstBad (fields.take 7) field cause →
      Yields hz fields (.error (.badField (String.ofList field) cause))
  /-- The sum of the seven, in nanoseconds, is rounded down and capped. -/
  | usage {ticks n} : 7 ≤ fields.length → Counted (fields.take 7) ticks →
      n.toNat = min ((ticks.map UInt64.toNat).sum * 10 ^ 9 / max hz 1) (2 ^ 64 - 1) →
      Yields hz fields (.ok n)

theorem total_eq_sum (ticks : List UInt64) : total ticks = (ticks.map UInt64.toNat).sum := by
  rw [total, List.sum_eq_foldr, List.foldr_map]

theorem ofFields_of_few (h : fields.length < 7) :
    ofFields hz fields = .error (.tooFewFields (fields.length + 1)) := by
  have htake : fields.take counterCount = fields := List.take_of_length_le (by
    rw [counterCount]; omega)
  rw [ofFields, htake, counterCount, if_pos h]

theorem ofFields_of_enough (h : 7 ≤ fields.length) :
    ofFields hz fields =
      ((fields.take 7).mapM readField).map fun ticks => nanoseconds hz (total ticks) := by
  have hlength : ¬ (fields.take 7).length < 7 := by simp; omega
  rw [ofFields, counterCount, if_neg hlength]
  cases (fields.take 7).mapM readField <;> rfl

theorem Yields.ofFields_eq (h : Yields hz fields outcome) : ofFields hz fields = outcome := by
  cases h with
  | tooFew hfew => exact ofFields_of_few hfew
  | bad henough hbad => rw [ofFields_of_enough henough, hbad.mapM_eq takesDecimals_readField]; rfl
  | @usage ticks n henough hcounted hn =>
    have hsame : nanoseconds hz (total ticks) = n := by
      rw [← UInt64.toNat_inj, nanoseconds_toNat, total_eq_sum, hn]
      rfl
    rw [ofFields_of_enough henough, hcounted.mapM_eq takesDecimals_readField, ← hsame]
    rfl

theorem yields_ofFields (hz : Nat) (fields : List (List Char)) :
    Yields hz fields (ofFields hz fields) := by
  obtain hfew | henough := Nat.lt_or_ge fields.length 7
  · rw [ofFields_of_few hfew]
    exact .tooFew hfew
  · obtain ⟨ticks, hcounted⟩ | ⟨field, cause, hbad⟩ := counted_or_firstBad (fields.take 7)
    · rw [ofFields_of_enough henough, hcounted.mapM_eq takesDecimals_readField]
      refine .usage henough hcounted ?_
      rw [nanoseconds_toNat, total_eq_sum]
      rfl
    · rw [ofFields_of_enough henough, hbad.mapM_eq takesDecimals_readField]
      exact .bad henough hbad

/-! ## Lines -/

/-- The line can be read, and is not marked `cpu`. -/
def Passed (line : Line) : Prop :=
  ∃ text, line = .ok text ∧ (words text).head? ≠ some ['c', 'p', 'u']

/-- The first line marked `cpu` has these words behind the mark, and all lines before it can
    be read. -/
def Decides (lines : List Line) (fields : List (List Char)) : Prop :=
  ∃ before text after, lines = before ++ .ok text :: after ∧ (∀ line ∈ before, Passed line) ∧
    words text = ['c', 'p', 'u'] :: fields

/-- What a stream of lines tells. -/
inductive Tells (hz : Nat) (lines : List Line) : Except Fault UInt64 → Prop where
  /-- A line that cannot be read comes before any that is marked. -/
  | unreadable {before : List Line} {cause : ReadFault} {after : List Line} :
      lines = before ++ .error cause :: after → (∀ line ∈ before, Passed line) →
      Tells hz lines (.error (.reading cause))
  | noCpuLine : (∀ line ∈ lines, Passed line) → Tells hz lines (.error .noCpuLine)
  | decided {fields : List (List Char)} {outcome : Except Fault UInt64} :
      Decides lines fields → Yields hz fields outcome → Tells hz lines outcome

theorem usage_of_passed (h : Passed line) : usage hz (line :: lines) = usage hz lines := by
  obtain ⟨text, rfl, hhead⟩ := h
  rw [usage]
  split
  · rename_i hwords
    exact absurd (by rw [hwords]; rfl) hhead
  · rfl

theorem usage_append_of_passed (h : ∀ line ∈ before, Passed line) :
    usage hz (before ++ lines) = usage hz lines :=
  append_of_skipped (fun _ hline _ => usage_of_passed hline) h lines

theorem usage_of_marked (h : words text = ['c', 'p', 'u'] :: fields) :
    usage hz (.ok text :: after) = ofFields hz fields := by
  rw [usage, h]
  rfl

theorem Decides.usage_eq (h : Decides lines fields) : usage hz lines = ofFields hz fields := by
  obtain ⟨before, text, after, rfl, hbefore, hwords⟩ := h
  rw [usage_append_of_passed hbefore, usage_of_marked hwords]

/-- A line is passed, or marked, or cannot be read. -/
theorem line_cases (line : Line) :
    Passed line ∨ (∃ text fields, line = .ok text ∧ words text = ['c', 'p', 'u'] :: fields) ∨
      ∃ cause, line = .error cause := by
  cases line with
  | error cause => exact .inr (.inr ⟨cause, rfl⟩)
  | ok text =>
    by_cases h : (words text).head? = some ['c', 'p', 'u']
    · obtain ⟨fields, hwords⟩ := List.head?_eq_some_iff.1 h
      exact .inr (.inl ⟨text, fields, rfl, hwords⟩)
    · exact .inl ⟨text, rfl, h⟩

theorem tells_usage (hz : Nat) (lines : List Line) : Tells hz lines (usage hz lines) := by
  obtain hall | ⟨before, line, after, rfl, hbefore, hline⟩ := all_or_first Passed lines
  · have hnone : usage hz (lines ++ []) = usage hz [] := usage_append_of_passed hall
    rw [List.append_nil] at hnone
    rw [hnone]
    exact .noCpuLine hall
  · rw [usage_append_of_passed hbefore]
    obtain hpassed | ⟨text, fields, rfl, hwords⟩ | ⟨cause, rfl⟩ := line_cases line
    · exact absurd hpassed hline
    · rw [usage_of_marked hwords]
      exact .decided ⟨before, text, after, rfl, hbefore, hwords⟩ (yields_ofFields hz fields)
    · exact .unreadable rfl hbefore

theorem Tells.usage_eq (h : Tells hz lines outcome) : usage hz lines = outcome := by
  cases h with
  | unreadable he hbefore => rw [he, usage_append_of_passed hbefore]; rfl
  | noCpuLine hall => rw [← List.append_nil lines, usage_append_of_passed hall]; rfl
  | decided hdecides hyields => rw [hdecides.usage_eq, hyields.ofFields_eq]

/-- **A stream of lines** tells one outcome, and no other. -/
theorem usage_eq_iff : usage hz lines = outcome ↔ Tells hz lines outcome :=
  ⟨fun h => h ▸ tells_usage hz lines, Tells.usage_eq⟩

theorem ofFields_congr {fields' : List (List Char)} (h : fields'.take 7 = fields.take 7) :
    ofFields hz fields' = ofFields hz fields := by
  rw [ofFields, ofFields, counterCount, h]

/-- The line that decides does so by its first eight words, whatever stands behind them or
    below it. -/
theorem usage_of_same_words {text' : List Char} {after' : List Line}
    (hbefore : ∀ line ∈ before, Passed line)
    (hwords : words text = ['c', 'p', 'u'] :: fields)
    (hsame : (words text').take 8 = (words text).take 8) :
    usage hz (before ++ .ok text' :: after') = usage hz (before ++ .ok text :: after) := by
  have hmarked : ∃ fields', words text' = ['c', 'p', 'u'] :: fields' := by
    cases hw : words text' with
    | nil => simp [hw, hwords] at hsame
    | cons first fields' =>
      rw [hw, hwords, List.take_succ_cons, List.take_succ_cons] at hsame
      exact ⟨fields', by rw [(List.cons.inj hsame).1]⟩
  obtain ⟨fields', hwords'⟩ := hmarked
  rw [hwords', hwords, List.take_succ_cons, List.take_succ_cons] at hsame
  rw [usage_append_of_passed hbefore, usage_append_of_passed hbefore, usage_of_marked hwords',
    usage_of_marked hwords, ofFields_congr (List.cons.inj hsame).2]

/-! ## Bytes -/

/-- **The CPU time of the host** is read off the first line marked `cpu`, as the lines up to it
    tell; whatever else the stream holds makes no difference. -/
theorem usage_of_bytes (hz : Nat) (bytes : List UInt8) :
    ∃ lines, Reads bytes lines ∧
      (∀ outcome, usage hz (linesOf bytes) = outcome ↔ Tells hz lines outcome) ∧
      (∀ found, (Fault.tooFewFields found).message =
        s!"invalid number of cpu fields: expected at least 8, found {found}") ∧
      ∀ before text after fields, lines = before ++ .ok text :: after →
        (∀ line ∈ before, Passed line) → words text = ['c', 'p', 'u'] :: fields →
        ∀ bytes' text' after', Reads bytes' (before ++ .ok text' :: after') →
          (words text').take 8 = (words text).take 8 →
          usage hz (linesOf bytes') = usage hz (linesOf bytes) := by
  refine ⟨linesOf bytes, reads_iff.2 rfl, fun outcome => usage_eq_iff, fun found => rfl, ?_⟩
  intro before text after fields he hbefore hwords bytes' text' after' hreads hsame
  rw [reads_iff.1 hreads, he]
  exact usage_of_same_words hbefore hwords hsame

/-- The line `cpu0` is no mark.  Of two streams with the same counters, one has a word and a
    line behind them, and the line is not UTF-8. -/
theorem usage_of_bytes_before_garbage :
    let counters : List UInt8 := [99, 112, 117, 48, 32, 57, 10, 99, 112, 117, 32, 49, 32, 50, 32,
      51, 32, 52, 32, 43, 53, 32, 54, 32, 55]  -- `cpu0 9`, and `cpu 1 2 3 4 +5 6 7`
    usage 100 (linesOf counters) = .ok 280000000 ∧
      usage 100 (linesOf (counters ++ [32, 120, 10, 255])) = .ok 280000000 := by
  intro counters
  obtain ⟨lines, hreads, htells, -, hsame⟩ := usage_of_bytes 100 counters
  obtain rfl := reads_iff.1 hreads
  let unmarked : List Char := ['c', 'p', 'u', '0', ' ', '9']
  let marked : List Char := ['c', 'p', 'u', ' ', '1', ' ', '2', ' ', '3', ' ', '4', ' ', '+', '5',
    ' ', '6', ' ', '7']
  let fields : List (List Char) := [['1'], ['2'], ['3'], ['4'], ['+', '5'], ['6'], ['7']]
  have hlines : linesOf counters = [.ok unmarked] ++ .ok marked :: [] := by decide +kernel
  have hpassed : ∀ line ∈ [Except.ok unmarked], Passed line :=
    List.forall_mem_singleton.2 ⟨unmarked, rfl, by decide +kernel⟩
  have hwords : words marked = ['c', 'p', 'u'] :: fields := by decide +kernel
  have hcounted : Counted (fields.take 7) [1, 2, 3, 4, 5, 6, 7] :=
    mapM_readField_eq_ok_iff.1 (by decide +kernel)
  have hfirst : usage 100 (linesOf counters) = .ok 280000000 :=
    (htells _).2 (.decided ⟨_, _, _, hlines, hpassed, hwords⟩
      (.usage (by decide) hcounted (by decide)))
  have hgarbage : Reads (counters ++ [32, 120, 10, 255])
      ([.ok unmarked] ++ .ok (marked ++ [' ', 'x']) :: [.error .notUtf8]) :=
    reads_iff.2 (by decide +kernel)
  exact ⟨hfirst, (hsame _ _ _ _ hlines hpassed hwords _ _ _ hgarbage (by decide +kernel)).trans
    hfirst⟩

end Workmeter.HostCpu
