/-
  Workmeter — the reading of the table of interfaces.

  * `IsRow`: the lines that tell an interface, with its name and its counters;
  * `Yields`: what the counters of a row yield (`ofCounters_eq_iff`);
  * `Fails`: the lines at which a reading fails;
  * `LastRow`, `Holds`: the table that lines without a failure make;
  * `Holds.step`, `scan`: what a reading has behind some lines, and behind one more;
  * `Alike`, `read_congr`: lines that differ only where nothing is read;
  * `table_of_bytes`: all of it, for any stream of bytes.
-/
import Mathlib.Tactic.Tauto
import Workmeter.Interfaces
import Workmeter.Proofs.FirstFailure
import Workmeter.Proofs.HostCpu.Reading
import Workmeter.Proofs.Since
import Workmeter.Proofs.Text.Words

namespace Workmeter.Interfaces

open Text
open HostCpu (Counted FirstBad TakesDecimals counted_or_firstBad)

variable {name : String} {text : List Char} {counters : List (List Char)}
  {line line' : Line} {lines lines' past rest : List Line} {table : List Row}
  {row other : Row} {outcome : Except Fault InterfaceTraffic}

/-! ## The counters of a row -/

/-- The columns that count: the first four, and four from the ninth on. -/
def columns (counters : List (List Char)) : List (List Char) :=
  [0, 1, 2, 3, 8, 9, 10, 11].filterMap fun k => counters[k]?

/-- What the counters of a row yield. -/
inductive Yields (name : String) (counters : List (List Char)) :
    Except Fault InterfaceTraffic → Prop where
  /-- A row of fewer than sixteen counters is refused, whatever they are. -/
  | tooFew : counters.length < 16 →
      Yields name counters (.error (.tooFewCounters name counters.length))
  /-- Of the columns that count, the first that is no decimal of 64 bits is reported. -/
  | bad {token cause} : 16 ≤ counters.length → FirstBad (columns counters) token cause →
      Yields name counters (.error (.badCounter name (String.ofList token) cause))
  | traffic {rb rp re rd sb sp se sd} : 16 ≤ counters.length →
      Counted (columns counters) [rb, rp, re, rd, sb, sp, se, sd] →
      Yields name counters (.ok
        { received := { bytes := rb, packets := rp, errors := re, dropped := rd }
          sent := { bytes := sb, packets := sp, errors := se, dropped := sd } })

/-- The counters with these values in the columns that count. -/
def ofValues : List UInt64 → InterfaceTraffic
  | [rb, rp, re, rd, sb, sp, se, sd] => ⟨⟨rb, rp, re, rd⟩, ⟨sb, sp, se, sd⟩⟩
  | _ => {}

theorem takesDecimals_readCounter (name : String) :
    TakesDecimals (readCounter name) fun token => .badCounter name (String.ofList token) := by
  intro token
  rw [readCounter]
  cases Decimal.readUInt64 token <;> rfl

theorem ofCounters_of_few (h : counters.length < 16) :
    ofCounters name counters = .error (.tooFewCounters name counters.length) := by
  unfold ofCounters
  split
  · simp at h; omega
  · rfl

theorem ofCounters_of_enough (h : 16 ≤ counters.length) :
    ofCounters name counters = ofValues <$> (columns counters).mapM (readCounter name) := by
  iterate 16
    obtain _ | ⟨_, counters⟩ := counters
    · simp at h
  simp [ofCounters, columns, readTraffic, ofValues]

theorem length_columns (h : 16 ≤ counters.length) : (columns counters).length = 8 := by
  refine List.filterMap_length_eq_length.2 fun k hk => ?_
  simp only [List.mem_cons, List.not_mem_nil, or_false] at hk
  rw [List.getElem?_eq_getElem (by omega), Option.isSome_some]

theorem Yields.ofCounters_eq (h : Yields name counters outcome) :
    ofCounters name counters = outcome := by
  cases h with
  | tooFew hfew => exact ofCounters_of_few hfew
  | bad henough hbad =>
    rw [ofCounters_of_enough henough, hbad.mapM_eq (takesDecimals_readCounter name)]
    rfl
  | traffic henough hcounted =>
    rw [ofCounters_of_enough henough, hcounted.mapM_eq (takesDecimals_readCounter name)]
    rfl

theorem yields_ofCounters (name : String) (counters : List (List Char)) :
    Yields name counters (ofCounters name counters) := by
  obtain hfew | henough := Nat.lt_or_ge counters.length 16
  · rw [ofCounters_of_few hfew]
    exact .tooFew hfew
  · rw [ofCounters_of_enough henough]
    obtain ⟨ticks, hcounted⟩ | ⟨token, cause, hbad⟩ := counted_or_firstBad (columns counters)
    · rw [hcounted.mapM_eq (takesDecimals_readCounter name)]
      have hlength : ticks.length = 8 := hcounted.length_eq ▸ length_columns henough
      match ticks, hlength with
      | [rb, rp, re, rd, sb, sp, se, sd], _ => exact .traffic henough hcounted
    · rw [hbad.mapM_eq (takesDecimals_readCounter name)]
      exact .bad henough hbad

/-- **The counters of a row** yield one outcome, and no other. -/
theorem ofCounters_eq_iff : ofCounters name counters = outcome ↔ Yields name counters outcome :=
  ⟨fun h => h ▸ yields_ofCounters name counters, Yields.ofCounters_eq⟩

/-! ## Rows -/

/-- The line is a row: before its first colon stands the name of an interface that is not
    the loopback, and behind it the words that are its counters. -/
def IsRow (text : List Char) (name : String) (counters : List (List Char)) : Prop :=
  ∃ inner label rest, Trims text inner ∧ inner = label ++ ':' :: rest ∧ ':' ∉ label ∧
    Trims label name.toList ∧ name ≠ "lo" ∧ words rest = counters

theorem ofLine_of_isRow (h : IsRow text name counters) :
    ofLine text = (ofCounters name counters).map fun traffic => some (name, traffic) := by
  obtain ⟨inner, label, rest, hinner, hcut, hlabel, hname, hne, hwords⟩ := h
  have hloopback : name.toList ≠ loopback := fun he => hne (String.toList_inj.1 he)
  rw [ofLine, trim_eq_iff.2 hinner, cut_eq_some_iff.2 ⟨hcut, hlabel⟩]
  simp only [trim_eq_iff.2 hname, if_neg hloopback, String.ofList_toList, hwords]

theorem ofLine_of_not_isRow (h : ∀ name counters, ¬ IsRow text name counters) :
    ofLine text = .ok none := by
  rw [ofLine]
  cases hcut : cut ':' (trim text) with
  | none => rfl
  | some parts =>
    obtain ⟨label, rest⟩ := parts
    obtain ⟨hinner, hlabel⟩ := cut_eq_some_iff.1 hcut
    refine if_pos (not_not.1 fun hloopback => ?_)
    refine h (String.ofList (trim label)) (words rest)
      ⟨_, label, rest, trim_eq_iff.1 rfl, hinner, hlabel, ?_, fun he => hloopback ?_, rfl⟩
    · rw [String.toList_ofList]
      exact trim_eq_iff.1 rfl
    · simpa [loopback] using congrArg String.toList he

theorem ofLine_eq_none_iff :
    ofLine text = .ok none ↔ ∀ name counters, ¬ IsRow text name counters := by
  refine ⟨fun h name counters hrow => ?_, ofLine_of_not_isRow⟩
  rw [ofLine_of_isRow hrow] at h
  cases hof : ofCounters name counters <;> rw [hof] at h <;> cases h

theorem eq_of_isRow {name' : String} {counters' : List (List Char)}
    (h : IsRow text name counters) (h' : IsRow text name' counters') :
    name' = name ∧ counters' = counters := by
  obtain ⟨inner, label, rest, hinner, hcut, hlabel, hname, -, rfl⟩ := h
  obtain ⟨inner', label', rest', hinner', hcut', hlabel', hname', -, rfl⟩ := h'
  obtain rfl : inner = inner' := (trim_eq_iff.2 hinner).symm.trans (trim_eq_iff.2 hinner')
  have hparts := (cut_eq_some_iff.2 ⟨hcut, hlabel⟩).symm.trans (cut_eq_some_iff.2 ⟨hcut', hlabel'⟩)
  cases hparts
  exact ⟨String.toList_inj.1 ((trim_eq_iff.2 hname').symm.trans (trim_eq_iff.2 hname)), rfl⟩

/-- Why a reading fails at a line, behind the lines `past`. -/
inductive Fails (past : List Line) : Line → Fault → Prop where
  | reading {cause : ReadFault} : Fails past (.error cause) (.reading cause)
  /-- Two lines are the header; every later row has to yield counters. -/
  | row {text : List Char} {name : String} {counters : List (List Char)} {fault : Fault} :
      2 ≤ past.length → IsRow text name counters → Yields name counters (.error fault) →
      Fails past (.ok text) fault

/-- The line is a row of that name. -/
def Names (name : String) (line : Line) : Prop :=
  ∃ text counters, line = .ok text ∧ IsRow text name counters

/-- The line tells the row. -/
def Tells (row : Row) (line : Line) : Prop :=
  ∃ text counters, line = .ok text ∧ IsRow text row.1 counters ∧ Yields row.1 counters (.ok row.2)

theorem names_iff_of_isRow {other : String} (h : IsRow text name counters) :
    Names other (.ok text) ↔ other = name := by
  constructor
  · rintro ⟨text', counters', he, hrow⟩
    cases he
    exact (eq_of_isRow h hrow).1
  · rintro rfl
    exact ⟨text, counters, rfl, h⟩

theorem tells_iff_of_isRow (h : IsRow text row.1 counters)
    (hyields : Yields row.1 counters (.ok row.2)) : Tells other (.ok text) ↔ other = row := by
  constructor
  · rintro ⟨text', counters', he, hother, hyields'⟩
    cases he
    obtain ⟨hname, rfl⟩ := eq_of_isRow h hother
    rw [hname] at hyields'
    exact Prod.ext hname (Except.ok.inj (hyields'.ofCounters_eq.symm.trans hyields.ofCounters_eq))
  · rintro rfl
    exact ⟨text, counters, rfl, h, hyields⟩

/-! ## The table -/

theorem mem_put_iff : other ∈ put table row ↔ other = row ∨ other ∈ table ∧ other.1 ≠ row.1 := by
  unfold put
  split
  · rename_i hmem
    obtain ⟨before, hbefore, hname⟩ := List.mem_map.1 hmem
    rw [List.mem_map]
    constructor
    · rintro ⟨before, hbefore, rfl⟩
      by_cases h : before.1 = row.1 <;> simp [h, hbefore]
    · rintro (rfl | ⟨hother, hne⟩)
      · exact ⟨before, hbefore, if_pos hname⟩
      · exact ⟨other, hother, if_neg hne⟩
  · rename_i hnot
    have hne : other ∈ table → other.1 ≠ row.1 := fun hother he =>
      hnot (he ▸ List.mem_map_of_mem hother)
    rw [List.mem_append, List.mem_singleton]
    tauto

theorem name_mem_put_iff :
    name ∈ (put table row).map (·.1) ↔ name ∈ table.map (·.1) ∨ name = row.1 := by
  rw [put_names]
  split
  · rename_i hmem
    exact ⟨.inl, fun h => h.elim id fun he => he ▸ hmem⟩
  · rw [List.mem_append, List.mem_singleton]

/-- The last line that is a row of this name tells this row. -/
def LastRow (row : Row) (lines : List Line) : Prop :=
  Since (Tells row) (fun line => ¬ Names row.1 line) (lines.drop 2)

/-- The table has one row for each name, as the last line of this name tells it. -/
structure Holds (lines : List Line) (table : List Row) : Prop where
  nodup : (table.map (·.1)).Nodup
  name_mem_iff : ∀ name, name ∈ table.map (·.1) ↔ ∃ line ∈ lines.drop 2, Names name line
  mem_iff : ∀ row, row ∈ table ↔ LastRow row lines

theorem Holds.nil : Holds [] [] where
  nodup := List.nodup_nil
  name_mem_iff name := by simp
  mem_iff row := by simp [LastRow, since_nil]

theorem Holds.header (h : Holds past table) (hpast : past.length < 2) :
    Holds (past ++ [line]) table := by
  have hdrop : (past ++ [line]).drop 2 = past.drop 2 := by
    rw [List.drop_of_length_le (by simp; omega), List.drop_of_length_le (by omega)]
  exact ⟨h.nodup, by rw [hdrop]; exact h.name_mem_iff,
    fun row => by rw [LastRow, hdrop]; exact h.mem_iff row⟩

section
variable (h : Holds past table) (hpast : 2 ≤ past.length)
include h hpast

theorem Holds.silent (hline : ∀ name, ¬ Names name line) : Holds (past ++ [line]) table := by
  have hdrop : (past ++ [line]).drop 2 = past.drop 2 ++ [line] :=
    List.drop_append_of_le_length hpast
  have hnot : ∀ row, ¬ Tells row line := fun row ⟨text, counters, he, hrow, _⟩ =>
    hline row.1 ⟨text, counters, he, hrow⟩
  refine ⟨h.nodup, fun name => ?_, fun row => ?_⟩
  · rw [h.name_mem_iff, hdrop]
    simp [hline, or_and_right, exists_or]
  · rw [h.mem_iff, LastRow, LastRow, hdrop, since_concat]
    simp [hline, hnot]

theorem Holds.put (hrow : IsRow text row.1 counters)
    (hyields : Yields row.1 counters (.ok row.2)) :
    Holds (past ++ [.ok text]) (put table row) := by
  have hdrop : (past ++ [Except.ok text]).drop 2 = past.drop 2 ++ [.ok text] :=
    List.drop_append_of_le_length hpast
  refine ⟨put_names_nodup h.nodup, fun name => ?_, fun other => ?_⟩
  · rw [name_mem_put_iff, h.name_mem_iff, hdrop]
    simp [or_and_right, exists_or, names_iff_of_isRow hrow]
  · rw [mem_put_iff, h.mem_iff, LastRow, LastRow, hdrop, since_concat,
      tells_iff_of_isRow hrow hyields, names_iff_of_isRow hrow]
    tauto

end

/-! ## A reading -/

/-- What is left to do of a reading: `header` lines to skip, and rows to put into the table. -/
def resume (header : Nat) (table : List Row) (lines : List Line) : Except Fault (List Row) :=
  (skipHeader header lines).bind (readRows table)

/-- A line that does not fail takes a reading on. -/
theorem Holds.step (h : Holds past table) (hline : ∀ fault, ¬ Fails past line fault) :
    ∃ table', Holds (past ++ [line]) table' ∧ ∀ rest,
      resume (2 - past.length) table (line :: rest) =
        resume (2 - (past ++ [line]).length) table' rest := by
  obtain cause | text := line
  · exact absurd .reading (hline _)
  obtain hpast | hpast := Nat.lt_or_ge past.length 2
  · -- a line of the header
    have hleft : 2 - past.length = 2 - (past ++ [Except.ok text]).length + 1 := by simp; omega
    refine ⟨table, h.header hpast, fun rest => ?_⟩
    rw [hleft]
    rfl
  · have hnone : 2 - past.length = 0 ∧ 2 - (past ++ [Except.ok text]).length = 0 := by
      simp; omega
    rw [hnone.1, hnone.2]
    by_cases hrow : ∃ name counters, IsRow text name counters
    · obtain ⟨name, counters, hrow⟩ := hrow
      have hyields := yields_ofCounters name counters
      have hofLine := ofLine_of_isRow hrow
      cases hof : ofCounters name counters with
      | error fault =>
        rw [hof] at hyields
        exact absurd (.row hpast hrow hyields) (hline fault)
      | ok traffic =>
        rw [hof] at hyields hofLine
        refine ⟨Interfaces.put table (name, traffic), h.put hpast hrow hyields, fun rest => ?_⟩
        change readRows table (.ok text :: rest) =
          readRows (Interfaces.put table (name, traffic)) rest
        rw [readRows, hofLine]
        rfl
    · have hno : ∀ name counters, ¬ IsRow text name counters :=
        fun name counters hrow' => hrow ⟨name, counters, hrow'⟩
      refine ⟨table, h.silent hpast ?_, fun rest => ?_⟩
      · rintro name ⟨text', counters, he, hrow'⟩
        cases he
        exact hno name counters hrow'
      · change readRows table (.ok text :: rest) = readRows table rest
        rw [readRows, ofLine_of_not_isRow hno]

/-- A line that fails ends a reading. -/
theorem resume_of_fails {fault : Fault} (h : Fails past line fault) :
    resume (2 - past.length) table (line :: rest) = .error fault := by
  cases h with
  | reading => cases 2 - past.length <;> rfl
  | @row text name counters fault hpast hrow hyields =>
    have hnone : 2 - past.length = 0 := by omega
    have hofLine : ofLine text = .error fault := by
      rw [ofLine_of_isRow hrow, hyields.ofCounters_eq]
      rfl
    rw [hnone]
    change readRows table (.ok text :: rest) = .error fault
    rw [readRows, hofLine]

/-- **A reading of lines** goes on with the table of the lines behind it, until a line fails. -/
theorem scan :
    Scan Fails (fun past next => ∃ table, Holds past table ∧ next = resume (2 - past.length) table)
      read where
  start := ⟨[], .nil, rfl⟩
  step := by
    rintro past _ line ⟨table, hholds, rfl⟩ hline
    obtain ⟨table', hholds', hstep⟩ := hholds.step hline
    exact ⟨_, ⟨table', hholds', rfl⟩, hstep⟩
  stop := by
    rintro past _ line fault ⟨table, -, rfl⟩ hfails rest
    exact resume_of_fails hfails
  finish := by
    rintro past _ ⟨table, -, rfl⟩
    exact ⟨table, by cases 2 - past.length <;> rfl⟩

theorem holds_of_read (h : read lines = .ok table) : Holds lines table := by
  obtain ⟨_, ⟨table', hholds, rfl⟩, htable⟩ := scan.inv_of_ok h
  have hend : resume (2 - lines.length) table' [] = .ok table' := by
    cases 2 - lines.length <;> rfl
  rw [hend] at htable
  cases htable
  exact hholds

theorem Holds.loopback_not_mem (h : Holds lines table) : "lo" ∉ table.map (·.1) := by
  rw [h.name_mem_iff]
  rintro ⟨line, -, text, counters, -, hrow⟩
  obtain ⟨inner, label, rest, -, -, -, -, hne, -⟩ := hrow
  exact hne rfl

/-! ## What is never read -/

/-- The lines differ at most where nothing is read: both are no rows, or both are rows of one
    name with the same counters in the columns that count. -/
inductive Alike : Line → Line → Prop where
  | refl (line : Line) : Alike line line
  | silent {text text' : List Char} : (∀ name counters, ¬ IsRow text name counters) →
      (∀ name counters, ¬ IsRow text' name counters) → Alike (.ok text) (.ok text')
  | row {text text' : List Char} {name : String} {counters counters' : List (List Char)} :
      IsRow text name counters → IsRow text' name counters' → 16 ≤ counters.length →
      16 ≤ counters'.length → columns counters' = columns counters →
      Alike (.ok text) (.ok text')

theorem Alike.readRows_cons (h : Alike line line')
    (hrest : ∀ table, readRows table rest = readRows table lines) :
    readRows table (line :: rest) = readRows table (line' :: lines) := by
  cases h with
  | refl =>
    obtain cause | text := line
    · rfl
    · rw [readRows, readRows]
      split <;> simp only [hrest]
  | silent htext htext' =>
    rw [readRows, readRows, ofLine_of_not_isRow htext, ofLine_of_not_isRow htext']
    exact hrest table
  | row hrow hrow' henough henough' hcolumns =>
    rw [readRows, readRows, ofLine_of_isRow hrow, ofLine_of_isRow hrow',
      ofCounters_of_enough henough, ofCounters_of_enough henough', hcolumns]
    split <;> simp only [hrest]

/-- **Rows that are alike** make the same table, or fail alike. -/
theorem readRows_congr (h : List.Forall₂ Alike lines lines') :
    readRows table lines = readRows table lines' := by
  induction h generalizing table with
  | nil => rfl
  | cons hline _ ih => exact hline.readRows_cons fun table => ih

/-! ## Bytes -/

/-- **The table of interfaces** fails with the first line that does, or has the counters of the
    last row of each name; all that is no counter of a row makes no difference. -/
theorem table_of_bytes (bytes : List UInt8) :
    ∃ lines, Reads bytes lines ∧
      (∀ fault, read (linesOf bytes) = .error fault ↔ FailsFirst Fails lines fault) ∧
      ((∃ table, read (linesOf bytes) = .ok table) ↔ Clean Fails lines) ∧
      (∀ table, read (linesOf bytes) = .ok table →
        Holds lines table ∧ "lo" ∉ table.map (·.1)) ∧
      ∀ h₁ h₂ rows, lines = .ok h₁ :: .ok h₂ :: rows →
        ∀ bytes' h₁' h₂' rows', Reads bytes' (.ok h₁' :: .ok h₂' :: rows') →
          List.Forall₂ Alike rows rows' → read (linesOf bytes') = read (linesOf bytes) := by
  refine ⟨linesOf bytes, reads_iff.2 rfl, fun fault => scan.eq_error_iff, scan.exists_ok_iff,
    fun table htable => ⟨holds_of_read htable, fun hlo => ?_⟩, ?_⟩
  · obtain ⟨line, -, text, counters, -, hrow⟩ := ((holds_of_read htable).name_mem_iff "lo").1 hlo
    obtain ⟨inner, label, rest, -, -, -, -, hne, -⟩ := hrow
    exact hne rfl
  · intro h₁ h₂ rows hlines bytes' h₁' h₂' rows' hreads halike
    rw [reads_iff.1 hreads, hlines]
    exact (readRows_congr halike).symm

/-- The second row of a name counts.  Another header, another line that is no row, and other
    words in the columns that do not count make no difference.  A row of two counters fails. -/
theorem table_of_bytes_of_repeated_name :
    let nines := "a: 9 9 9 9 9 9 9 9 9 9 9 9 9 9 9 9\n"
    let bytes := ("\n\nlo: x\n" ++ nines ++ "a:1 2 3 4 - - - - 5 6 7 8 - - - -\n").toUTF8.data.toList
    let other := ("h\nh\nodd\n" ++ nines ++ "a:1 2 3 4 0 0 0 0 5 6 7 8 0 0 0 0 x").toUTF8.data.toList
    let last : Row := ("a", { received := ⟨1, 2, 3, 4⟩, sent := ⟨5, 6, 7, 8⟩ })
    (∃ table, read (linesOf bytes) = .ok table ∧ last ∈ table ∧ (table.map (·.1)).Nodup) ∧
    read (linesOf other) = read (linesOf bytes) ∧
    read (linesOf (bytes ++ "b: 1 2".toUTF8.data.toList)) = .error (.tooFewCounters "b" 2) := by
  intro nines bytes other last
  obtain ⟨lines, hreads, -, hclean, htable, hsame⟩ := table_of_bytes bytes
  obtain ⟨longer, hlonger, hfault, -⟩ := table_of_bytes (bytes ++ "b: 1 2".toUTF8.data.toList)
  obtain rfl := reads_iff.1 hreads
  obtain rfl := reads_iff.1 hlonger
  let first : Line := .ok "a: 9 9 9 9 9 9 9 9 9 9 9 9 9 9 9 9".toList
  let second : List Char := "a:1 2 3 4 - - - - 5 6 7 8 - - - -".toList
  let second' : List Char := "a:1 2 3 4 0 0 0 0 5 6 7 8 0 0 0 0 x".toList
  have hlines : linesOf bytes = .ok [] :: .ok [] :: [.ok "lo: x".toList, first, .ok second] := by
    decide +kernel
  have hother : Reads other (.ok ['h'] :: .ok ['h'] :: [.ok "odd".toList, first, .ok second']) :=
    reads_iff.2 (by decide +kernel)
  have hrow : IsRow second "a" (words (second.drop 2)) :=
    ⟨second, ['a'], second.drop 2, trim_eq_iff.1 (by decide +kernel), rfl, by decide,
      trim_eq_iff.1 (by decide +kernel), by decide, rfl⟩
  have hrow' : IsRow second' "a" (words (second'.drop 2)) :=
    ⟨second', ['a'], second'.drop 2, trim_eq_iff.1 (by decide +kernel), rfl, by decide,
      trim_eq_iff.1 (by decide +kernel), by decide, rfl⟩
  have hyields : Yields "a" (words (second.drop 2)) (.ok last.2) :=
    ofCounters_eq_iff.1 (by decide +kernel)
  have hok : ∃ table, read (linesOf bytes) = .ok table := ⟨[last], by decide +kernel⟩
  refine ⟨?_, ?_, ?_⟩
  · obtain ⟨table, hread⟩ := hok
    obtain ⟨hholds, -⟩ := htable table hread
    have hlast : LastRow last (linesOf bytes) := by
      rw [hlines]
      exact ⟨[_, first], .ok second, [], rfl, ⟨second, _, rfl, hrow, hyields⟩, nofun⟩
    exact ⟨table, hread, (hholds.mem_iff last).2 hlast, hholds.nodup⟩
  · refine hsame _ _ _ hlines _ _ _ _ hother (.cons (.silent ?_ ?_) (.cons (.refl _) (.cons ?_ .nil)))
    · exact ofLine_eq_none_iff.1 (by decide +kernel)
    · exact ofLine_eq_none_iff.1 (by decide +kernel)
    · exact .row hrow hrow' (by decide +kernel) (by decide +kernel) (by decide +kernel)
  · have hshort : linesOf (bytes ++ "b: 1 2".toUTF8.data.toList) =
        linesOf bytes ++ .ok "b: 1 2".toList :: [] := by decide +kernel
    have hrow : IsRow "b: 1 2".toList "b" [['1'], ['2']] :=
      ⟨_, ['b'], [' ', '1', ' ', '2'], trim_eq_iff.1 rfl, by decide +kernel, by decide,
        trim_eq_iff.1 (by decide +kernel), by decide, by decide +kernel⟩
    have hfew : Yields "b" [['1'], ['2']] (.error (.tooFewCounters "b" 2)) := .tooFew (by decide)
    exact (hfault _).2 ⟨_, _, _, hshort, hclean.1 hok, .row (by decide +kernel) hrow hfew⟩

end Workmeter.Interfaces
