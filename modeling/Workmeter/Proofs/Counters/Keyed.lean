/-
  Workmeter — the reading of stat files of keys and values.

  * `Mentions`, `Sets`: what a line says of a known key;
  * `Fails`: the lines at which a reading fails;
  * `LastSet`, `Holds`: the record that lines without a failure make;
  * `Reached`, `Reached.step`: what a reading knows behind some lines, and behind one more;
  * `scan`, `holds_of_read`: a reading of lines, and the record that it gives;
  * `CpuStat.independent_field`: the keys of the CPU accounting have fields of their own;
  * `keyed_reading_first_failure_or_last_values`: all of it, for any stream of bytes.
-/
import Workmeter.Counters.Cpu
import Workmeter.Proofs.FirstFailure
import Workmeter.Proofs.Since
import Workmeter.Proofs.Text.Decimal
import Workmeter.Proofs.Text.Lines
import Workmeter.Sample.Json

namespace Workmeter

namespace KeyedFormat

open Text

variable {α : Type} {format : KeyedFormat α} {key : String} {text token : List Char}
  {value : UInt64} {cause : Decimal.Fault} {line : Line} {lines past rest : List Line}

/-! ## What a line says -/

/-- The format knows the key. -/
def Known (format : KeyedFormat α) (key : String) : Prop := key ∈ format.keys.map Prod.fst

/-- The first word of the text is this key, which is known, and the second is this token. -/
def Mentions (format : KeyedFormat α) (text : List Char) (key : String) (token : List Char) :
    Prop :=
  format.Known key ∧ ∃ more, words text = key.toList :: token :: more

/-- The line sets the key to this value. -/
def Sets (format : KeyedFormat α) (key : String) (value : UInt64) (line : Line) : Prop :=
  ∃ text token, line = .ok text ∧ format.Mentions text key token ∧
    Decimal.Denotes token value.toNat

/-- Why a reading fails at a line, behind the lines `past`. -/
inductive Fails (format : KeyedFormat α) (past : List Line) : Line → StatFault → Prop where
  | reading {cause : ReadFault} : Fails format past (.error cause) (.reading cause)
  /-- The token of a known key is no decimal of 64 bits. -/
  | badEntry {text : List Char} {key : String} {token : List Char} {cause : Decimal.Fault} :
      format.Mentions text key token → ¬ Decimal.DenotesWord token →
      Decimal.readUInt64 token = .error cause →
      Fails format past (.ok text) (.badEntry key (String.ofList token) (past.length + 1) cause)
  /-- A key that may be set once is set again. -/
  | repeatedKey {line : Line} {key : String} {value : UInt64} :
      format.repeats = false → format.Sets key value line →
      (∃ earlier ∈ past, ∃ v, format.Sets key v earlier) →
      Fails format past line (.repeatedKey key (past.length + 1))

theorem known_iff : format.Known key ↔ ∃ store, format.keys.lookup key = some store := by
  rw [← Option.isSome_iff_exists, List.lookup_isSome_iff]
  simp only [Known, List.mem_map, beq_iff_eq]
  exact exists_congr fun entry => and_congr_right fun _ => eq_comm

theorem eq_of_mentions {key' : String} {token' : List Char} (h : format.Mentions text key token)
    (h' : format.Mentions text key' token') : key' = key ∧ token' = token := by
  obtain ⟨-, more, hwords⟩ := h
  obtain ⟨-, more', hwords'⟩ := h'
  rw [hwords] at hwords'
  simp only [List.cons.injEq, String.toList_inj] at hwords'
  exact ⟨hwords'.1.symm, hwords'.2.1.symm⟩

theorem eq_of_sets {key' : String} {value' : UInt64} (h : format.Sets key value line)
    (h' : format.Sets key' value' line) : key' = key ∧ value' = value := by
  obtain ⟨text, token, rfl, hmentions, hden⟩ := h
  obtain ⟨text', token', he, hmentions', hden'⟩ := h'
  cases he
  obtain ⟨rfl, rfl⟩ := eq_of_mentions hmentions hmentions'
  rw [← Decimal.readUInt64_eq_ok_iff] at hden hden'
  rw [hden] at hden'
  exact ⟨rfl, (Except.ok.inj hden').symm⟩

/-- A line fails, or sets a key, or says nothing of any. -/
theorem line_cases (format : KeyedFormat α) (past : List Line) (line : Line) :
    (∃ fault, format.Fails past line fault) ∨ (∃ key value, format.Sets key value line) ∨
      ∃ text, line = .ok text ∧ ∀ key token, ¬ format.Mentions text key token := by
  cases line with
  | error cause => exact .inl ⟨_, .reading⟩
  | ok text =>
    by_cases h : ∃ key token, format.Mentions text key token
    · obtain ⟨key, token, hmentions⟩ := h
      cases hread : Decimal.readUInt64 token with
      | error cause =>
        exact .inl ⟨_, .badEntry hmentions (Decimal.not_denotesWord_iff.2 ⟨cause, hread⟩) hread⟩
      | ok value =>
        exact .inr (.inl ⟨key, value, text, token, rfl, hmentions,
          Decimal.readUInt64_eq_ok_iff.1 hread⟩)
    · exact .inr (.inr ⟨text, rfl, fun key token hmentions => h ⟨key, token, hmentions⟩⟩)

/-! ## One line -/

theorem readFrom_of_silent {n : Nat} {seen : List String} {record : α}
    (h : ∀ key token, ¬ format.Mentions text key token) :
    format.readFrom n seen record (.ok text :: rest) =
      format.readFrom (n + 1) seen record rest := by
  rw [readFrom]
  split
  · rename_i first second more hwords
    cases hlookup : format.keys.lookup (String.ofList first) with
    | none => simp only [hlookup]
    | some store =>
      refine absurd ⟨known_iff.2 ⟨store, hlookup⟩, more, ?_⟩ (h (String.ofList first) second)
      rw [hwords, String.toList_ofList]
  · rfl

section
variable {n : Nat} {seen : List String} {record : α}

theorem readFrom_of_bad (h : format.Mentions text key token)
    (hread : Decimal.readUInt64 token = .error cause) :
    format.readFrom n seen record (.ok text :: rest) =
      .error (.badEntry key (String.ofList token) n cause) := by
  obtain ⟨hknown, more, hwords⟩ := h
  obtain ⟨store, hstore⟩ := known_iff.1 hknown
  rw [readFrom, hwords]
  simp only [String.ofList_toList, hstore, hread]

theorem readFrom_of_value (h : format.Mentions text key token)
    (hread : Decimal.readUInt64 token = .ok value) {store : α → UInt64 → α}
    (hstore : format.keys.lookup key = some store) :
    format.readFrom n seen record (.ok text :: rest) =
      if !format.repeats && seen.contains key then .error (.repeatedKey key n)
      else format.readFrom (n + 1) (key :: seen) (store record value) rest := by
  obtain ⟨-, more, hwords⟩ := h
  rw [readFrom, hwords]
  simp only [String.ofList_toList, hstore, hread]

end

/-! ## The record -/

/-- The last line that sets the key sets it to this value. -/
def LastSet (format : KeyedFormat α) (key : String) (value : UInt64) (lines : List Line) : Prop :=
  Since (format.Sets key value) (fun line => ∀ v, ¬ format.Sets key v line) lines

/-- Every known key has its own field, which is zero at first, and which nothing but a value of
    the key changes. -/
structure Independent (format : KeyedFormat α) (field : String → α → UInt64) : Prop where
  blank : ∀ key, format.Known key → field key format.blank = 0
  store : ∀ key store, (key, store) ∈ format.keys → ∀ record value other, format.Known other →
    field other (store record value) = if other = key then value else field other record

/-- Every field holds the value that was set last, or zero if none was. -/
def Holds (format : KeyedFormat α) (field : String → α → UInt64) (lines : List Line)
    (record : α) : Prop :=
  ∀ key, format.Known key → ∀ value, field key record = value ↔
    format.LastSet key value lines ∨
      value = 0 ∧ ∀ line ∈ lines, ∀ v, ¬ format.Sets key v line

variable {field : String → α → UInt64} {seen : List String} {record : α}

theorem Holds.blank (h : format.Independent field) : format.Holds field [] format.blank := by
  intro key hknown value
  rw [h.blank key hknown]
  simp [LastSet, since_nil, eq_comm]

theorem Holds.silent (hrecord : format.Holds field past record)
    (hline : ∀ key v, ¬ format.Sets key v line) : format.Holds field (past ++ [line]) record := by
  intro key hknown value
  rw [hrecord key hknown value]
  simp [LastSet, since_concat, hline, or_imp, forall_and]

theorem Holds.set (h : format.Independent field) (hrecord : format.Holds field past record)
    (hline : format.Sets key value line) {store : α → UInt64 → α}
    (hstore : format.keys.lookup key = some store) :
    format.Holds field (past ++ [line]) (store record value) := by
  intro other hknown v
  have hmem : (key, store) ∈ format.keys := by
    obtain ⟨l₁, l₂, he, -⟩ := List.lookup_eq_some_iff.1 hstore
    simp [he]
  rw [h.store key store hmem record value other hknown, LastSet, since_concat]
  by_cases he : other = key
  · subst he
    rw [if_pos rfl]
    constructor
    · rintro rfl; exact .inl (.inl hline)
    · rintro ((hsets | ⟨hno, -⟩) | ⟨-, hnone⟩)
      · exact (eq_of_sets hsets hline).2
      · exact absurd hline (hno value)
      · exact absurd hline (hnone line (by simp) value)
  · have hno : ∀ w, ¬ format.Sets other w line := fun w hsets => he (eq_of_sets hline hsets).1
    rw [if_neg he, hrecord other hknown v]
    simp [LastSet, hno, or_imp, forall_and]

/-! ## A reading -/

/-- What a reading knows behind the lines `past`. -/
structure Reached (format : KeyedFormat α) (field : String → α → UInt64) (past : List Line)
    (seen : List String) (record : α) : Prop where
  seen_iff : ∀ key, key ∈ seen ↔ ∃ line ∈ past, ∃ v, format.Sets key v line
  holds : format.Holds field past record

theorem Reached.blank (h : format.Independent field) :
    format.Reached field [] [] format.blank :=
  ⟨by simp, .blank h⟩

/-- A line that does not fail takes a reading on. -/
theorem Reached.step (hfield : format.Independent field)
    (h : format.Reached field past seen record) (hline : ∀ fault, ¬ format.Fails past line fault) :
    ∃ seen' record', format.Reached field (past ++ [line]) seen' record' ∧
      ∀ rest, format.readFrom (past.length + 1) seen record (line :: rest) =
        format.readFrom (past.length + 2) seen' record' rest := by
  obtain ⟨fault, hfails⟩ | ⟨key, value, hsets⟩ | ⟨text, rfl, hsilent⟩ :=
    line_cases format past line
  · exact absurd hfails (hline fault)
  · obtain ⟨text, token, rfl, hmentions, hden⟩ := id hsets
    obtain ⟨store, hstore⟩ := known_iff.1 hmentions.1
    have hallowed : (!format.repeats && seen.contains key) = false := by
      by_contra hno
      simp only [Bool.not_eq_false, Bool.and_eq_true, Bool.not_eq_true', List.contains_iff_mem,
        h.seen_iff] at hno
      exact hline _ (.repeatedKey hno.1 hsets hno.2)
    refine ⟨key :: seen, store record value, ⟨fun other => ?_, h.holds.set hfield hsets hstore⟩,
      fun rest => ?_⟩
    · have hother : other = key ↔ ∃ v, format.Sets other v (.ok text) :=
        ⟨fun he => ⟨value, he ▸ hsets⟩, fun ⟨v, hv⟩ => (eq_of_sets hsets hv).1⟩
      rw [List.mem_cons, h.seen_iff, hother]
      simp [or_and_right, exists_or, or_comm]
    · rw [readFrom_of_value hmentions (Decimal.readUInt64_eq_ok_iff.2 hden) hstore, hallowed]
      rfl
  · have hno : ∀ key v, ¬ format.Sets key v (.ok text) := by
      rintro key v ⟨text', token, he, hmentions, -⟩
      cases he
      exact hsilent key token hmentions
    refine ⟨seen, record, ⟨fun key => ?_, h.holds.silent hno⟩,
      fun rest => readFrom_of_silent hsilent⟩
    rw [h.seen_iff]
    simp [or_and_right, exists_or, hno]

/-- A line that fails ends a reading. -/
theorem Reached.readFrom_of_fails {fault : StatFault} (h : format.Reached field past seen record)
    (hfails : format.Fails past line fault) :
    format.readFrom (past.length + 1) seen record (line :: rest) = .error fault := by
  cases hfails with
  | reading => rfl
  | badEntry hmentions _ hread => exact readFrom_of_bad hmentions hread
  | @repeatedKey _ key value hrepeats hsets hearlier =>
    obtain ⟨text, token, rfl, hmentions, hden⟩ := hsets
    obtain ⟨store, hstore⟩ := known_iff.1 hmentions.1
    have hseen : (!format.repeats && seen.contains key) = true := by
      simp [hrepeats, h.seen_iff, hearlier]
    rw [readFrom_of_value hmentions (Decimal.readUInt64_eq_ok_iff.2 hden) hstore, if_pos hseen]

/-- **A reading of lines** goes on by what it knows, until a line fails. -/
theorem scan (hfield : format.Independent field) :
    Scan format.Fails (fun past next => ∃ seen record, format.Reached field past seen record ∧
      next = format.readFrom (past.length + 1) seen record) format.read where
  start := ⟨[], format.blank, .blank hfield, rfl⟩
  step := by
    rintro past _ line ⟨seen, record, hreached, rfl⟩ hline
    obtain ⟨seen', record', hreached', hstep⟩ := hreached.step hfield hline
    refine ⟨_, ⟨seen', record', hreached', rfl⟩, fun rest => ?_⟩
    rw [hstep, List.length_append]
    rfl
  stop := by
    rintro past _ line fault ⟨seen, record, hreached, rfl⟩ hfails rest
    exact hreached.readFrom_of_fails hfails
  finish := by
    rintro past _ ⟨seen, record, -, rfl⟩
    exact ⟨record, rfl⟩

theorem holds_of_read (hfield : format.Independent field) (h : format.read lines = .ok record) :
    format.Holds field lines record := by
  obtain ⟨_, ⟨seen, record', hreached, rfl⟩, hrecord⟩ := (scan hfield).inv_of_ok h
  cases hrecord
  exact hreached.holds

end KeyedFormat

/-! ## CPU accounting -/

namespace CpuStat

/-- The value that a record has under a name. -/
def field : String → CpuStat → UInt64
  | "usage_usec", s => s.usageUsec
  | "user_usec", s => s.userUsec
  | "system_usec", s => s.systemUsec
  | "nr_periods", s => s.periods
  | "nr_throttled", s => s.throttledPeriods
  | "throttled_usec", s => s.throttledUsec
  | _, _ => 0

theorem independent_field : format.Independent field where
  blank key hknown := by
    simp only [KeyedFormat.Known, format, List.map_cons, List.map_nil, List.mem_cons,
      List.not_mem_nil, or_false] at hknown
    rcases hknown with rfl | rfl | rfl | rfl | rfl | rfl <;> rfl
  store key store hmem record value other hknown := by
    simp only [KeyedFormat.Known, format, List.map_cons, List.map_nil, List.mem_cons,
      List.not_mem_nil, or_false] at hknown
    simp only [format, List.mem_cons, Prod.mk.injEq, List.not_mem_nil, or_false] at hmem
    rcases hmem with ⟨rfl, rfl⟩ | ⟨rfl, rfl⟩ | ⟨rfl, rfl⟩ | ⟨rfl, rfl⟩ | ⟨rfl, rfl⟩ | ⟨rfl, rfl⟩ <;>
      rcases hknown with rfl | rfl | rfl | rfl | rfl | rfl <;> rfl

end CpuStat

/-! ## Bytes -/

/-- **A stat file of keys and values** fails with its first line that fails, or gives each field
    the last value of its key; the CPU accounting is such a format. -/
theorem keyed_reading_first_failure_or_last_values :
    (∀ {α : Type} (format : KeyedFormat α) (field : String → α → UInt64),
      format.Independent field → ∀ bytes : List UInt8, ∃ lines, Text.Reads bytes lines ∧
        (∀ fault, format.read (Text.linesOf bytes) = .error fault ↔
          FailsFirst format.Fails lines fault) ∧
        ((∃ record, format.read (Text.linesOf bytes) = .ok record) ↔ Clean format.Fails lines) ∧
        ∀ record, format.read (Text.linesOf bytes) = .ok record →
          format.Holds field lines record) ∧
    CpuStat.format.Independent CpuStat.field ∧
    CpuStat.read = CpuStat.format.read ∧ CpuStat.format.repeats = false ∧
    CpuStat.format.keys.map Prod.fst = ["usage_usec", "user_usec", "system_usec", "nr_periods",
      "nr_throttled", "throttled_usec"] ∧
    ∀ s : CpuStat, s.json = .record (CpuStat.format.keys.map fun entry =>
      (entry.1, counterJson (CpuStat.field entry.1 s))) := by
  refine ⟨fun format field hfield bytes => ?_, CpuStat.independent_field, rfl, rfl, rfl,
    fun s => rfl⟩
  exact ⟨Text.linesOf bytes, Text.reads_iff.2 rfl,
    fun fault => (KeyedFormat.scan hfield).eq_error_iff, (KeyedFormat.scan hfield).exists_ok_iff,
    fun record => KeyedFormat.holds_of_read hfield⟩

/-- A line without a known key and a third word make no difference; a key that was set is set
    again in the third line. -/
theorem keyed_reading_first_failure_or_last_values_of_cpu :
    let once : List UInt8 := [111, 100, 100, 10, 117, 115, 97, 103, 101, 95, 117, 115, 101, 99, 32,
      43, 55, 32, 120, 10]  -- `odd`, `usage_usec +7 x`
    let twice := once ++ [117, 115, 97, 103, 101, 95, 117, 115, 101, 99, 32, 56]  -- `usage_usec 8`
    (∃ record, CpuStat.format.read (Text.linesOf once) = .ok record ∧ record.usageUsec = 7) ∧
    CpuStat.format.read (Text.linesOf twice) = .error (.repeatedKey "usage_usec" 3) := by
  intro once twice
  obtain ⟨hall, hfield, -⟩ := keyed_reading_first_failure_or_last_values
  obtain ⟨lines, hreads, -, hclean, hholds⟩ := hall CpuStat.format CpuStat.field hfield once
  obtain ⟨lines', hreads', hfault, -⟩ := hall CpuStat.format CpuStat.field hfield twice
  obtain rfl := Text.reads_iff.1 hreads
  obtain rfl := Text.reads_iff.1 hreads'
  let odd : List Char := ['o', 'd', 'd']
  let first : List Char := "usage_usec +7 x".toList
  let second : List Char := "usage_usec 8".toList
  have honce : Text.linesOf once = [.ok odd, .ok first] := by decide +kernel
  have htwice : Text.linesOf twice = Text.linesOf once ++ .ok second :: [] := by decide +kernel
  have hknown : CpuStat.format.Known "usage_usec" := List.mem_cons_self
  have hfirst : CpuStat.format.Sets "usage_usec" 7 (.ok first) :=
    ⟨first, ['+', '7'], rfl, ⟨hknown, [['x']], by decide +kernel⟩,
      Decimal.readUInt64_eq_ok_iff.1 (by decide)⟩
  have hsecond : CpuStat.format.Sets "usage_usec" 8 (.ok second) :=
    ⟨second, ['8'], rfl, ⟨hknown, [], by decide +kernel⟩,
      Decimal.readUInt64_eq_ok_iff.1 (by decide)⟩
  have hok : ∃ record, CpuStat.format.read (Text.linesOf once) = .ok record :=
    ⟨{ usageUsec := 7 }, by decide +kernel⟩
  constructor
  · obtain ⟨record, hrecord⟩ := hok
    have hlast : CpuStat.format.LastSet "usage_usec" 7 (Text.linesOf once) :=
      ⟨[.ok odd], .ok first, [], honce, hfirst, nofun⟩
    exact ⟨record, hrecord, (hholds record hrecord _ hknown 7).2 (.inl hlast)⟩
  · have hearlier : ∃ line ∈ Text.linesOf once, ∃ v, CpuStat.format.Sets "usage_usec" v line :=
      ⟨.ok first, by rw [honce]; exact List.mem_cons_of_mem _ List.mem_cons_self, 7, hfirst⟩
    have hline : (Text.linesOf once).length + 1 = 3 := by rw [honce]; rfl
    exact (hfault _).2 ⟨_, _, _, htwice, hclean.1 hok, hline ▸ .repeatedKey rfl hsecond hearlier⟩

end Workmeter
