/-
  Workmeter — stat files of keys and values whose lines come in any order.

  Where no key may come back, it does not matter in which order the lines stand, and lines
  that say nothing of a known key make no difference wherever they are put in.

  * `Amid`: a list with some entries put in anywhere;
  * `Silent`, `readFrom_amid`: lines that say nothing may be put in, and but for the number of
    a line the outcome stays;
  * `Apart`, `clean_iff_pairwise`: a reading succeeds if no line fails by itself and no two
    set the same key, which no order of the lines can change;
  * `field_eq_iff`, `read_of_perm`: nor can it change what is read;
  * `read_of_entries`: lines that set each key once are read as the record with these values;
  * `CpuStat.lines_in_any_order`: all of it, for the CPU accounting and any streams of bytes.
-/
import Workmeter.Proofs.Counters.Keyed
import Workmeter.Proofs.Text.Words

namespace Workmeter

/-- The fault, whatever the number of its line. -/
def StatFault.unnumbered : StatFault → StatFault
  | .repeatedKey key _ => .repeatedKey key 0
  | .badEntry key value _ cause => .badEntry key value 0 cause
  | .badValue value cause => .badValue value cause
  | .reading cause => .reading cause

/-! ## Entries that are put in -/

/-- The list `l` is `core` with some entries put in anywhere, each of which is a `p`. -/
inductive Amid {α : Type} (p : α → Prop) : List α → List α → Prop where
  | nil : Amid p [] []
  | extra {a : α} {core l : List α} : p a → Amid p core l → Amid p core (a :: l)
  | keep {a : α} {core l : List α} : Amid p core l → Amid p (a :: core) (a :: l)

namespace Amid

variable {α β : Type} {p : α → Prop} {core core' l l' : List α}

theorem refl (p : α → Prop) : ∀ l : List α, Amid p l l
  | [] => .nil
  | _ :: l => .keep (refl p l)

theorem append (h : Amid p core l) (h' : Amid p core' l') : Amid p (core ++ core') (l ++ l') := by
  induction h with
  | nil => exact h'
  | extra ha _ ih => exact .extra ha ih
  | keep _ ih => exact .keep ih

/-- Entries that are put in stay so if every entry stands for a list. -/
theorem flatMap {q : β → Prop} {f : α → List β} (hf : ∀ a, p a → ∀ b ∈ f a, q b)
    (h : Amid p core l) : Amid q (core.flatMap f) (l.flatMap f) := by
  have hextra : ∀ more : List β, (∀ b ∈ more, q b) → Amid q [] more := by
    intro more hmore
    induction more with
    | nil => exact .nil
    | cons b more ih =>
      obtain ⟨hb, hmore⟩ := List.forall_mem_cons.1 hmore
      exact .extra hb (ih hmore)
  induction h with
  | nil => exact .nil
  | extra ha _ ih => exact (hextra _ (hf _ ha)).append ih
  | keep _ ih => exact (refl q _).append ih

end Amid

namespace KeyedFormat

open Text

variable {α : Type} {format : KeyedFormat α} {key : String} {text token : List Char}
  {value : UInt64} {line : Line} {lines lines' core past : List Line} {record : α}

/-! ## Silent lines -/

/-- The line says nothing of a known key: it has fewer than two words, or the first one is no
    known key. -/
def Silent (format : KeyedFormat α) (line : Line) : Prop :=
  ∃ text, line = .ok text ∧ ((words text).length < 2 ∨
    ∃ first more, words text = first :: more ∧ ¬ format.Known (String.ofList first))

theorem not_mentions_of_silent (h : format.Silent (.ok text)) : ¬ format.Mentions text key token := by
  rintro ⟨hknown, more, hwords⟩
  obtain ⟨text', he, hsilent⟩ := h
  cases he
  rcases hsilent with hfew | ⟨first, more', hfirst, hunknown⟩
  · rw [hwords, List.length_cons, List.length_cons] at hfew
    omega
  · rw [hwords] at hfirst
    obtain ⟨rfl, -⟩ := List.cons.inj hfirst
    rw [String.ofList_toList] at hunknown
    exact hunknown hknown

/-- What is made of a line does not hang on its number, but for the number in a fault. -/
theorem readFrom_cons (format : KeyedFormat α) (seen : List String) (record : α) (line : Line) :
    (∃ fault : Nat → StatFault, (∀ n m, (fault n).unnumbered = (fault m).unnumbered) ∧
      ∀ n rest, format.readFrom n seen record (line :: rest) = .error (fault n)) ∨
    ∃ seen' record', ∀ n rest, format.readFrom n seen record (line :: rest) =
      format.readFrom (n + 1) seen' record' rest := by
  cases line with
  | error cause => exact .inl ⟨fun _ => .reading cause, fun _ _ => rfl, fun _ _ => rfl⟩
  | ok text =>
    by_cases hsays : ∃ key token, format.Mentions text key token
    · obtain ⟨key, token, hmentions⟩ := hsays
      cases hread : Decimal.readUInt64 token with
      | error cause =>
        exact .inl ⟨fun n => .badEntry key (String.ofList token) n cause, fun _ _ => rfl,
          fun n rest => readFrom_of_bad hmentions hread⟩
      | ok value =>
        obtain ⟨store, hstore⟩ := known_iff.1 hmentions.1
        by_cases hagain : (!format.repeats && seen.contains key) = true
        · refine .inl ⟨fun n => .repeatedKey key n, fun _ _ => rfl, fun n rest => ?_⟩
          rw [readFrom_of_value hmentions hread hstore, if_pos hagain]
        · refine .inr ⟨key :: seen, store record value, fun n rest => ?_⟩
          rw [readFrom_of_value hmentions hread hstore, if_neg hagain]
    · exact .inr ⟨seen, record, fun n rest =>
        readFrom_of_silent fun key token hmentions => hsays ⟨key, token, hmentions⟩⟩

/-- **Silent lines** may be put in anywhere: only the numbers of the lines change. -/
theorem readFrom_amid (h : Amid format.Silent core lines) (n m : Nat) (seen : List String)
    (record : α) :
    (format.readFrom n seen record lines).mapError StatFault.unnumbered =
      (format.readFrom m seen record core).mapError StatFault.unnumbered := by
  induction h generalizing n m seen record with
  | nil => rfl
  | extra hsilent _ ih =>
    obtain ⟨text, rfl, -⟩ := id hsilent
    rw [readFrom_of_silent fun key token => not_mentions_of_silent hsilent]
    exact ih (n + 1) m seen record
  | @keep line core lines _ ih =>
    obtain ⟨fault, hsame, hfault⟩ | ⟨seen', record', hnext⟩ :=
      format.readFrom_cons seen record line
    · rw [hfault, hfault]
      exact congrArg Except.error (hsame n m)
    · rw [hnext, hnext]
      exact ih (n + 1) (m + 1) seen' record'

/-- Readings that differ in the number of a line at most succeed together, and give the same. -/
theorem eq_ok_iff_of_mapError {x y : Except StatFault α}
    (h : x.mapError StatFault.unnumbered = y.mapError StatFault.unnumbered) :
    x = .ok record ↔ y = .ok record := by
  cases x <;> cases y <;> simp_all [Except.mapError]

/-! ## The order of the lines -/

/-- The lines set no key both. -/
def Apart (format : KeyedFormat α) (a b : Line) : Prop :=
  ∀ key v w, format.Sets key v a → ¬ format.Sets key w b

theorem apart_symm (format : KeyedFormat α) {a b : Line} (h : format.Apart a b) :
    format.Apart b a :=
  fun key v w hb ha => h key w v ha hb

/-- A line fails by itself, or with one of the lines above it. -/
theorem not_fails_iff (hrepeats : format.repeats = false) :
    (∀ fault, ¬ format.Fails past line fault) ↔
      (∀ fault, ¬ format.Fails [] line fault) ∧ ∀ earlier ∈ past, format.Apart earlier line := by
  constructor
  · intro h
    refine ⟨fun fault hfails => ?_, fun earlier hmem key v w hset hsets => ?_⟩
    · cases hfails with
      | reading => exact h _ .reading
      | badEntry hmentions hbad hread => exact h _ (.badEntry hmentions hbad hread)
      | repeatedKey _ _ hearlier =>
        obtain ⟨earlier, hmem, -⟩ := hearlier
        cases hmem
    · exact h _ (.repeatedKey hrepeats hsets ⟨earlier, hmem, v, hset⟩)
  · rintro ⟨hself, hapart⟩ fault hfails
    cases hfails with
    | reading => exact hself _ .reading
    | badEntry hmentions hbad hread => exact hself _ (.badEntry hmentions hbad hread)
    | repeatedKey _ hsets hearlier =>
      obtain ⟨earlier, hmem, v, hset⟩ := hearlier
      exact hapart earlier hmem _ v _ hset hsets

/-- **No line fails** if none does so by itself, and no two set the same key. -/
theorem clean_iff_pairwise (hrepeats : format.repeats = false) :
    Clean format.Fails lines ↔
      (∀ line ∈ lines, ∀ fault, ¬ format.Fails [] line fault) ∧ lines.Pairwise format.Apart := by
  induction lines using List.reverseRecOn with
  | nil => simp [clean_nil]
  | append_singleton past line ih =>
    rw [clean_concat_iff, ih, not_fails_iff hrepeats, List.pairwise_append]
    simp only [List.mem_append, List.mem_singleton, or_imp, forall_and, forall_eq,
      List.pairwise_singleton, true_and]
    tauto

theorem clean_of_perm (hrepeats : format.repeats = false) (hperm : lines.Perm lines')
    (h : Clean format.Fails lines) : Clean format.Fails lines' := by
  rw [clean_iff_pairwise hrepeats] at h ⊢
  obtain ⟨hself, hapart⟩ := h
  exact ⟨fun line hmem => hself line (hperm.mem_iff.2 hmem),
    (hperm.pairwise_iff fun hab => apart_symm format hab).1 hapart⟩

/-- What is set once is set last. -/
theorem lastSet_iff_exists (h : lines.Pairwise format.Apart) :
    format.LastSet key value lines ↔ ∃ line ∈ lines, format.Sets key value line := by
  constructor
  · rintro ⟨before, line, after, rfl, hsets, -⟩
    exact ⟨line, by simp, hsets⟩
  · rintro ⟨line, hmem, hsets⟩
    obtain ⟨before, after, rfl⟩ := List.append_of_mem hmem
    refine ⟨before, line, after, rfl, hsets, fun later hlater v => ?_⟩
    have hline := (List.pairwise_cons.1 (List.pairwise_append.1 h).2.1).1 later hlater
    exact hline key value v hsets

section
variable {field : String → α → UInt64} (hfield : format.Independent field)
  (hrepeats : format.repeats = false)
include hfield hrepeats

/-- Every field holds the value that some line sets, or zero. -/
theorem field_eq_iff (hread : format.read lines = .ok record) (hknown : format.Known key) :
    field key record = value ↔ (∃ line ∈ lines, format.Sets key value line) ∨
      value = 0 ∧ ∀ line ∈ lines, ∀ v, ¬ format.Sets key v line := by
  have hclean : Clean format.Fails lines := (scan hfield).exists_ok_iff.1 ⟨record, hread⟩
  rw [holds_of_read hfield hread key hknown value,
    lastSet_iff_exists ((clean_iff_pairwise hrepeats).1 hclean).2]

variable (hext : ∀ r r' : α, (∀ key, format.Known key → field key r = field key r') → r = r')
include hext

/-- **The order of the lines** makes no difference. -/
theorem read_of_perm (hperm : lines.Perm lines') (hread : format.read lines = .ok record) :
    format.read lines' = .ok record := by
  have hclean : Clean format.Fails lines := (scan hfield).exists_ok_iff.1 ⟨record, hread⟩
  obtain ⟨record', hread'⟩ := (scan hfield).exists_ok_iff.2 (clean_of_perm hrepeats hperm hclean)
  have hsame : record' = record := by
    refine hext _ _ fun key hknown => (field_eq_iff hfield hrepeats hread' hknown).2 ?_
    rcases (field_eq_iff hfield hrepeats hread hknown).1 rfl with ⟨line, hmem, hsets⟩ | ⟨hzero, hno⟩
    · exact .inl ⟨line, hperm.mem_iff.1 hmem, hsets⟩
    · exact .inr ⟨hzero, fun line hmem => hno line (hperm.mem_iff.2 hmem)⟩
  rw [hread', hsame]

/-- **A record is read** from lines that set each known key once, to the value that it has. -/
theorem read_of_entries (hkeys : (format.keys.map Prod.fst).Nodup) {lineOf : String → Line}
    (hline : ∀ key, format.Known key → format.Sets key (field key record) (lineOf key)) :
    format.read ((format.keys.map Prod.fst).map lineOf) = .ok record := by
  have hclean : Clean format.Fails ((format.keys.map Prod.fst).map lineOf) := by
    refine (clean_iff_pairwise hrepeats).2 ⟨fun line hmem fault hfails => ?_, ?_⟩
    · obtain ⟨key, hknown, rfl⟩ := List.mem_map.1 hmem
      obtain ⟨text, token, htext, hmentions, hden⟩ := hline key hknown
      rw [htext] at hfails
      cases hfails with
      | badEntry hmentions' hbad _ =>
        obtain ⟨-, rfl⟩ := eq_of_mentions hmentions hmentions'
        exact hbad ⟨_, (field key record).toNat_lt, hden⟩
      | repeatedKey _ _ hearlier =>
        obtain ⟨earlier, hearlier, -⟩ := hearlier
        cases hearlier
    · refine List.pairwise_map.2 (hkeys.imp_of_mem fun hfirst hsecond hne key v w hset hset' => ?_)
      have hfirst := (eq_of_sets (hline _ hfirst) hset).1
      have hsecond := (eq_of_sets (hline _ hsecond) hset').1
      exact hne (hfirst.symm.trans hsecond)
  obtain ⟨record', hread⟩ := (scan hfield).exists_ok_iff.2 hclean
  have hsame : record' = record := by
    refine hext _ _ fun key hknown => (field_eq_iff hfield hrepeats hread hknown).2 (.inl ?_)
    exact ⟨lineOf key, List.mem_map_of_mem hknown, hline key hknown⟩
  rw [hread, hsame]

end

/-! ## Lines of bytes -/

/-- The bytes are one line, which says nothing of a known key. -/
def SilentLine (format : KeyedFormat α) (l : List UInt8) : Prop :=
  lineEnd ∉ l ∧ format.Silent (decode l)

/-- The bytes are one line, which sets the key to the value. -/
def EntryLine (format : KeyedFormat α) (key : String) (value : UInt64) (l : List UInt8) : Prop :=
  lineEnd ∉ l ∧ format.Sets key value (decode l)

/-- Lines that are put in among others are read among the others. -/
theorem amid_linesOf {core ls : List (List UInt8)} (h : Amid format.SilentLine core ls)
    (rest : List UInt8) :
    Amid format.Silent (linesOf (terminated core ++ rest)) (linesOf (terminated ls ++ rest)) := by
  have hline : ∀ l, format.SilentLine l → ∀ line ∈ linesOf (l ++ [lineEnd]), format.Silent line := by
    rintro l ⟨hend, hsilent⟩ line hmem
    rw [linesOf_line hend] at hmem
    rwa [List.mem_singleton.1 hmem]
  rw [linesOf_terminated_append, linesOf_terminated_append]
  exact (h.flatMap hline).append (.refl _ _)

theorem silent_empty : format.Silent (decode []) :=
  ⟨[], decode_encode [], .inl (by decide)⟩

/-- Without its end the last line is the same, or it was an empty one. -/
theorem amid_concat_lineEnd (bytes : List UInt8) :
    Amid format.Silent (linesOf bytes) (linesOf (bytes ++ [lineEnd])) := by
  unfold linesOf
  rcases pieces_concat_lineEnd bytes with hsame | hempty
  · rw [hsame]
    exact .refl _ _
  · rw [hempty, List.map_append]
    have hone : Amid format.Silent [] [decode []] := .extra silent_empty .nil
    have hmore := (Amid.refl format.Silent ((pieces bytes).map decode)).append hone
    rwa [List.append_nil] at hmore

theorem linesOf_entryLines {field : String → α → UInt64} {lineOf : String → List UInt8}
    (hline : ∀ key, format.Known key → format.EntryLine key (field key record) (lineOf key)) :
    linesOf (terminated ((format.keys.map Prod.fst).map lineOf)) =
      (format.keys.map Prod.fst).map fun key => decode (lineOf key) := by
  have hone : ∀ key ∈ format.keys.map Prod.fst,
      linesOf (lineOf key ++ [lineEnd]) = [decode (lineOf key)] :=
    fun key hknown => linesOf_line (hline key hknown).1
  rw [linesOf_terminated, List.flatMap_map, List.flatMap_congr hone, ← List.map_eq_flatMap]

/-- A key and a value on one line. -/
def entryText (key : String) (value : UInt64) : List Char :=
  key.toList ++ spaced [Nat.toDigits 10 value.toNat]

/-- **An entry** is read from the line that it is written on. -/
theorem entryLine_encode (hknown : format.Known key) (hword : IsWord key.toList) (value : UInt64) :
    format.EntryLine key value (encode (entryText key value)) := by
  have hdigits : IsWord (Nat.toDigits 10 value.toNat) := isWord_toDigits value.toNat
  refine ⟨lineEnd_not_mem_encode fun hmem => ?_, entryText key value, _, decode_encode _,
    ⟨hknown, [], ?_⟩, Decimal.denotes_toDigits _⟩
  · -- the only blank of the text is the one between the key and the value
    have hblank : isBlank '\n' = true := by decide
    simp only [entryText, spaced, List.flatMap_cons, List.flatMap_nil, List.append_nil,
      List.mem_append, List.mem_cons] at hmem
    rcases hmem with hkey | hspace | hvalue
    · rw [hword.2 _ hkey] at hblank; cases hblank
    · exact absurd hspace (by decide)
    · rw [hdigits.2 _ hvalue] at hblank; cases hblank
  · exact words_spaced (List.forall_mem_cons.2 ⟨hword, List.forall_mem_singleton.2 hdigits⟩)

end KeyedFormat

/-! ## CPU accounting -/

namespace CpuStat

open Text

theorem known_cases {key : String} (h : format.Known key) :
    key = "usage_usec" ∨ key = "user_usec" ∨ key = "system_usec" ∨ key = "nr_periods" ∨
      key = "nr_throttled" ∨ key = "throttled_usec" := by
  simpa [KeyedFormat.Known, format] using h

/-- A record is known by its six values. -/
theorem ext_field {s s' : CpuStat} (h : ∀ key, format.Known key → field key s = field key s') :
    s = s' := by
  have hknown : ∀ key ∈ ["usage_usec", "user_usec", "system_usec", "nr_periods", "nr_throttled",
      "throttled_usec"], field key s = field key s' := h
  simp only [List.forall_mem_cons, field] at hknown
  obtain ⟨husage, huser, hsystem, hperiods, hthrottled, hthrottledUsec, -⟩ := hknown
  cases s
  cases s'
  simp only [CpuStat.mk.injEq]
  exact ⟨husage, huser, hsystem, hperiods, hthrottled, hthrottledUsec⟩

theorem isWord_of_known {key : String} (h : format.Known key) : IsWord key.toList := by
  have hword : key.toList ≠ [] ∧ key.toList.all (!isBlank ·) := by
    rcases known_cases h with rfl | rfl | rfl | rfl | rfl | rfl <;> decide
  exact ⟨hword.1, fun c hc => by simpa using List.all_eq_true.1 hword.2 c hc⟩

/-- **The lines may stand in any order**, and lines that say nothing may stand anywhere among
    them: a record is read off its six values alone. -/
theorem lines_in_any_order :
    (∀ ls ls' : List (List UInt8), ls.Perm ls' → ∀ s,
      CpuStat.read (linesOf (terminated ls)) = .ok s ↔
        CpuStat.read (linesOf (terminated ls')) = .ok s) ∧
    (∀ (core ls : List (List UInt8)) (rest : List UInt8), Amid format.SilentLine core ls →
      let short := CpuStat.read (linesOf (terminated core ++ rest))
      let long := CpuStat.read (linesOf (terminated ls ++ rest))
      (∀ s, long = .ok s ↔ short = .ok s) ∧
        long.mapError StatFault.unnumbered = short.mapError StatFault.unnumbered) ∧
    (∀ bytes s, CpuStat.read (linesOf bytes) = .ok s ↔
      CpuStat.read (linesOf (bytes ++ [lineEnd])) = .ok s) ∧
    ∀ s : CpuStat,
      (∀ key, format.Known key →
        format.EntryLine key (field key s) (encode (KeyedFormat.entryText key (field key s)))) ∧
      ∀ lineOf : String → List UInt8,
        (∀ key, format.Known key → format.EntryLine key (field key s) (lineOf key)) →
        ∀ core ls, core.Perm ((format.keys.map Prod.fst).map lineOf) →
          Amid format.SilentLine core ls → CpuStat.read (linesOf (terminated ls)) = .ok s := by
  have hperm : ∀ ls ls' : List (List UInt8), ls.Perm ls' → ∀ s,
      CpuStat.read (linesOf (terminated ls)) = .ok s →
        CpuStat.read (linesOf (terminated ls')) = .ok s := by
    intro ls ls' h s
    rw [linesOf_terminated, linesOf_terminated]
    exact KeyedFormat.read_of_perm independent_field rfl (fun _ _ => ext_field) (h.flatMap_right _)
  have hsilent : ∀ (core ls : List (List UInt8)) (rest : List UInt8),
      Amid format.SilentLine core ls →
      (CpuStat.read (linesOf (terminated ls ++ rest))).mapError StatFault.unnumbered =
        (CpuStat.read (linesOf (terminated core ++ rest))).mapError StatFault.unnumbered :=
    fun core ls rest h => KeyedFormat.readFrom_amid (KeyedFormat.amid_linesOf h rest) 1 1 [] {}
  refine ⟨fun ls ls' h s => ⟨hperm ls ls' h s, hperm ls' ls h.symm s⟩, fun core ls rest h => ?_,
    fun bytes s => ?_, fun s => ⟨fun key hknown => ?_, fun lineOf hline core ls hcore hls => ?_⟩⟩
  · exact ⟨fun s => KeyedFormat.eq_ok_iff_of_mapError (hsilent core ls rest h),
      hsilent core ls rest h⟩
  · have hamid : Amid format.Silent (linesOf bytes) (linesOf (bytes ++ [lineEnd])) :=
      KeyedFormat.amid_concat_lineEnd bytes
    exact (KeyedFormat.eq_ok_iff_of_mapError (KeyedFormat.readFrom_amid hamid 1 1 [] {})).symm
  · exact KeyedFormat.entryLine_encode hknown (isWord_of_known hknown) _
  · have hsix : CpuStat.read (linesOf (terminated ((format.keys.map Prod.fst).map lineOf))) =
        .ok s := by
      rw [KeyedFormat.linesOf_entryLines hline]
      exact KeyedFormat.read_of_entries independent_field rfl (fun _ _ => ext_field) (by decide)
        fun key hknown => (hline key hknown).2
    have hcoreRead : CpuStat.read (linesOf (terminated core ++ [])) = .ok s := by
      rw [List.append_nil]
      exact hperm _ _ hcore.symm s hsix
    have hread := (KeyedFormat.eq_ok_iff_of_mapError (hsilent core ls [] hls)).2 hcoreRead
    rwa [List.append_nil] at hread

/-- The six lines stand in another order, with an empty line and a key that is not known among
    them. -/
theorem lines_in_any_order_of_six_lines :
    let s : CpuStat := { usageUsec := 7, userUsec := 18446744073709551615, periods := 3 }
    let lineOf := fun key => encode (KeyedFormat.entryText key (field key s))
    let first := ["throttled_usec", "usage_usec"].map lineOf
    let second := ["nr_periods", "user_usec", "nr_throttled", "system_usec"].map lineOf
    let ls := first ++ [[], encode "nr_bursts x".toList] ++ second
    (first ++ second).Perm ((format.keys.map Prod.fst).map lineOf) ∧
      Amid format.SilentLine (first ++ second) ls ∧
      CpuStat.read (linesOf (terminated ls)) = .ok s := by
  intro s lineOf first second ls
  obtain ⟨-, -, -, hall⟩ := lines_in_any_order
  obtain ⟨hwritten, hread⟩ := hall s
  have hkeys : ["throttled_usec", "usage_usec", "nr_periods", "user_usec", "nr_throttled",
      "system_usec"].Perm (format.keys.map Prod.fst) := by decide
  have hempty : format.SilentLine [] := ⟨List.not_mem_nil, [], by decide +kernel, .inl (by decide)⟩
  have hunknown : ¬ format.Known "nr_bursts" := by
    intro hknown
    have hsix := known_cases hknown
    simp at hsix
  have hother : format.SilentLine (encode "nr_bursts x".toList) := by
    refine ⟨lineEnd_not_mem_encode (by decide +kernel), _, decode_encode _, .inr ?_⟩
    refine ⟨"nr_bursts".toList, [['x']], by decide +kernel, ?_⟩
    rwa [String.ofList_toList]
  have hls : Amid format.SilentLine (first ++ second) ls :=
    ((Amid.refl _ first).append (.extra hempty (.extra hother .nil))).append (.refl _ second)
  have hperm : (first ++ second).Perm ((format.keys.map Prod.fst).map lineOf) := by
    rw [← List.map_append]
    exact hkeys.map lineOf
  exact ⟨hperm, hls, hread lineOf hwritten (first ++ second) ls hperm hls⟩

end CpuStat

end Workmeter
