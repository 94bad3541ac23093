/-
  Workmeter — the lines of a control-group file and the entries that they are.

  * `Tells`: what a line tells, without the blanks at its end (`ofLine_eq_iff`);
  * `controllersOf_eq_iff`: the controllers are the only way to write the text of them;
  * `render`: the line that is written for an entry;
  * `entries_and_their_lines`: each line tells one outcome, and an entry is told by its line.
-/
import Workmeter.Cgroup.Entry
import Workmeter.Proofs.Text.Decimal
import Workmeter.Proofs.Text.Separators
import Workmeter.Proofs.Text.Words

namespace Workmeter.CgroupEntry

open Text

variable {line t first : List Char} {controllers : List String} {hierarchy : UInt32}
  {outcome : Except Fault CgroupEntry}

/-! ## Controllers -/

theorem map_ofList_eq_iff {texts : List (List Char)} :
    texts.map String.ofList = controllers ↔ texts = controllers.map String.toList := by
  constructor
  · rintro rfl; simp
  · rintro rfl; simp

/-- **The controllers of a text** are the names that make it with commas between them, and
    there are none if it is empty. -/
theorem controllersOf_eq_iff {text : List Char} :
    controllersOf text = controllers ↔
      (",".intercalate controllers).toList = text ∧ (controllers = [] ↔ text = []) ∧
        ∀ c ∈ controllers, ',' ∉ c.toList := by
  rw [String.toList_intercalate]
  unfold controllersOf
  by_cases htext : text = []
  · subst htext
    simp only [List.isEmpty_nil, if_true, iff_true]
    constructor
    · rintro rfl
      exact ⟨rfl, rfl, nofun⟩
    · exact fun h => h.2.1.symm
  · rw [if_neg (by simpa using htext), map_ofList_eq_iff, splitOn_eq_iff]
    have hcomma : ",".toList = [','] := rfl
    simp only [hcomma, htext, ne_eq, List.map_eq_nil_iff, List.forall_mem_map, iff_false]
    exact ⟨fun ⟨hne, hcommas, hjoin⟩ => ⟨hjoin, hne, hcommas⟩,
      fun ⟨hjoin, hne, hcommas⟩ => ⟨hne, hcommas, hjoin⟩⟩

/-! ## What a line tells -/

/-- The text begins with `first`, and goes on behind a colon if it goes on. -/
def Leads (t first : List Char) : Prop :=
  ':' ∉ first ∧ (t = first ∨ ∃ rest, t = first ++ ':' :: rest)

/-- What a line tells that is `t` without the blanks at its end. -/
inductive Tells (t : List Char) : Except Fault CgroupEntry → Prop where
  /-- The text before the first colon is no decimal of 32 bits, whatever stands behind it. -/
  | badHierarchy {first : List Char} : Leads t first →
      (∀ h : UInt32, ¬ Decimal.Denotes first h.toNat) →
      Tells t (.error (.badHierarchy (String.ofList t)))
  | badFormat {first : List Char} {h : UInt32} : Leads t first → Decimal.Denotes first h.toNat →
      t.count ':' < 2 → Tells t (.error (.badFormat (String.ofList t)))
  | tooManySeparators {first : List Char} {h : UInt32} : Leads t first →
      Decimal.Denotes first h.toNat → 2 < t.count ':' →
      Tells t (.error (.tooManySeparators (String.ofList t)))
  /-- Two colons part a decimal, the controllers with commas between them, and the path. -/
  | entry {first : List Char} {e : CgroupEntry} :
      t = first ++ ':' :: ((",".intercalate e.controllers).toList ++ ':' :: e.path.toList) →
      t.count ':' = 2 → Decimal.Denotes first e.hierarchy.toNat →
      (e.controllers = [] ↔ ",".intercalate e.controllers = "") →
      (∀ c ∈ e.controllers, ',' ∉ c.toList ∧ ':' ∉ c.toList) → Tells t (.ok e)

theorem Leads.exists_splitOn (h : Leads t first) : ∃ rest, t.splitOn ':' = first :: rest := by
  obtain ⟨hcolon, rfl | ⟨rest, rfl⟩⟩ := h
  · exact ⟨[], List.splitOn_eq_singleton hcolon⟩
  · exact ⟨_, List.splitOn_append_cons_self_of_not_mem hcolon rest⟩

theorem leads_of_splitOn {rest : List (List Char)} (h : t.splitOn ':' = first :: rest) :
    Leads t first := by
  obtain ⟨-, hcolon, hjoin⟩ := splitOn_eq_iff.1 h
  refine ⟨hcolon first List.mem_cons_self, ?_⟩
  cases rest with
  | nil => exact .inl (by simpa using hjoin.symm)
  | cons second rest =>
    rw [List.intercalate_cons_cons] at hjoin
    exact .inr ⟨_, by simpa using hjoin.symm⟩

theorem count_of_splitOn {rest : List (List Char)} (h : t.splitOn ':' = first :: rest) :
    t.count ':' = rest.length := by
  have hlength := length_splitOn ':' t
  rw [h, List.length_cons] at hlength
  exact (Nat.succ.inj hlength).symm

/-- A line that begins with a decimal is judged by the pieces behind it. -/
theorem ofLine_of_decimal (ht : TrimsEnd line t) {rest : List (List Char)}
    (hsplit : t.splitOn ':' = first :: rest) (hden : Decimal.Denotes first hierarchy.toNat) :
    ofLine line =
      match (t.splitOn ':').tail with
      | [controllers, path] => .ok ⟨hierarchy, controllersOf controllers, String.ofList path⟩
      | [] | [_] => .error (.badFormat (String.ofList t))
      | _ => .error (.tooManySeparators (String.ofList t)) := by
  rcases rest with _ | ⟨_, _ | ⟨_, _ | _⟩⟩ <;>
    simp only [ofLine, trimEnd_eq_iff.2 ht, hsplit, Decimal.readUInt32_eq_ok_iff.2 hden,
      List.tail_cons]

theorem Tells.ofLine_eq (ht : TrimsEnd line t) (h : Tells t outcome) : ofLine line = outcome := by
  cases h with
  | badHierarchy hleads hnone =>
    obtain ⟨rest, hsplit⟩ := hleads.exists_splitOn
    cases hread : Decimal.readUInt32 _ with
    | ok h => exact absurd (Decimal.readUInt32_eq_ok_iff.1 hread) (hnone h)
    | error cause => simp only [ofLine, trimEnd_eq_iff.2 ht, hsplit, hread]
  | badFormat hleads hden hfew =>
    obtain ⟨rest, hsplit⟩ := hleads.exists_splitOn
    rw [ofLine_of_decimal ht hsplit hden, hsplit, List.tail_cons]
    rw [count_of_splitOn hsplit] at hfew
    match rest, hfew with
    | [], _ => rfl
    | [_], _ => rfl
  | tooManySeparators hleads hden hmany =>
    obtain ⟨rest, hsplit⟩ := hleads.exists_splitOn
    rw [ofLine_of_decimal ht hsplit hden, hsplit, List.tail_cons]
    rw [count_of_splitOn hsplit] at hmany
    match rest, hmany with
    | _ :: _ :: _ :: _, _ => rfl
  | @entry first e he hcount hden hnil hnames =>
    have hcolons : ':' ∉ first ∧ ':' ∉ (",".intercalate e.controllers).toList ∧
        ':' ∉ e.path.toList := by
      rw [he] at hcount
      simp only [List.count_append, List.count_cons_self] at hcount
      exact ⟨List.count_eq_zero.1 (by omega), List.count_eq_zero.1 (by omega),
        List.count_eq_zero.1 (by omega)⟩
    have hsplit : t.splitOn ':' =
        [first, (",".intercalate e.controllers).toList, e.path.toList] :=
      splitOn_eq_iff.2 ⟨List.cons_ne_nil _ _, by simpa using hcolons, by simp [he]⟩
    have hcontrollers : controllersOf (",".intercalate e.controllers).toList = e.controllers :=
      controllersOf_eq_iff.2
        ⟨rfl, hnil.trans String.toList_eq_nil_iff.symm, fun c hc => (hnames c hc).1⟩
    rw [ofLine_of_decimal ht hsplit hden, hsplit, List.tail_cons]
    simp only [hcontrollers, String.ofList_toList]

theorem tells_ofLine (ht : TrimsEnd line t) : Tells t (ofLine line) := by
  obtain ⟨first, rest, hsplit⟩ := List.exists_cons_of_ne_nil (List.splitOn_ne_nil ':' t)
  have hleads := leads_of_splitOn hsplit
  have hcount := count_of_splitOn hsplit
  cases hread : Decimal.readUInt32 first with
  | error cause =>
    have hnone : ∀ h : UInt32, ¬ Decimal.Denotes first h.toNat := fun h hden => by
      rw [Decimal.readUInt32_eq_ok_iff.2 hden] at hread; cases hread
    simp only [ofLine, trimEnd_eq_iff.2 ht, hsplit, hread]
    exact .badHierarchy hleads hnone
  | ok hierarchy =>
    have hden := Decimal.readUInt32_eq_ok_iff.1 hread
    rw [ofLine_of_decimal ht hsplit hden, hsplit, List.tail_cons]
    match rest with
    | [] => exact .badFormat hleads hden (by simp [hcount])
    | [_] => exact .badFormat hleads hden (by simp [hcount])
    | [controllers, path] =>
      obtain ⟨-, hcolon, hjoin⟩ := splitOn_eq_iff.1 hsplit
      obtain ⟨hwritten, hnil, hcomma⟩ :=
        controllersOf_eq_iff.1 (Eq.refl (controllersOf controllers))
      refine .entry (e := ⟨hierarchy, controllersOf controllers, String.ofList path⟩) ?_ hcount hden
        ?_ fun c hc => ⟨hcomma c hc, fun hmem => ?_⟩
      · simp [← hjoin, hwritten]
      · rw [hnil, ← String.toList_eq_nil_iff, hwritten]
      · -- a colon in a controller would be one in the text of the controllers
        refine hcolon controllers (by simp) ?_
        rw [← hwritten, String.toList_intercalate]
        exact mem_intercalate_iff.2 (.inl ⟨c.toList, List.mem_map_of_mem hc, hmem⟩)
    | _ :: _ :: _ :: _ => exact .tooManySeparators hleads hden (by simp [hcount])

/-- **A line** tells one outcome, and no other. -/
theorem ofLine_eq_iff (ht : TrimsEnd line t) : ofLine line = outcome ↔ Tells t outcome :=
  ⟨fun h => h ▸ tells_ofLine ht, Tells.ofLine_eq ht⟩

/-! ## Lines that are written -/

/-- The line that is written for an entry. -/
def render (e : CgroupEntry) : List Char :=
  Nat.toDigits 10 e.hierarchy.toNat ++
    ':' :: ((",".intercalate e.controllers).toList ++ ':' :: e.path.toList)

/-- The entry can be told from its line: no comma stands in a controller, no colon in a
    controller or in the path, and no blank at the end of the path; and there are no
    controllers rather than one without a name. -/
structure Writable (e : CgroupEntry) : Prop where
  controllers : ∀ c ∈ e.controllers, ',' ∉ c.toList ∧ ':' ∉ c.toList
  sole : e.controllers ≠ [""]
  path : ':' ∉ e.path.toList
  tight : ∀ c ∈ e.path.toList.getLast?, isBlank c = false

theorem trimsEnd_render {e : CgroupEntry} (h : Writable e) {after : List Char}
    (hafter : ∀ c ∈ after, isBlank c) : TrimsEnd (e.render ++ after) e.render := by
  refine ⟨⟨after, rfl, hafter⟩, fun c hc => ?_⟩
  rw [render, ← List.cons_append, ← List.append_assoc, List.getLast?_append,
    List.getLast?_cons] at hc
  cases hlast : e.path.toList.getLast? with
  | some d =>
    rw [hlast] at hc
    exact h.tight c (hlast.trans hc)
  | none =>
    -- the line of an empty path ends with its colon
    rw [hlast] at hc
    cases hc
    decide

theorem count_render {e : CgroupEntry} (h : Writable e) : e.render.count ':' = 2 := by
  have hdigits : ':' ∉ Nat.toDigits 10 e.hierarchy.toNat := fun hmem =>
    absurd (Nat.isDigit_of_mem_toDigits (by decide) (by decide) hmem) (by decide)
  have hcontrollers : ':' ∉ (",".intercalate e.controllers).toList := by
    rw [String.toList_intercalate, mem_intercalate_iff]
    rintro (⟨c, hc, hmem⟩ | ⟨hmem, -⟩)
    · obtain ⟨name, hname, rfl⟩ := List.mem_map.1 hc
      exact (h.controllers name hname).2 hmem
    · exact absurd hmem (by decide)
  simp only [render, List.count_append, List.count_cons_self, List.count_eq_zero.2 hdigits,
    List.count_eq_zero.2 hcontrollers, List.count_eq_zero.2 h.path]

theorem Writable.controllers_eq_nil_iff {e : CgroupEntry} (h : Writable e) :
    e.controllers = [] ↔ ",".intercalate e.controllers = "" := by
  constructor
  · intro hnil
    rw [hnil]
    rfl
  · intro hjoin
    refine Decidable.byContradiction fun hne => h.sole ?_
    -- the only piece of the empty text is empty
    have hsplit : [].splitOn ',' = e.controllers.map String.toList := by
      refine splitOn_eq_iff.2 ⟨by simpa using hne, ?_, ?_⟩
      · exact List.forall_mem_map.2 fun c hc => (h.controllers c hc).1
      · have htext := congrArg String.toList hjoin
        rwa [String.toList_intercalate] at htext
    rw [List.splitOn_nil] at hsplit
    exact (map_ofList_eq_iff.2 hsplit).symm

/-- **An entry** is told by its line, whatever blanks stand behind it. -/
theorem ofLine_render {e : CgroupEntry} (h : Writable e) {after : List Char}
    (hafter : ∀ c ∈ after, isBlank c) : ofLine (e.render ++ after) = .ok e :=
  (ofLine_eq_iff (trimsEnd_render h hafter)).2
    (.entry rfl (count_render h) (Decimal.denotes_toDigits _) h.controllers_eq_nil_iff
      h.controllers)

theorem writable_of_ofLine {e : CgroupEntry} (h : ofLine line = .ok e) : Writable e := by
  have ht : TrimsEnd line (trimEnd line) := trimEnd_eq_iff.1 rfl
  generalize trimEnd line = t at ht
  obtain ⟨-, hlast⟩ := id ht
  cases (ofLine_eq_iff ht).1 h with
  | @entry first e he hcount hden hnil hnames =>
    refine ⟨hnames, fun hsole => ?_, ?_, fun c hc => hlast c ?_⟩
    · rw [hsole] at hnil
      exact absurd (hnil.2 rfl) (List.cons_ne_nil _ _)
    · rw [he] at hcount
      simp only [List.count_append, List.count_cons_self] at hcount
      exact List.count_eq_zero.1 (by omega)
    · rw [he, ← List.cons_append, ← List.append_assoc, List.getLast?_append, List.getLast?_cons]
      rw [Option.mem_def.1 hc]
      rfl

/-- **Entries and their lines**: a line is refused for the first thing that is wrong with it, or
    it is an entry; an entry is read back from its line if a line can tell it. -/
theorem entries_and_their_lines :
    (∀ line, ∃ t, TrimsEnd line t ∧ ∀ outcome, ofLine line = outcome ↔ Tells t outcome) ∧
    (∀ e : CgroupEntry, Writable e → ∀ after : List Char, (∀ c ∈ after, isBlank c) →
      ofLine (e.render ++ after) = .ok e) ∧
    ∀ line e, ofLine line = .ok e → Writable e := by
  refine ⟨fun line => ⟨trimEnd line, trimEnd_eq_iff.1 rfl, fun outcome => ?_⟩,
    fun e h after hafter => ofLine_render h hafter, fun line e => writable_of_ofLine⟩
  exact ofLine_eq_iff (trimEnd_eq_iff.1 rfl)

/-- An empty controller between two others is kept, and so is an empty path.  A line without a
    decimal is refused for this and not for its colons. -/
theorem entries_and_their_lines_of_empty_names :
    let e : CgroupEntry := ⟨4, ["cpu", "", "io"], ""⟩
    e.render = "4:cpu,,io:".toList ∧ ofLine "4:cpu,,io: \n".toList = .ok e ∧
      ofLine "x:a:b:c ".toList = .error (.badHierarchy "x:a:b:c") := by
  intro e
  obtain ⟨htells, hwritten, -⟩ := entries_and_their_lines
  have he : Writable e := ⟨by decide, by decide, by decide, nofun⟩
  have hblank : ∀ c ∈ " \n".toList, isBlank c :=
    List.forall_mem_cons.2 ⟨by decide, List.forall_mem_singleton.2 (by decide)⟩
  have hrender : e.render = "4:cpu,,io:".toList := by decide +kernel
  refine ⟨hrender, ?_, ?_⟩
  · have hline := hwritten e he _ hblank
    rwa [hrender] at hline
  · obtain ⟨t, ht, htold⟩ := htells "x:a:b:c ".toList
    obtain rfl : t = "x:a:b:c".toList := (trimEnd_eq_iff.2 ht).symm.trans (by decide +kernel)
    have hleads : Leads "x:a:b:c".toList ['x'] := ⟨by decide, .inr ⟨_, rfl⟩⟩
    refine (htold _).2 (.badHierarchy hleads fun h hden => ?_)
    have hread := Decimal.readUInt32_eq_ok_iff.2 hden
    cases hread

end Workmeter.CgroupEntry
