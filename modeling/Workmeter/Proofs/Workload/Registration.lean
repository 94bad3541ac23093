/-
  Workmeter — the entry that decides a registration.

  A registration looks at the lines of the control-group file from the top.  It passes over
  the entries of other hierarchies, and the first line that is anything else decides; what
  stands behind it is never looked at.

  * `Passed`, `Decides`: the lines that are passed over, and what any other decides;
  * `Finds`: what the lines of a control-group file come to (`firstUnified_eq_iff`);
  * `firstUnified_append`: the lines behind the one that decides make no difference;
  * `LessSeparator`: a text without one separator at its start (`withoutSeparator_eq_iff`);
  * `resolve_eq_error_iff`, `resolve_eq_ok_iff`: the directory that the lines come to;
  * `first_unified_entry_decides`: all of it, for any bytes in the file.
-/
import Workmeter.Proofs.Files.Below
import Workmeter.Proofs.FirstFailure
import Workmeter.Proofs.Text.Lines
import Workmeter.Proofs.Workload.Roster

namespace Workmeter.Roster

open Text

variable {r : Roster} {files files' : Files} {id : WorkloadId} {pid : UInt32} {path : Path}
  {before lines more : List Line} {line : Line} {outcome : Except WorkloadFault CgroupEntry}

/-! ## Lines -/

/-- The line is an entry of another hierarchy than the unified one. -/
def Passed (line : Line) : Prop :=
  ∃ text entry, line = .ok text ∧ CgroupEntry.ofLine text = .ok entry ∧
    (entry.hierarchy ≠ 0 ∨ entry.controllers ≠ [])

/-- What a line decides that is no such entry. -/
inductive Decides (path : Path) : Line → Except WorkloadFault CgroupEntry → Prop where
  | unreadable {cause : ReadFault} : Decides path (.error cause) (.error (.unreadable path cause))
  | badEntry {text : List Char} {cause : CgroupEntry.Fault} :
      CgroupEntry.ofLine text = .error cause →
      Decides path (.ok text) (.error (.badEntry path cause))
  | unified {text : List Char} {entry : CgroupEntry} : CgroupEntry.ofLine text = .ok entry →
      entry.hierarchy = 0 → entry.controllers = [] → Decides path (.ok text) (.ok entry)

/-- What the lines of a control-group file come to. -/
inductive Finds (path : Path) (lines : List Line) : Except WorkloadFault CgroupEntry → Prop where
  | decided {before after : List Line} {line : Line} {outcome : Except WorkloadFault CgroupEntry} :
      lines = before ++ line :: after → (∀ line ∈ before, Passed line) →
      Decides path line outcome → Finds path lines outcome
  | missing : (∀ line ∈ lines, Passed line) → Finds path lines (.error (.noUnifiedEntry path))

theorem isUnified_iff {entry : CgroupEntry} :
    entry.isUnified ↔ entry.hierarchy = 0 ∧ entry.controllers = [] := by
  simp [CgroupEntry.isUnified]

/-- A line is passed over, or decides. -/
theorem passed_or_decides (path : Path) (line : Line) :
    Passed line ∨ ∃ outcome, Decides path line outcome := by
  cases line with
  | error cause => exact .inr ⟨_, .unreadable⟩
  | ok text =>
    cases hline : CgroupEntry.ofLine text with
    | error cause => exact .inr ⟨_, .badEntry hline⟩
    | ok entry =>
      by_cases hunified : entry.hierarchy = 0 ∧ entry.controllers = []
      · exact .inr ⟨_, .unified hline hunified.1 hunified.2⟩
      · exact .inl ⟨text, entry, rfl, hline, Decidable.not_and_iff_or_not.1 hunified⟩

/-! ## The first line that decides -/

theorem firstUnified_of_passed (path : Path) (h : Passed line) :
    ∃ skipped, ∀ lines, firstUnified path (line :: lines) =
      (skipped :: (firstUnified path lines).1, (firstUnified path lines).2) := by
  obtain ⟨text, entry, rfl, hline, hother⟩ := h
  have hnot : entry.isUnified = false := by
    rw [Bool.eq_false_iff, ne_eq, isUnified_iff]
    exact Decidable.not_and_iff_or_not.2 hother
  exact ⟨String.ofList (trim text), fun lines => by simp [firstUnified, hline, hnot]⟩

theorem firstUnified_of_decides (h : Decides path line outcome) (lines : List Line) :
    firstUnified path (line :: lines) = ([], outcome) := by
  cases h with
  | unreadable => rfl
  | badEntry hline => simp only [firstUnified, hline]
  | unified hline hzero hnone =>
    simp only [firstUnified, hline, isUnified_iff.2 ⟨hzero, hnone⟩, if_true]

theorem firstUnified_append_of_passed (h : ∀ line ∈ before, Passed line) (lines : List Line) :
    (firstUnified path (before ++ lines)).2 = (firstUnified path lines).2 := by
  refine append_of_skipped (f := fun lines => (firstUnified path lines).2)
    (fun line hline lines => ?_) h lines
  obtain ⟨skipped, hskip⟩ := firstUnified_of_passed path hline
  rw [hskip]

theorem Finds.firstUnified_eq (h : Finds path lines outcome) :
    (firstUnified path lines).2 = outcome := by
  cases h with
  | decided he hbefore hline =>
    rw [he, firstUnified_append_of_passed hbefore, firstUnified_of_decides hline]
  | missing hall =>
    rw [← List.append_nil lines, firstUnified_append_of_passed hall]
    rfl

theorem finds_firstUnified (path : Path) (lines : List Line) :
    Finds path lines (firstUnified path lines).2 := by
  obtain hall | ⟨before, line, after, rfl, hbefore, hline⟩ := all_or_first Passed lines
  · rw [(Finds.missing hall).firstUnified_eq]
    exact .missing hall
  · obtain ⟨outcome, hdecides⟩ := (passed_or_decides path line).resolve_left hline
    have hfinds : Finds path (before ++ line :: after) outcome := .decided rfl hbefore hdecides
    rw [hfinds.firstUnified_eq]
    exact hfinds

/-- **The lines of a control-group file** come to one outcome, and to no other. -/
theorem firstUnified_eq_iff : (firstUnified path lines).2 = outcome ↔ Finds path lines outcome :=
  ⟨fun h => h ▸ finds_firstUnified path lines, Finds.firstUnified_eq⟩

/-- **Behind a line that decides**, no line is looked at. -/
theorem firstUnified_append (hmem : line ∈ lines) (hline : Decides path line outcome) :
    firstUnified path (lines ++ more) = firstUnified path lines := by
  induction lines with
  | nil => cases hmem
  | cons first lines ih =>
    -- a line before it may decide in its place
    obtain hpassed | ⟨outcome', hdecides⟩ := passed_or_decides path first
    · obtain ⟨skipped, hskip⟩ := firstUnified_of_passed path hpassed
      obtain rfl | hmem := List.mem_cons.1 hmem
      · have hfirst := firstUnified_of_decides hline lines
        rw [hskip] at hfirst
        cases hfirst
      · rw [List.cons_append, hskip, hskip, ih hmem]
    · rw [List.cons_append, firstUnified_of_decides hdecides, firstUnified_of_decides hdecides]

/-! ## The directory of an entry -/

/-- The rest is the text less one separator at its start, if there is one. -/
def LessSeparator (text rest : String) : Prop :=
  text = "/" ++ rest ∨ text = rest ∧ ∀ more, text ≠ "/" ++ more

theorem withoutSeparator_append (rest : String) : withoutSeparator ("/" ++ rest) = rest := by
  rw [withoutSeparator, Path.toList_separator_append]
  simp

theorem withoutSeparator_of_none {text : String} (h : ∀ more, text ≠ "/" ++ more) :
    withoutSeparator text = text := by
  unfold withoutSeparator
  split
  · rename_i c rest htext
    refine if_neg fun hc => h (String.ofList rest) (String.toList_inj.1 ?_)
    rw [htext, hc, Path.toList_separator_append, String.toList_ofList]
  · rfl

theorem withoutSeparator_eq_iff {text rest : String} :
    withoutSeparator text = rest ↔ LessSeparator text rest := by
  constructor
  · rintro rfl
    by_cases h : ∃ more, text = "/" ++ more
    · obtain ⟨more, rfl⟩ := h
      exact .inl (by rw [withoutSeparator_append])
    · have hnone : ∀ more, text ≠ "/" ++ more := fun more he => h ⟨more, he⟩
      exact .inr ⟨(withoutSeparator_of_none hnone).symm, hnone⟩
  · rintro (rfl | ⟨rfl, hnone⟩)
    · exact withoutSeparator_append rest
    · exact withoutSeparator_of_none hnone

/-! ## A registration -/

section
variable {content content' : Content} (hopened : files.opened (r.cgroupFile pid) = .ok content)
include hopened

theorem resolve_of_opened :
    r.resolve files pid = (firstUnified (r.cgroupFile pid) content.lines).2.map r.directoryOf := by
  simp only [resolve, Files.openFile, hopened]

theorem resolve_eq_error_iff {fault : WorkloadFault} :
    r.resolve files pid = .error fault ↔
      Finds (r.cgroupFile pid) content.lines (.error fault) := by
  rw [resolve_of_opened hopened, ← firstUnified_eq_iff]
  cases (firstUnified (r.cgroupFile pid) content.lines).2 <;> simp [Except.map]

theorem resolve_eq_ok_iff {directory : Path} :
    r.resolve files pid = .ok directory ↔
      ∃ entry rest, Finds (r.cgroupFile pid) content.lines (.ok entry) ∧
        LessSeparator entry.path rest ∧ r.cgroupRoot.join rest = directory := by
  simp only [resolve_of_opened hopened, ← firstUnified_eq_iff, ← withoutSeparator_eq_iff]
  cases (firstUnified (r.cgroupFile pid) content.lines).2 <;> simp [Except.map, directoryOf]

theorem register_eq_of_firstUnified
    (hopened' : files'.opened (r.cgroupFile pid) = .ok content')
    (hfound : firstUnified (r.cgroupFile pid) content'.lines =
      firstUnified (r.cgroupFile pid) content.lines) :
    r.register files' id pid = r.register files id pid := by
  simp only [register, Files.openFile, hopened, hopened', hfound]

end

/-- **The first unified entry decides** what a registration stores or fails for, whatever stands
    behind the end of its line. -/
theorem first_unified_entry_decides (r : Roster) (files : Files) (id : WorkloadId) (pid : UInt32)
    (bytes : List UInt8) (hopened : files.opened (r.cgroupFile pid) = .ok (.ok bytes)) :
    let path := r.cgroupFile pid
    let outcome := r.register files id pid
    ∃ lines, Reads bytes lines ∧
      (∀ fault, outcome.result = .error fault ↔ Finds path lines (.error fault)) ∧
      (outcome.result = .ok () ↔ ∃ entry, Finds path lines (.ok entry)) ∧
      (∀ entry, Finds path lines (.ok entry) → ∃ rest, LessSeparator entry.path rest ∧
        outcome.roster = r.enter id ⟨pid, r.cgroupRoot.join rest⟩ ∧
        outcome.roster.find? id = some ⟨pid, r.cgroupRoot.join rest⟩) ∧
      (∀ other, other ≠ id → outcome.roster.find? other = r.find? other) ∧
      (∀ fault, outcome.result = .error fault → outcome.roster = r) ∧
      ∀ head tail top line found, bytes = head ++ lineEnd :: tail →
        Reads (head ++ [lineEnd]) top → line ∈ top → Decides path line found →
        ∀ files' tail', files'.opened path = .ok (.ok (head ++ lineEnd :: tail')) →
          r.register files' id pid = r.register files id pid := by
  intro path outcome
  refine ⟨linesOf bytes, reads_iff.2 rfl, fun fault => ?_, ?_, fun entry hfinds => ?_,
    fun other hother => find?_register_of_ne hother, fun fault hfault => roster_of_error hfault, ?_⟩
  · exact register_eq_error_iff.trans (resolve_eq_error_iff hopened)
  · rw [register_eq_ok_iff]
    simp only [resolve_eq_ok_iff hopened]
    constructor
    · rintro ⟨_, entry, -, hfinds, -⟩
      exact ⟨entry, hfinds⟩
    · rintro ⟨entry, hfinds⟩
      exact ⟨_, entry, _, hfinds, withoutSeparator_eq_iff.1 rfl, rfl⟩
  · obtain ⟨rest, hless⟩ : ∃ rest, LessSeparator entry.path rest :=
      ⟨_, withoutSeparator_eq_iff.1 rfl⟩
    have hroster : outcome.roster = r.enter id ⟨pid, r.cgroupRoot.join rest⟩ :=
      roster_of_ok ((resolve_eq_ok_iff hopened).2 ⟨entry, rest, hfinds, hless, rfl⟩)
    exact ⟨rest, hless, hroster, by rw [hroster, find?_enter, if_pos rfl]⟩
  · intro head tail top line found hbytes htop hmem hline files' tail' hopened'
    refine register_eq_of_firstUnified hopened hopened' ?_
    obtain rfl := reads_iff.1 htop
    rw [Content.lines, Content.lines, hbytes, linesOf_append_lineEnd,
      linesOf_append_lineEnd head tail, firstUnified_append hmem hline,
      firstUnified_append hmem hline]

/-- The line `:` and one that is not UTF-8 make no difference behind the unified entry; before
    it, the first of them is what the registration fails for. -/
theorem first_unified_entry_decides_before_garbage :
    let web : WorkloadId := ⟨"web", by decide, by decide⟩
    let db : WorkloadId := ⟨"db", by decide, by decide⟩
    let host : Roster :=
      { rootfs := ⟨"/"⟩, cgroupRoot := ⟨"/groups"⟩, known := [(db, ⟨3, ⟨"/groups/db"⟩⟩)] }
    let path := host.cgroupFile 7
    let holding (bytes : List UInt8) := Files.ofAnswers [(path, .ok (.ok bytes))]
    let top : List UInt8 := [52, 58, 99, 112, 117, 58, 47, 10]  -- `4:cpu:/`
    let unified : List UInt8 := [48, 58, 58, 47, 119, 101, 98]  -- `0::/web`
    let garbage : List UInt8 := [58, 10, 255, 10]
    let registered := host.register (holding (top ++ unified ++ 10 :: garbage)) web 7
    let refused := host.register (holding (top ++ garbage ++ unified)) web 7
    registered.result = .ok () ∧
      registered.roster.find? web = some ⟨7, ⟨"/groups/web"⟩⟩ ∧
      registered.roster.find? db = some ⟨3, ⟨"/groups/db"⟩⟩ ∧
      host.register (holding (top ++ unified ++ [10])) web 7 = registered ∧
      refused.result = .error (.badEntry path (.badHierarchy ":")) ∧ refused.roster = host := by
  intro web db host path holding top unified garbage registered refused
  obtain ⟨lines, hreads, -, hok, hstored, hothers, -, hsame⟩ := first_unified_entry_decides host
    (holding (top ++ unified ++ 10 :: garbage)) web 7 (top ++ unified ++ 10 :: garbage)
    (by decide +kernel)
  obtain ⟨lines', hreads', hfault, -, -, -, hnothing, -⟩ := first_unified_entry_decides host
    (holding (top ++ garbage ++ unified)) web 7 (top ++ garbage ++ unified) (by decide +kernel)
  obtain rfl := reads_iff.1 hreads
  obtain rfl := reads_iff.1 hreads'
  let other : Line := .ok "4:cpu:/".toList
  let line : Line := .ok "0::/web".toList
  let entry : CgroupEntry := ⟨0, [], "/web"⟩
  have hpassed : ∀ l ∈ [other], Passed l :=
    List.forall_mem_singleton.2 ⟨_, ⟨4, ["cpu"], "/"⟩, rfl, by decide +kernel, .inl (by decide)⟩
  have hdecides : Decides path line (.ok entry) := .unified (by decide +kernel) rfl rfl
  have hrefused : Decides path (.ok ":".toList) (.error (.badEntry path (.badHierarchy ":"))) :=
    .badEntry (by decide +kernel)
  have hlines : linesOf (top ++ unified ++ 10 :: garbage) =
      [other] ++ line :: [.ok ":".toList, .error .notUtf8] := by decide +kernel
  have hlines' : linesOf (top ++ garbage ++ unified) =
      [other] ++ .ok ":".toList :: [.error .notUtf8, line] := by decide +kernel
  have hfinds : Finds path (linesOf (top ++ unified ++ 10 :: garbage)) (.ok entry) :=
    .decided hlines hpassed hdecides
  have hfailed := (hfault _).2 (.decided hlines' hpassed hrefused)
  obtain ⟨rest, hless, -, hfound⟩ := hstored entry hfinds
  have hdirectory : host.cgroupRoot.join rest = ⟨"/groups/web"⟩ := by
    rw [← withoutSeparator_eq_iff.2 hless]
    decide +kernel
  refine ⟨hok.2 ⟨entry, hfinds⟩, by rw [← hdirectory]; exact hfound,
    (hothers db (by decide)).trans (by decide), ?_, hfailed, hnothing _ hfailed⟩
  exact hsame (top ++ unified) garbage _ line _ rfl (reads_iff.2 rfl) (by decide +kernel) hdecides
    _ [] (by decide +kernel)

end Workmeter.Roster
