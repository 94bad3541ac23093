/-
  Workmeter — lists of workloads, read and written.

  * `Items`: what stands between the commas of a text (`items_iff`);
  * `Parts`, `ItemTells`: what an item tells (`readWorkload_eq_iff`);
  * `Names`, `Pieces`, `Writes`: how a list may be written, with blanks around each part and
    with empty items;
  * `Writable`: the workloads that a list can name;
  * `readWorkloads_eq_ok_iff`: a text is read as the list that it writes;
  * `writes_render`, `workloads_round_trip`: the shortest writing of a list is read back.
-/
import Workmeter.Proofs.FirstFailure
import Workmeter.Proofs.Text.Decimal
import Workmeter.Proofs.Text.Separators
import Workmeter.Proofs.Text.Words
import Workmeter.Settings

namespace Workmeter

open Text

theorem WorkloadId.ofString_eq_error_iff {s : String} {fault : WorkloadId.Fault} :
    WorkloadId.ofString s = .error fault ↔ (s = "" ∨ 255 < s.utf8ByteSize) ∧ fault = ⟨s⟩ := by
  unfold WorkloadId.ofString
  split
  · rename_i h
    have hshort : ¬ 255 < s.utf8ByteSize := Nat.not_lt.2 h.2
    simp [h.1, hshort]
  · rename_i h
    have hbad : s = "" ∨ 255 < s.utf8ByteSize := by
      rw [Decidable.not_and_iff_or_not, Decidable.not_not, Nat.not_le] at h
      exact h
    simp [hbad, eq_comm]

namespace Settings

variable {raw item left right text piece : List Char} {items pieces : List (List Char)}
  {id : WorkloadId} {w : WorkloadId × UInt32} {workloads : List (WorkloadId × UInt32)}
  {outcome : Except Fault (WorkloadId × UInt32)}

/-! ## Items -/

/-- The items of a text: what stands between its commas, without the blanks around it, if
    anything is left. -/
def Items (raw : List Char) (items : List (List Char)) : Prop :=
  ∃ pieces texts, pieces ≠ [] ∧ (∀ p ∈ pieces, ',' ∉ p) ∧ [','].intercalate pieces = raw ∧
    List.Forall₂ Trims pieces texts ∧ texts.filter (fun text => !text.isEmpty) = items

theorem forall₂_trims_iff {texts : List (List Char)} :
    List.Forall₂ Trims pieces texts ↔ pieces.map trim = texts := by
  rw [← List.forall₂_eq_eq_eq, List.forall₂_map_left_iff]
  simp only [trim_eq_iff]

theorem items_iff : Items raw items ↔ itemsOf raw = items := by
  constructor
  · rintro ⟨pieces, texts, hne, hcomma, hraw, htexts, rfl⟩
    rw [itemsOf, splitOn_eq_iff.2 ⟨hne, hcomma, hraw⟩, forall₂_trims_iff.1 htexts]
  · rintro rfl
    obtain ⟨hne, hcomma, hraw⟩ := splitOn_eq_iff.1 (Eq.refl (raw.splitOn ','))
    exact ⟨_, _, hne, hcomma, hraw, forall₂_trims_iff.2 rfl, rfl⟩

/-! ## One item -/

/-- What stands before the first mark of the item, and what stands behind it. -/
def Parts (item left right : List Char) : Prop := item = left ++ '=' :: right ∧ '=' ∉ left

/-- What an item of the list tells. -/
inductive ItemTells (item : List Char) : Except Fault (WorkloadId × UInt32) → Prop where
  | noPid : '=' ∉ item → ItemTells item (.error ⟨.workloads, String.ofList item, .noPid⟩)
  /-- The text before the mark is empty, or has more than 255 bytes. -/
  | badId {left right : List Char} {name : String} : Parts item left right →
      Trims left name.toList → name = "" ∨ 255 < name.utf8ByteSize →
      ItemTells item (.error ⟨.workloads, String.ofList item, .badId ⟨name⟩⟩)
  /-- The text behind the mark is no decimal of 32 bits. -/
  | badPid {left right text : List Char} {id : WorkloadId} {cause : Decimal.Fault} :
      Parts item left right → Trims left id.name.toList → Trims right text →
      (∀ n : UInt32, ¬ Decimal.Denotes text n.toNat) → Decimal.readUInt32 text = .error cause →
      ItemTells item (.error ⟨.workloads, String.ofList item, .notDecimal cause⟩)
  | workload {left right text : List Char} {id : WorkloadId} {pid : UInt32} :
      Parts item left right → Trims left id.name.toList → Trims right text →
      Decimal.Denotes text pid.toNat → ItemTells item (.ok (id, pid))

section
variable (hparts : Parts item left right)
include hparts

theorem readWorkload_of_badId {cause : WorkloadId.Fault}
    (hid : WorkloadId.ofString (String.ofList (trim left)) = .error cause) :
    readWorkload item = .error ⟨.workloads, String.ofList item, .badId cause⟩ := by
  simp only [readWorkload, cut_eq_some_iff.2 hparts, hid]

theorem readWorkload_of_badPid {cause : Decimal.Fault}
    (hid : WorkloadId.ofString (String.ofList (trim left)) = .ok id)
    (hpid : Decimal.readUInt32 (trim right) = .error cause) :
    readWorkload item = .error ⟨.workloads, String.ofList item, .notDecimal cause⟩ := by
  simp only [readWorkload, cut_eq_some_iff.2 hparts, hid, hpid]

theorem readWorkload_of_pid {pid : UInt32}
    (hid : WorkloadId.ofString (String.ofList (trim left)) = .ok id)
    (hpid : Decimal.readUInt32 (trim right) = .ok pid) : readWorkload item = .ok (id, pid) := by
  simp only [readWorkload, cut_eq_some_iff.2 hparts, hid, hpid]

end

theorem ofString_of_trims (hleft : Trims left id.name.toList) :
    WorkloadId.ofString (String.ofList (trim left)) = .ok id := by
  rw [trim_eq_iff.2 hleft, String.ofList_toList, WorkloadId.ofString_eq_ok_iff]

theorem ItemTells.readWorkload_eq (h : ItemTells item outcome) : readWorkload item = outcome := by
  cases h with
  | noPid hnone => simp only [readWorkload, cut_eq_none_iff.2 hnone]
  | badId hparts hleft hbad =>
    refine readWorkload_of_badId hparts ?_
    rw [trim_eq_iff.2 hleft, String.ofList_toList]
    exact WorkloadId.ofString_eq_error_iff.2 ⟨hbad, rfl⟩
  | badPid hparts hleft hright _ hcause =>
    refine readWorkload_of_badPid hparts (ofString_of_trims hleft) ?_
    rw [trim_eq_iff.2 hright, hcause]
  | workload hparts hleft hright hden =>
    refine readWorkload_of_pid hparts (ofString_of_trims hleft) ?_
    rw [trim_eq_iff.2 hright, Decimal.readUInt32_eq_ok_iff]
    exact hden

theorem itemTells_readWorkload (item : List Char) : ItemTells item (readWorkload item) := by
  cases hcut : cut '=' item with
  | none =>
    have hnone := ItemTells.noPid (cut_eq_none_iff.1 hcut)
    rwa [hnone.readWorkload_eq]
  | some parts =>
    obtain ⟨left, right⟩ := parts
    have hparts : Parts item left right := cut_eq_some_iff.1 hcut
    have hright : Trims right (trim right) := trim_eq_iff.1 rfl
    cases hid : WorkloadId.ofString (String.ofList (trim left)) with
    | error fault =>
      rw [readWorkload_of_badId hparts hid]
      obtain ⟨hbad, rfl⟩ := WorkloadId.ofString_eq_error_iff.1 hid
      exact .badId hparts (trim_eq_iff.1 (String.toList_ofList).symm) hbad
    | ok id =>
      have hname := WorkloadId.ofString_eq_ok_iff.1 hid
      have hleft : Trims left id.name.toList :=
        trim_eq_iff.1 (by rw [hname, String.toList_ofList])
      cases hpid : Decimal.readUInt32 (trim right) with
      | error cause =>
        rw [readWorkload_of_badPid hparts hid hpid]
        refine .badPid hparts hleft hright (fun n hden => ?_) hpid
        rw [Decimal.readUInt32_eq_ok_iff.2 hden] at hpid; cases hpid
      | ok pid =>
        rw [readWorkload_of_pid hparts hid hpid]
        exact .workload hparts hleft hright (Decimal.readUInt32_eq_ok_iff.1 hpid)

/-- **An item** tells one outcome, and no other. -/
theorem readWorkload_eq_iff : readWorkload item = outcome ↔ ItemTells item outcome :=
  ⟨fun h => h ▸ itemTells_readWorkload item, ItemTells.readWorkload_eq⟩

/-! ## Writings -/

/-- The text writes the workload: its id and a decimal of its pid, with a mark between them and
    blanks around each. -/
def Names (piece : List Char) (w : WorkloadId × UInt32) : Prop :=
  ∃ left right text, piece = left ++ '=' :: right ∧ Padded left w.1.name.toList ∧
    Padded right text ∧ Decimal.Denotes text w.2.toNat

/-- The pieces write the workloads, each in a piece of its own; the other pieces are blank. -/
inductive Pieces : List (List Char) → List (WorkloadId × UInt32) → Prop where
  | nil : Pieces [] []
  | blank {piece : List Char} {pieces : List (List Char)}
      {workloads : List (WorkloadId × UInt32)} : (∀ c ∈ piece, isBlank c) →
      Pieces pieces workloads → Pieces (piece :: pieces) workloads
  | workload {piece : List Char} {w : WorkloadId × UInt32} {pieces : List (List Char)}
      {workloads : List (WorkloadId × UInt32)} : Names piece w →
      Pieces pieces workloads → Pieces (piece :: pieces) (w :: workloads)

/-- The text writes the workloads in pieces with commas between them. -/
def Writes (workloads : List (WorkloadId × UInt32)) (raw : List Char) : Prop :=
  ∃ pieces, pieces ≠ [] ∧ [','].intercalate pieces = raw ∧ Pieces pieces workloads

/-- The workload can be named in a list: neither a comma nor a mark is in its id, and no blank
    at the ends of it. -/
structure Writable (id : WorkloadId) : Prop where
  comma : ',' ∉ id.name.toList
  mark : '=' ∉ id.name.toList
  first : ∀ c ∈ id.name.toList.head?, isBlank c = false
  last : ∀ c ∈ id.name.toList.getLast?, isBlank c = false

section
variable {n : Nat} {c : Char}

theorem eq_plus_or_isDigit_of_denotes (h : Decimal.Denotes text n) (hc : c ∈ text) :
    c = '+' ∨ c.isDigit := by
  obtain ⟨digits, rfl | rfl, -, hdigits, -⟩ := h
  · exact .inr (hdigits c hc)
  · exact (List.mem_cons.1 hc).imp_right (hdigits c)

theorem isBlank_of_denotes (h : Decimal.Denotes text n) (hc : c ∈ text) : isBlank c = false := by
  obtain rfl | hdigit := eq_plus_or_isDigit_of_denotes h hc
  · decide
  · exact isBlank_of_isDigit hdigit

theorem ne_nil_of_denotes (h : Decimal.Denotes text n) : text ≠ [] := by
  obtain ⟨digits, rfl | rfl, hne, -⟩ := h
  · exact hne
  · exact List.cons_ne_nil _ _

theorem trims_of_denotes (h : Padded right text) (hden : Decimal.Denotes text n) :
    Trims right text :=
  trims_iff.2 ⟨h, fun _ hc => isBlank_of_denotes hden (List.mem_of_mem_head? hc),
    fun _ hc => isBlank_of_denotes hden (List.mem_of_mem_getLast? hc)⟩

end

theorem writable_iff :
    Writable id ↔
      ',' ∉ id.name.toList ∧ '=' ∉ id.name.toList ∧ trim id.name.toList = id.name.toList := by
  rw [trim_eq_iff, trims_iff]
  constructor
  · rintro ⟨hcomma, hmark, hfirst, hlast⟩
    exact ⟨hcomma, hmark, padded_refl _, hfirst, hlast⟩
  · rintro ⟨hcomma, hmark, -, hfirst, hlast⟩
    exact ⟨hcomma, hmark, hfirst, hlast⟩

instance (id : WorkloadId) : Decidable (Writable id) := decidable_of_iff' _ writable_iff

theorem Writable.trims (h : Writable id) (hleft : Padded left id.name.toList) :
    Trims left id.name.toList := trims_iff.2 ⟨hleft, h.first, h.last⟩

theorem Writable.mark_not_mem (h : Writable id) (hleft : Padded left id.name.toList) :
    '=' ∉ left := fun hc => (hleft.mem_or hc).elim h.mark (by decide)

/-- A text with a mark, less the blanks around it, has the same parts less those blanks. -/
theorem exists_trims_parts {name : List Char} (hleft : Padded left name)
    (hright : Padded right text) (hname : name ≠ []) (htext : text ≠ [])
    (hfirst : ∀ c ∈ name.head?, isBlank c = false)
    (hlast : ∀ c ∈ text.getLast?, isBlank c = false) :
    ∃ left' right', Trims (left ++ '=' :: right) (left' ++ '=' :: right') ∧
      Padded left' name ∧ Padded right' text := by
  obtain ⟨b₁, b₂, rfl, hb₁, hb₂⟩ := hleft
  obtain ⟨b₃, b₄, rfl, hb₃, hb₄⟩ := hright
  refine ⟨name ++ b₂, b₃ ++ text, trims_iff.2 ⟨⟨b₁, b₄, by simp, hb₁, hb₄⟩, ?_, ?_⟩,
    ⟨[], b₂, by simp, nofun, hb₂⟩, ⟨b₃, [], by simp, hb₃, nofun⟩⟩
  · obtain ⟨c, name, rfl⟩ := List.exists_cons_of_ne_nil hname
    exact hfirst
  · -- the last part ends the text, since it is not empty
    rw [← List.cons_append, ← List.append_assoc, List.getLast?_append_of_ne_nil _ htext]
    exact hlast

theorem Names.readWorkload_trim (h : Names piece w) (hw : Writable w.1) :
    readWorkload (trim piece) = .ok w := by
  obtain ⟨left, right, text, rfl, hleft, hright, hden⟩ := h
  have hname : w.1.name.toList ≠ [] := fun hnil => w.1.nonempty (String.toList_eq_nil_iff.1 hnil)
  obtain ⟨left', right', hpiece, hleft', hright'⟩ := exists_trims_parts hleft hright hname
    (ne_nil_of_denotes hden) hw.first (trims_of_denotes hright hden).2.2
  rw [trim_eq_iff.2 hpiece, readWorkload_eq_iff]
  exact .workload ⟨rfl, hw.mark_not_mem hleft'⟩ (hw.trims hleft') (trims_of_denotes hright' hden)
    hden

theorem names_of_readWorkload_trim (hcomma : ',' ∉ piece)
    (h : readWorkload (trim piece) = .ok w) : Names piece w ∧ Writable w.1 := by
  obtain ⟨before, after, hpiece, hbefore, hafter⟩ : Padded piece (trim piece) :=
    (trim_eq_iff.1 rfl).padded
  cases readWorkload_eq_iff.1 h with
  | @workload left right text id pid hparts hleft hright hden =>
    obtain ⟨hitem, hmark⟩ := hparts
    -- the blanks around the item belong to its outer parts
    have hwritten : piece = (before ++ left) ++ '=' :: (right ++ after) := by
      rw [hpiece, hitem]; simp
    have hleft' : Padded (before ++ left) id.name.toList := hleft.padded.append_left hbefore
    have hright' : Padded (right ++ after) text := hright.padded.append_right hafter
    have hmem : ∀ c ∈ id.name.toList, c ∈ left := fun c hc => by
      obtain ⟨b₁, b₂, rfl, -, -⟩ := hleft.padded
      simp [hc]
    refine ⟨⟨_, _, text, hwritten, hleft', hright', hden⟩,
      ⟨fun hc => hcomma ?_, fun hc => hmark (hmem _ hc), hleft.2.1, hleft.2.2⟩⟩
    rw [hwritten]
    simp [hmem _ hc]

/-! ## Lists -/

theorem trim_ne_nil_of_names (h : Names piece w) : trim piece ≠ [] := by
  obtain ⟨left, right, text, rfl, -⟩ := h
  rw [ne_eq, trim_eq_iff, trims_nil_iff]
  exact fun hblank => absurd (hblank '=' (by simp)) (by decide)

theorem Pieces.readItems_eq (h : Pieces pieces workloads) (hw : ∀ w ∈ workloads, Writable w.1) :
    ((pieces.map trim).filter fun item => !item.isEmpty).mapM readWorkload = .ok workloads := by
  induction h with
  | nil => rfl
  | blank hblank _ ih =>
    rw [List.map_cons, trim_eq_iff.2 (trims_nil_iff.2 hblank), List.filter_cons_of_neg (by simp)]
    exact ih hw
  | workload hnames _ ih =>
    obtain ⟨hfirst, hrest⟩ := List.forall_mem_cons.1 hw
    rw [List.map_cons, List.filter_cons_of_pos (by simpa using trim_ne_nil_of_names hnames),
      List.mapM_cons, hnames.readWorkload_trim hfirst, ih hrest]
    rfl

theorem pieces_of_readItems (hcomma : ∀ p ∈ pieces, ',' ∉ p)
    (h : ((pieces.map trim).filter fun item => !item.isEmpty).mapM readWorkload = .ok workloads) :
    Pieces pieces workloads ∧ ∀ w ∈ workloads, Writable w.1 := by
  induction pieces generalizing workloads with
  | nil =>
    cases h
    exact ⟨.nil, nofun⟩
  | cons piece pieces ih =>
    obtain ⟨hpiece, hpieces⟩ := List.forall_mem_cons.1 hcomma
    by_cases hnil : trim piece = []
    · rw [List.map_cons, List.filter_cons_of_neg (by simp [hnil])] at h
      obtain ⟨hrest, hw⟩ := ih hpieces h
      exact ⟨.blank (trims_nil_iff.1 (trim_eq_iff.1 hnil)) hrest, hw⟩
    · rw [List.map_cons, List.filter_cons_of_pos (by simpa using hnil), mapM_eq_ok_iff,
        List.forall₂_cons_left_iff] at h
      obtain ⟨w, rest, hfirst, hread, rfl⟩ := h
      obtain ⟨hnames, hwritable⟩ := names_of_readWorkload_trim hpiece hfirst
      obtain ⟨hrest, hw⟩ := ih hpieces (mapM_eq_ok_iff.2 hread)
      exact ⟨.workload hnames hrest, List.forall_mem_cons.2 ⟨hwritable, hw⟩⟩

theorem comma_not_mem_of_pieces (h : Pieces pieces workloads)
    (hw : ∀ w ∈ workloads, Writable w.1) : ∀ p ∈ pieces, ',' ∉ p := by
  induction h with
  | nil => exact nofun
  | blank hblank _ ih =>
    exact List.forall_mem_cons.2 ⟨fun hc => absurd (hblank _ hc) (by decide), ih hw⟩
  | workload hnames _ ih =>
    obtain ⟨hfirst, hrest⟩ := List.forall_mem_cons.1 hw
    refine List.forall_mem_cons.2 ⟨fun hc => ?_, ih hrest⟩
    obtain ⟨left, right, text, rfl, hleft, hright, hden⟩ := hnames
    have htext : ',' ∉ text := fun hc =>
      absurd (eq_plus_or_isDigit_of_denotes hden hc) (by decide)
    rcases List.mem_append.1 hc with hc | hc
    · exact (hleft.mem_or hc).elim hfirst.comma (by decide)
    · have hne : ',' ≠ '=' := by decide
      exact (hright.mem_or ((List.mem_cons.1 hc).resolve_left hne)).elim htext (by decide)

/-- **A list is read** from the texts that write it, and from no others. -/
theorem readWorkloads_eq_ok_iff {raw : String} :
    readWorkloads raw = .ok workloads ↔
      Writes workloads raw.toList ∧ ∀ w ∈ workloads, Writable w.1 := by
  rw [readWorkloads, itemsOf]
  constructor
  · intro h
    obtain ⟨hne, hcomma, hraw⟩ := splitOn_eq_iff.1 (Eq.refl (raw.toList.splitOn ','))
    obtain ⟨hpieces, hw⟩ := pieces_of_readItems hcomma h
    exact ⟨⟨_, hne, hraw, hpieces⟩, hw⟩
  · rintro ⟨⟨pieces, hne, hraw, hpieces⟩, hw⟩
    rw [splitOn_eq_iff.2 ⟨hne, comma_not_mem_of_pieces hpieces hw, hraw⟩]
    exact hpieces.readItems_eq hw

/-- The shortest text that writes the workloads. -/
def render (workloads : List (WorkloadId × UInt32)) : String :=
  ",".intercalate (workloads.map fun w => w.1.name ++ "=" ++ toString w.2.toNat)

theorem names_item (w : WorkloadId × UInt32) :
    Names (w.1.name ++ "=" ++ toString w.2.toNat).toList w := by
  refine ⟨w.1.name.toList, Nat.toDigits 10 w.2.toNat, _, ?_, padded_refl _, padded_refl _,
    Decimal.denotes_toDigits _⟩
  rw [Nat.toString_eq_repr, String.toList_append, String.toList_append, Nat.toList_repr]
  simp

theorem writes_render (workloads : List (WorkloadId × UInt32)) :
    Writes workloads (render workloads).toList := by
  have hpieces : Pieces
      (workloads.map fun w => (w.1.name ++ "=" ++ toString w.2.toNat).toList) workloads := by
    induction workloads with
    | nil => exact .nil
    | cons w workloads ih => exact .workload (names_item w) ih
  rw [render, String.toList_intercalate, List.map_map]
  cases workloads with
  | nil => exact ⟨[[]], List.cons_ne_nil _ _, rfl, .blank nofun .nil⟩
  | cons w workloads => exact ⟨_, List.cons_ne_nil _ _, rfl, hpieces⟩

/-- **A list of workloads is read back from its writings**, and every text that is read as a list
    is such a writing of it. -/
theorem workloads_round_trip :
    (∀ (workloads : List (WorkloadId × UInt32)) (raw : String),
      (∀ w ∈ workloads, Writable w.1) → Writes workloads raw.toList →
        readWorkloads raw = .ok workloads) ∧
    ∀ (raw : String) (workloads : List (WorkloadId × UInt32)),
      readWorkloads raw = .ok workloads →
        (∀ w ∈ workloads, Writable w.1) ∧ Writes workloads raw.toList ∧
          readWorkloads (render workloads) = .ok workloads := by
  refine ⟨fun workloads raw hw hwrites => readWorkloads_eq_ok_iff.2 ⟨hwrites, hw⟩,
    fun raw workloads hread => ?_⟩
  obtain ⟨hwrites, hw⟩ := readWorkloads_eq_ok_iff.1 hread
  exact ⟨hw, hwrites, readWorkloads_eq_ok_iff.2 ⟨writes_render workloads, hw⟩⟩

/-- Blanks of any kind, items without anything in them, a plus sign and leading zeros make no
    difference; a blank inside an id stays, and a workload may be named twice. -/
theorem workloads_round_trip_of_blank_items :
    let web : WorkloadId := ⟨"web", by decide, by decide⟩
    let spaced : WorkloadId := ⟨"ü b", by decide, by decide⟩
    let workloads : List (WorkloadId × UInt32) := [(web, 42), (spaced, 7), (web, 7)]
    let raw := "\u3000,web = 42,,\tü b=7,web=+007 ,"
    readWorkloads raw = .ok workloads ∧ render workloads = "web=42,ü b=7,web=7" ∧
      readWorkloads (render workloads) = .ok workloads := by
  intro web spaced workloads raw
  obtain ⟨hwritten, hread⟩ := workloads_round_trip
  have hweb : Writable web := by decide +kernel
  have hspaced : Writable spaced := by decide +kernel
  have hall : ∀ w ∈ workloads, Writable w.1 :=
    List.forall_mem_cons.2 ⟨hweb, List.forall_mem_cons.2 ⟨hspaced,
      List.forall_mem_cons.2 ⟨hweb, nofun⟩⟩⟩
  have hfirst : Names "web = 42".toList (web, 42) :=
    ⟨"web ".toList, " 42".toList, "42".toList, rfl, (trim_eq_iff.1 (by decide +kernel)).padded,
      (trim_eq_iff.1 (by decide +kernel)).padded,
      Decimal.readUInt32_eq_ok_iff.1 (by decide +kernel)⟩
  have hsecond : Names "\tü b=7".toList (spaced, 7) :=
    ⟨"\tü b".toList, "7".toList, "7".toList, rfl, (trim_eq_iff.1 (by decide +kernel)).padded,
      padded_refl _, Decimal.readUInt32_eq_ok_iff.1 (by decide +kernel)⟩
  have hthird : Names "web=+007 ".toList (web, 7) :=
    ⟨"web".toList, "+007 ".toList, "+007".toList, rfl, padded_refl _,
      (trim_eq_iff.1 (by decide +kernel)).padded,
      Decimal.readUInt32_eq_ok_iff.1 (by decide +kernel)⟩
  have hblank : ∀ c ∈ "\u3000".toList, isBlank c :=
    trims_nil_iff.1 (trim_eq_iff.1 (by decide +kernel))
  have hwrites : Writes workloads raw.toList :=
    ⟨["\u3000".toList, _, [], _, _, []], List.cons_ne_nil _ _, by decide +kernel,
      .blank hblank (.workload hfirst (.blank nofun (.workload hsecond (.workload hthird
        (.blank nofun .nil)))))⟩
  have hok := hwritten workloads raw hall hwrites
  exact ⟨hok, by decide +kernel, (hread raw workloads hok).2.2⟩

end Settings

end Workmeter
