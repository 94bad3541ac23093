/-
  Workmeter — the settings that the variables tell, and the variable that is blamed.

  * `IsNumber`, `BadNumber`: the number that a variable holds, and why it holds none
    (`readPositive_eq_ok_iff`, `readPositive_eq_error_iff`);
  * `IsWorkload`: the items that tell a workload;
  * `Valid`, `Told`: the variables that tell settings, and the settings that they tell
    (`exists_read_iff`, `read_eq_ok_iff`);
  * `Refuses`: the variables that are refused, the first of which is blamed
    (`read_eq_error_iff`);
  * `valid_or_first_fault`: all of it, for any variables.
-/
import Workmeter.Proofs.Settings.Workloads

namespace Workmeter.Settings

open Text

variable {α : Type} {lookup : Variable → Option String} {var : Variable} {raw : String}
  {fault : Fault} {s : Settings}

/-! ## Numbers -/

/-- Without the blanks around it, the text is a decimal of this number. -/
def IsNumber (raw : String) (n : Nat) : Prop :=
  ∃ text, Trims raw.toList text ∧ Decimal.Denotes text n

/-- Why a text is not a number above zero that fits 64 bits. -/
inductive BadNumber (raw : String) : Reason → Prop where
  | notDecimal {text : List Char} {cause : Decimal.Fault} : Trims raw.toList text →
      ¬ Decimal.DenotesWord text → Decimal.readUInt64 text = .error cause →
      BadNumber raw (.notDecimal cause)
  | zero : IsNumber raw 0 → BadNumber raw .zero

theorem isNumber_iff {v : UInt64} :
    IsNumber raw v.toNat ↔ Decimal.readUInt64 (trim raw.toList) = .ok v := by
  rw [Decimal.readUInt64_eq_ok_iff]
  constructor
  · rintro ⟨text, htext, hden⟩
    rwa [trim_eq_iff.2 htext]
  · exact fun hden => ⟨_, trim_eq_iff.1 rfl, hden⟩

/-- What holds of a word holds of a number that fits one. -/
theorem exists_word_iff {p : Nat → Prop} :
    (∃ v : UInt64, p v.toNat) ↔ ∃ n < UInt64.size, p n := by
  constructor
  · rintro ⟨v, hv⟩
    exact ⟨v.toNat, v.toNat_lt, hv⟩
  · rintro ⟨n, hlt, hn⟩
    exact ⟨.ofNat n, by rwa [UInt64.toNat_ofNat_of_lt' hlt]⟩

theorem readPositive_eq_ok_iff {v : UInt64} :
    readPositive var raw = .ok v ↔ IsNumber raw v.toNat ∧ 1 ≤ v.toNat := by
  have hzero : 1 ≤ v.toNat ↔ v ≠ 0 := by
    rw [Nat.one_le_iff_ne_zero, ne_eq, ne_eq, ← UInt64.toNat_inj, UInt64.toNat_zero]
  rw [isNumber_iff, hzero, readPositive]
  cases Decimal.readUInt64 (trim raw.toList) with
  | error cause => simp
  | ok n =>
    by_cases hn : n = 0
    · simp only [if_pos hn, reduceCtorEq, false_iff, Except.ok.injEq, not_and, not_not]
      rintro rfl
      exact hn
    · simp only [if_neg hn, Except.ok.injEq, iff_self_and]
      rintro rfl
      exact hn

theorem exists_readPositive_iff :
    (∃ v, readPositive var raw = .ok v) ↔ ∃ n, IsNumber raw n ∧ 1 ≤ n ∧ n < UInt64.size := by
  simp only [readPositive_eq_ok_iff]
  rw [exists_word_iff (p := fun n => IsNumber raw n ∧ 1 ≤ n)]
  exact exists_congr fun n => ⟨fun ⟨hlt, hnumber, hpos⟩ => ⟨hnumber, hpos, hlt⟩,
    fun ⟨hnumber, hpos, hlt⟩ => ⟨hlt, hnumber, hpos⟩⟩

theorem readPositive_eq_error_iff :
    readPositive var raw = .error fault ↔
      ∃ reason, BadNumber raw reason ∧ fault = ⟨var, raw, reason⟩ := by
  rw [readPositive]
  constructor
  · intro h
    have htext : Trims raw.toList (trim raw.toList) := trim_eq_iff.1 rfl
    cases hread : Decimal.readUInt64 (trim raw.toList) with
    | error cause =>
      rw [hread] at h; cases h
      exact ⟨_, .notDecimal htext (Decimal.not_denotesWord_iff.2 ⟨_, hread⟩) hread, rfl⟩
    | ok n =>
      rw [hread] at h
      by_cases hn : n = 0
      · rw [hn] at hread
        simp only [if_pos hn] at h; cases h
        exact ⟨_, .zero (isNumber_iff.2 hread), rfl⟩
      · simp only [if_neg hn] at h; cases h
  · rintro ⟨_, hbad, rfl⟩
    cases hbad with
    | notDecimal htext _ hcause => rw [trim_eq_iff.2 htext, hcause]
    | zero hzero =>
      have hread : Decimal.readUInt64 (trim raw.toList) = .ok 0 := isNumber_iff.1 hzero
      rw [hread]
      rfl

theorem readBuffer_eq_bind :
    readBuffer raw = readPositive .buffer raw >>= fun v =>
      if v.toNat ≤ largestBuffer then .ok v.toNat
      else .error ⟨.buffer, raw, .aboveLargestBuffer⟩ := by
  rw [readBuffer]
  cases readPositive .buffer raw <;> rfl

theorem readBuffer_eq_ok_iff {n : Nat} :
    readBuffer raw = .ok n ↔ IsNumber raw n ∧ 1 ≤ n ∧ n ≤ largestBuffer := by
  simp only [readBuffer_eq_bind, bind_eq_ok_iff, readPositive_eq_ok_iff, ite_eq_iff,
    Except.ok.injEq, reduceCtorEq, and_false, or_false]
  rw [exists_word_iff (p := fun v => (IsNumber raw v ∧ 1 ≤ v) ∧ v ≤ largestBuffer ∧ v = n)]
  constructor
  · rintro ⟨v, -, ⟨hnumber, hpos⟩, hle, rfl⟩
    exact ⟨hnumber, hpos, hle⟩
  · rintro ⟨hnumber, hpos, hle⟩
    exact ⟨n, Nat.lt_of_le_of_lt hle (by decide), ⟨hnumber, hpos⟩, hle, rfl⟩

/-- The text is a number, but of no buffer. -/
def TooLarge (raw : String) : Prop := ∃ n < UInt64.size, IsNumber raw n ∧ largestBuffer < n

theorem readBuffer_eq_error_iff :
    readBuffer raw = .error fault ↔
      (∃ reason, BadNumber raw reason ∧ fault = ⟨.buffer, raw, reason⟩) ∨
        TooLarge raw ∧ fault = ⟨.buffer, raw, .aboveLargestBuffer⟩ := by
  simp only [readBuffer_eq_bind, bind_eq_error_iff, readPositive_eq_error_iff,
    readPositive_eq_ok_iff, ite_eq_iff, reduceCtorEq, and_false, false_or, Except.error.injEq,
    Nat.not_le]
  refine or_congr_right ?_
  constructor
  · rintro ⟨v, ⟨hnumber, -⟩, hlarge, rfl⟩
    exact ⟨exists_word_iff.1 ⟨v, hnumber, hlarge⟩, rfl⟩
  · rintro ⟨hlarge, rfl⟩
    obtain ⟨v, hnumber, hlarge⟩ := exists_word_iff.2 hlarge
    exact ⟨v, ⟨hnumber, Nat.lt_of_le_of_lt (Nat.zero_le _) hlarge⟩, hlarge, rfl⟩

/-! ## Items -/

/-- The item has a mark, a text of 1 to 255 bytes before the first one, and a decimal of 32 bits
    behind it, each between blanks. -/
def IsWorkload (item : List Char) : Prop :=
  ∃ left right, Parts item left right ∧
    (∃ name : String, Trims left name.toList ∧ 1 ≤ name.utf8ByteSize ∧ name.utf8ByteSize ≤ 255) ∧
    ∃ text n, Trims right text ∧ Decimal.Denotes text n ∧ n < UInt32.size

theorem isWorkload_iff {item : List Char} : IsWorkload item ↔ ∃ w, readWorkload item = .ok w := by
  simp only [readWorkload_eq_iff]
  constructor
  · rintro ⟨left, right, hparts, ⟨name, hleft, hpos, hshort⟩, text, n, hright, hden, hlt⟩
    have hne : name ≠ "" := by rintro rfl; exact absurd hpos (by decide)
    let id : WorkloadId := ⟨name, hne, hshort⟩
    have hsize : (UInt32.ofNat n).toNat = n := UInt32.toNat_ofNat_of_lt' hlt
    have hpid : Decimal.Denotes text (UInt32.ofNat n).toNat := by rwa [hsize]
    exact ⟨(id, .ofNat n), .workload hparts hleft hright hpid⟩
  · rintro ⟨w, hw⟩
    cases hw with
    | @workload left right text id pid hparts hleft hright hden =>
      have hpos : 1 ≤ id.name.utf8ByteSize :=
        Nat.one_le_iff_ne_zero.2 (mt String.utf8ByteSize_eq_zero_iff.1 id.nonempty)
      exact ⟨left, right, hparts, ⟨id.name, hleft, hpos, id.short⟩, text, pid.toNat, hright, hden,
        pid.toNat_lt⟩

theorem readWorkloads_eq_ok_iff_items {workloads : List (WorkloadId × UInt32)} :
    readWorkloads raw = .ok workloads ↔
      ∃ items, Items raw.toList items ∧
        List.Forall₂ (fun item w => ItemTells item (.ok w)) items workloads := by
  simp only [readWorkloads, mapM_eq_ok_iff, readWorkload_eq_iff, items_iff, exists_eq_left']

theorem readWorkloads_eq_error_iff :
    readWorkloads raw = .error fault ↔
      ∃ items, Items raw.toList items ∧
        FailsFirst (fun _ item fault => ItemTells item (.error fault)) items fault := by
  simp only [readWorkloads, mapM_eq_error_iff, readWorkload_eq_iff, items_iff, exists_eq_left']

theorem exists_readWorkloads_iff :
    (∃ workloads, readWorkloads raw = .ok workloads) ↔
      ∀ items, Items raw.toList items → ∀ item ∈ items, IsWorkload item := by
  simp only [readWorkloads, exists_mapM_iff, isWorkload_iff, items_iff, forall_eq']

/-! ## Variables -/

/-- A variable that is not set has the default value; any other has the value that its text
    tells. -/
def TellsOr (tells : String → α → Prop) (default : α) (value : Option String) (a : α) : Prop :=
  match value with
  | some raw => tells raw a
  | none => a = default

variable {value : Option String} {readValue : String → Except Fault α} {default a : α}

theorem TellsOr.of_all {tells : String → α → Prop} {p : α → Prop}
    (h : TellsOr tells default value a) (hdefault : p default)
    (htells : ∀ raw, tells raw a → p a) : p a := by
  cases value with
  | none =>
    obtain rfl : a = default := h
    exact hdefault
  | some raw => exact htells raw h

theorem readOr_eq_ok_iff :
    readOr value readValue default = .ok a ↔
      TellsOr (fun raw a => readValue raw = .ok a) default value a := by
  cases value <;> simp [readOr, TellsOr, eq_comm]

theorem readOr_eq_error_iff :
    readOr value readValue default = .error fault ↔
      ∃ raw, value = some raw ∧ readValue raw = .error fault := by
  cases value <;> simp [readOr]

theorem exists_readOr_iff :
    (∃ a, readOr value readValue default = .ok a) ↔
      ∀ raw, value = some raw → ∃ a, readValue raw = .ok a := by
  cases value <;> simp [readOr]

theorem readDirectory_eq_iff {default path : Path} :
    readDirectory value default = path ↔
      TellsOr (fun text path => path = ⟨text⟩) default (value.filter (· ≠ "")) path := by
  cases value with
  | none => simp [readDirectory, TellsOr, eq_comm]
  | some text =>
    rw [readDirectory, @eq_comm _ _ path]
    by_cases htext : text = "" <;> simp [TellsOr, Option.filter_some, htext]

/-- The variables tell settings. -/
structure Valid (lookup : Variable → Option String) : Prop where
  interval : ∀ raw, lookup .interval = some raw → ∃ n, IsNumber raw n ∧ 1 ≤ n ∧ n < UInt64.size
  buffer : ∀ raw, lookup .buffer = some raw → ∃ n, IsNumber raw n ∧ 1 ≤ n ∧ n ≤ 65536
  workloads : ∀ raw, lookup .workloads = some raw →
    ∀ items, Items raw.toList items → ∀ item ∈ items, IsWorkload item

/-- The settings that the variables tell. -/
structure Told (lookup : Variable → Option String) (s : Settings) : Prop where
  interval : TellsOr (fun raw v => IsNumber raw v.toNat ∧ 1 ≤ v.toNat) 1000 (lookup .interval)
    s.interval
  buffer : TellsOr (fun raw n => IsNumber raw n ∧ 1 ≤ n ∧ n ≤ 65536) 64 (lookup .buffer) s.buffer
  rootfs : TellsOr (fun text path => path = ⟨text⟩) ⟨"/"⟩ ((lookup .rootfs).filter (· ≠ ""))
    s.rootfs
  cgroupRoot : TellsOr (fun text path => path = ⟨text⟩) (s.rootfs.join "sys/fs/cgroup")
    ((lookup .cgroupRoot).filter (· ≠ "")) s.cgroupRoot
  /-- Every item tells a workload, in the order of the items. -/
  workloads : TellsOr (fun raw workloads => ∃ items, Items raw.toList items ∧
    List.Forall₂ (fun item w => ItemTells item (.ok w)) items workloads) []
    (lookup .workloads) s.workloads

theorem Told.interval_ne_zero (h : Told lookup s) : s.interval ≠ 0 :=
  h.interval.of_all (p := (· ≠ 0)) (by decide) fun _ hv hzero =>
    absurd hv.2 (by rw [hzero]; decide)

theorem Told.clamp_buffer (h : Told lookup s) : min (max s.buffer 1) largestBuffer = s.buffer :=
  h.buffer.of_all (p := fun n => min (max n 1) largestBuffer = n) rfl fun _ ⟨_, hpos, hle⟩ => by
    rw [Nat.max_eq_left hpos]
    exact Nat.min_eq_left hle

/-- Why a variable is refused: an interval or a buffer with its whole text, a list of workloads
    with its first item that tells none. -/
inductive Refuses (lookup : Variable → Option String) : Variable → Fault → Prop where
  | number {var : Variable} {raw : String} {reason : Reason} : var = .interval ∨ var = .buffer →
      lookup var = some raw → BadNumber raw reason → Refuses lookup var ⟨var, raw, reason⟩
  | tooLarge {raw : String} : lookup .buffer = some raw → TooLarge raw →
      Refuses lookup .buffer ⟨.buffer, raw, .aboveLargestBuffer⟩
  | workloads {raw : String} {items : List (List Char)} {fault : Fault} :
      lookup .workloads = some raw → Items raw.toList items →
      FailsFirst (fun _ item fault => ItemTells item (.error fault)) items fault →
      Refuses lookup .workloads fault

theorem refuses_interval_iff :
    Refuses lookup .interval fault ↔
      readOr (lookup .interval) (readPositive .interval) defaultInterval = .error fault := by
  simp only [readOr_eq_error_iff, readPositive_eq_error_iff]
  constructor
  · rintro (⟨-, hraw, hbad⟩ | - | -)
    exact ⟨_, hraw, _, hbad, rfl⟩
  · rintro ⟨raw, hraw, reason, hbad, rfl⟩
    exact .number (.inl rfl) hraw hbad

theorem refuses_buffer_iff :
    Refuses lookup .buffer fault ↔
      readOr (lookup .buffer) readBuffer defaultBuffer = .error fault := by
  simp only [readOr_eq_error_iff, readBuffer_eq_error_iff]
  constructor
  · rintro (⟨-, hraw, hbad⟩ | ⟨hraw, hlarge⟩ | -)
    · exact ⟨_, hraw, .inl ⟨_, hbad, rfl⟩⟩
    · exact ⟨_, hraw, .inr ⟨hlarge, rfl⟩⟩
  · rintro ⟨raw, hraw, ⟨reason, hbad, rfl⟩ | ⟨hlarge, rfl⟩⟩
    · exact .number (.inr rfl) hraw hbad
    · exact .tooLarge hraw hlarge

theorem refuses_workloads_iff :
    Refuses lookup .workloads fault ↔
      readOr (lookup .workloads) readWorkloads [] = .error fault := by
  simp only [readOr_eq_error_iff, readWorkloads_eq_error_iff]
  constructor
  · rintro (⟨hvar | hvar, -⟩ | - | ⟨hraw, hitems, hfirst⟩)
    · cases hvar
    · cases hvar
    · exact ⟨_, hraw, _, hitems, hfirst⟩
  · rintro ⟨raw, hraw, items, hitems, hfirst⟩
    exact .workloads hraw hitems hfirst

/-- **The first variable that is refused is blamed.** -/
theorem read_eq_error_iff :
    read lookup = .error fault ↔
      FailsFirst (fun _ => Refuses lookup) [.interval, .buffer, .workloads] fault := by
  -- a bind fails at its first reading, or succeeds there and fails behind it: so does a list
  simp only [failsFirst_cons_iff, not_failsFirst_nil, and_false, or_false, refuses_interval_iff,
    refuses_buffer_iff, refuses_workloads_iff, forall_ne_error_iff, read, bind_eq_error_iff, pure,
    Except.pure, reduceCtorEq, exists_const, exists_and_right]

/-- **The settings** are those that the variables tell. -/
theorem read_eq_ok_iff : read lookup = .ok s ↔ Told lookup s := by
  simp only [read, bind_eq_ok_iff, readOr_eq_ok_iff, readPositive_eq_ok_iff, readBuffer_eq_ok_iff,
    readWorkloads_eq_ok_iff_items, pure, Except.pure, Except.ok.injEq]
  constructor
  · rintro ⟨interval, hinterval, buffer, hbuffer, workloads, hworkloads, rfl⟩
    exact ⟨hinterval, hbuffer, readDirectory_eq_iff.1 rfl, readDirectory_eq_iff.1 rfl, hworkloads⟩
  · rintro ⟨hinterval, hbuffer, hrootfs, hcgroupRoot, hworkloads⟩
    refine ⟨_, hinterval, _, hbuffer, _, hworkloads, ?_⟩
    rw [readDirectory_eq_iff.2 hrootfs, cgroupMount, readDirectory_eq_iff.2 hcgroupRoot]

/-- **There are settings** if the variables tell some. -/
theorem exists_read_iff : (∃ s, read lookup = .ok s) ↔ Valid lookup := by
  have hinterval :
      (∃ v, readOr (lookup .interval) (readPositive .interval) defaultInterval = .ok v) ↔
        ∀ raw, lookup .interval = some raw → ∃ n, IsNumber raw n ∧ 1 ≤ n ∧ n < UInt64.size := by
    simp only [exists_readOr_iff, exists_readPositive_iff]
  have hbuffer : (∃ n, readOr (lookup .buffer) readBuffer defaultBuffer = .ok n) ↔
      ∀ raw, lookup .buffer = some raw → ∃ n, IsNumber raw n ∧ 1 ≤ n ∧ n ≤ 65536 := by
    simp only [exists_readOr_iff, readBuffer_eq_ok_iff]
    rfl
  have hworkloads : (∃ workloads, readOr (lookup .workloads) readWorkloads [] = .ok workloads) ↔
      ∀ raw, lookup .workloads = some raw →
        ∀ items, Items raw.toList items → ∀ item ∈ items, IsWorkload item := by
    simp only [exists_readOr_iff, exists_readWorkloads_iff]
  simp only [read, bind_eq_ok_iff, pure, Except.pure, Except.ok.injEq]
  constructor
  · rintro ⟨s, interval, hi, buffer, hb, workloads, hw, -⟩
    exact ⟨hinterval.1 ⟨_, hi⟩, hbuffer.1 ⟨_, hb⟩, hworkloads.1 ⟨_, hw⟩⟩
  · rintro ⟨hi, hb, hw⟩
    obtain ⟨interval, hi⟩ := hinterval.2 hi
    obtain ⟨buffer, hb⟩ := hbuffer.2 hb
    obtain ⟨workloads, hw⟩ := hworkloads.2 hw
    exact ⟨_, interval, hi, buffer, hb, workloads, hw, rfl⟩

/-- An empty directory variable counts as not set. -/
theorem read_without_empty (hvar : var = .rootfs ∨ var = .cgroupRoot)
    (hempty : lookup var = some "") :
    read (fun v => if v = var then none else lookup v) = read lookup := by
  obtain rfl | rfl := hvar <;> simp [read, readDirectory, hempty]

/-- **The settings are valid, or the first bad variable is blamed**, in the order interval, buffer
    and workloads. -/
theorem valid_or_first_fault (lookup : Variable → Option String) :
    ((∃ s, read lookup = .ok s) ↔ Valid lookup) ∧
    (∀ fault, read lookup = .error fault ↔
      FailsFirst (fun _ => Refuses lookup) [.interval, .buffer, .workloads] fault) ∧
    (∀ s, read lookup = .ok s ↔ Told lookup s) ∧
    (∀ s, read lookup = .ok s → s.interval ≠ 0 ∧ min (max s.buffer 1) largestBuffer = s.buffer ∧
      capacityFor s.buffer = roundUp s.buffer) ∧
    ∀ var, var = .rootfs ∨ var = .cgroupRoot → lookup var = some "" →
      read (fun v => if v = var then none else lookup v) = read lookup := by
  refine ⟨exists_read_iff, fun fault => read_eq_error_iff, fun s => read_eq_ok_iff,
    fun s hread => ?_, fun var => read_without_empty⟩
  have htold := read_eq_ok_iff.1 hread
  have hbuffer := htold.clamp_buffer
  exact ⟨htold.interval_ne_zero, hbuffer, by rw [capacityFor, hbuffer]⟩

/-- Blanks, a plus sign, leading zeros and empty items are taken; a buffer that is too large is
    blamed before a bad list, and the first bad item before a later one. -/
theorem valid_or_first_fault_of_blanks :
    let web : WorkloadId := ⟨"web", by decide, by decide⟩
    let db : WorkloadId := ⟨"db", by decide, by decide⟩
    let good : Variable → Option String
      | .interval => " +250\t"
      | .buffer => "08"
      | .rootfs => ""
      | .cgroupRoot => none
      | .workloads => "web=1,, db = 2,web=1"
    let large : Variable → Option String
      | .buffer => " 65537"
      | .workloads => "web"
      | _ => none
    let nameless : Variable → Option String
      | .workloads => "web=1, =2 ,db"
      | _ => none
    let told : Settings := ⟨250, 8, ⟨"/"⟩, ⟨"/sys/fs/cgroup"⟩, [(web, 1), (db, 2), (web, 1)]⟩
    let tooLarge : Fault := ⟨.buffer, " 65537", .aboveLargestBuffer⟩
    let noName : Fault := ⟨.workloads, "=2", .badId ⟨""⟩⟩
    let order : List Variable := [.interval, .buffer, .workloads]
    (read good = .ok told ∧ Valid good ∧ Told good told) ∧
    (read large = .error tooLarge ∧ FailsFirst (fun _ => Refuses large) order tooLarge) ∧
    read nameless = .error noName ∧ FailsFirst (fun _ => Refuses nameless) order noName := by
  intro web db good large nameless told tooLarge noName order
  have hgood : read good = .ok told := by decide +kernel
  have hlarge : read large = .error tooLarge := by decide +kernel
  have hnameless : read nameless = .error noName := by decide +kernel
  obtain ⟨hvalid, -, htold, -⟩ := valid_or_first_fault good
  obtain ⟨-, hfaults, -⟩ := valid_or_first_fault large
  obtain ⟨-, hfaults', -⟩ := valid_or_first_fault nameless
  exact ⟨⟨hgood, hvalid.1 ⟨_, hgood⟩, (htold _).1 hgood⟩, ⟨hlarge, (hfaults _).1 hlarge⟩,
    hnameless, (hfaults' _).1 hnameless⟩

end Workmeter.Settings
