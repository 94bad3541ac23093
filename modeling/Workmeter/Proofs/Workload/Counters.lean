/-
  Workmeter — what the counters of a workload are, and which failure is told instead.

  * `Told`, `Unread`: what a stat file tells, and why it tells nothing
    (`readStat_eq_ok_iff`, `readStat_eq_error_iff`);
  * `Counters`, `Fails`: the counters in a directory, and the stat files that fail, the first
    of which is told (`readStats_eq_ok_iff`, `readStats_eq_error_iff`);
  * `statsAmid_eq_ok_iff`, `statsAmid_eq_error_iff`: the same while the files change;
  * `counters_or_first_failure`: all of it, for any history of a roster.
-/
import Workmeter.Proofs.FirstFailure
import Workmeter.Proofs.Workload.Roster

namespace Workmeter.Roster

variable {α : Type} {r : Roster} {files : Files} {id : WorkloadId} {directory path : Path}
  {name : String} {read : List Text.Line → Except StatFault α} {a : Option α}
  {fault : WorkloadFault} {s : WorkloadStats}

/-! ## One stat file -/

/-- What a stat file tells: nothing if it does not exist, and otherwise what its lines tell. -/
inductive Told (files : Files) (path : Path) (read : List Text.Line → Except StatFault α) :
    Option α → Prop where
  | missing : files.opened path = .error .notFound → Told files path read none
  | value {bytes : List UInt8} {a : α} : files.opened path = .ok (.ok bytes) →
      read (Text.linesOf bytes) = .ok a → Told files path read (some a)

/-- Why a stat file tells nothing, although it exists. -/
inductive Unread (files : Files) (path : Path) (read : List Text.Line → Except StatFault α) :
    WorkloadFault → Prop where
  | opening {cause : ReadFault} : files.opened path = .error cause → cause ≠ .notFound →
      Unread files path read (.opening ⟨path, cause⟩)
  | reading {cause : ReadFault} : files.opened path = .ok (.error cause) →
      Unread files path read (.badStats path (.reading cause))
  | lines {bytes : List UInt8} {fault : StatFault} : files.opened path = .ok (.ok bytes) →
      read (Text.linesOf bytes) = .error fault → Unread files path read (.badStats path fault)

theorem Told.eq_none_iff (h : Told files path read a) :
    a = none ↔ files.opened path = .error .notFound := by
  cases h with
  | missing hopened => simp [hopened]
  | value hopened => simp [hopened]

/-- The reader tells that a file cannot be read. -/
def ReportsReading (read : List Text.Line → Except StatFault α) : Prop :=
  ∀ cause, read [.error cause] = .error (.reading cause)

theorem reportsReading_cpu : ReportsReading CpuStat.read := fun _ => rfl

theorem reportsReading_memory : ReportsReading MemoryUsage.read := fun _ => rfl

theorem reportsReading_limit : ReportsReading MemoryLimit.read := fun _ => rfl

theorem Told.readStat_eq (h : Told files (directory.join name) read a) :
    readStat files directory name read = .ok a := by
  cases h with
  | missing hopened => simp only [readStat, Files.openOptional, Files.openFile, hopened]; rfl
  | value hopened hlines =>
    simp only [readStat, Files.openOptional, Files.openFile, hopened, Content.lines, hlines]

theorem Unread.readStat_eq (hread : ReportsReading read)
    (h : Unread files (directory.join name) read fault) :
    readStat files directory name read = .error fault := by
  cases h with
  | @opening cause hopened hne =>
    have hfound : OpenFault.isNotFound ⟨directory.join name, cause⟩ = false := by
      cases cause with
      | notFound => exact absurd rfl hne
      | _ => rfl
    simp only [readStat, Files.openOptional, Files.openFile, hopened, hfound]
    rfl
  | reading hopened =>
    simp only [readStat, Files.openOptional, Files.openFile, hopened, Content.lines, hread _]
  | lines hopened hlines =>
    simp only [readStat, Files.openOptional, Files.openFile, hopened, Content.lines, hlines]

/-- A stat file tells something, or there is a reason why not. -/
theorem told_or_unread (files : Files) (path : Path)
    (read : List Text.Line → Except StatFault α) :
    (∃ a, Told files path read a) ∨ ∃ fault, Unread files path read fault := by
  cases hopened : files.opened path with
  | error cause =>
    by_cases hcause : cause = .notFound
    · exact .inl ⟨none, .missing (hcause ▸ hopened)⟩
    · exact .inr ⟨_, .opening hopened hcause⟩
  | ok content =>
    cases content with
    | error cause => exact .inr ⟨_, .reading hopened⟩
    | ok bytes =>
      cases hlines : read (Text.linesOf bytes) with
      | error fault => exact .inr ⟨_, .lines hopened hlines⟩
      | ok a => exact .inl ⟨_, .value hopened hlines⟩

theorem readStat_eq_ok_iff (hread : ReportsReading read) :
    readStat files directory name read = .ok a ↔ Told files (directory.join name) read a := by
  refine ⟨fun h => ?_, Told.readStat_eq⟩
  obtain ⟨a', htold⟩ | ⟨fault, hunread⟩ := told_or_unread files (directory.join name) read
  · rw [htold.readStat_eq] at h; cases h
    exact htold
  · rw [hunread.readStat_eq hread] at h; cases h

theorem readStat_eq_error_iff (hread : ReportsReading read) :
    readStat files directory name read = .error fault ↔
      Unread files (directory.join name) read fault := by
  refine ⟨fun h => ?_, Unread.readStat_eq hread⟩
  obtain ⟨a', htold⟩ | ⟨fault', hunread⟩ := told_or_unread files (directory.join name) read
  · rw [htold.readStat_eq] at h; cases h
  · rw [hunread.readStat_eq hread] at h; cases h
    exact hunread

/-! ## The directory of a control group -/

/-- The counters in a directory: each is that of its own file, and is left out if this file does
    not exist. -/
structure Counters (files : Files) (directory : Path) (s : WorkloadStats) : Prop where
  cpu : Told files (directory.join "cpu.stat") CpuStat.read s.cpu
  memory : Told files (directory.join "memory.current") MemoryUsage.read s.memory
  limit : Told files (directory.join "memory.max") MemoryLimit.read s.limit

/-- The stat files of a control group. -/
inductive StatFile where
  | cpu
  | memory
  | limit

/-- The stat files of a directory that fail, and how. -/
inductive Fails (files : Files) (directory : Path) : StatFile → WorkloadFault → Prop where
  | cpu {fault : WorkloadFault} : Unread files (directory.join "cpu.stat") CpuStat.read fault →
      Fails files directory .cpu fault
  | memory {fault : WorkloadFault} :
      Unread files (directory.join "memory.current") MemoryUsage.read fault →
      Fails files directory .memory fault
  | limit {fault : WorkloadFault} :
      Unread files (directory.join "memory.max") MemoryLimit.read fault →
      Fails files directory .limit fault

/-- Of the stat files in their order, the first that fails does so. -/
def FirstFails (files : Files) (directory : Path) (fault : WorkloadFault) : Prop :=
  FailsFirst (fun _ => Fails files directory) [.cpu, .memory, .limit] fault

theorem fails_cpu_iff :
    Fails files directory .cpu fault ↔
      readStat files directory cpuFile CpuStat.read = .error fault := by
  rw [readStat_eq_error_iff reportsReading_cpu]
  exact ⟨fun | .cpu h => h, .cpu⟩

theorem fails_memory_iff :
    Fails files directory .memory fault ↔
      readStat files directory memoryFile MemoryUsage.read = .error fault := by
  rw [readStat_eq_error_iff reportsReading_memory]
  exact ⟨fun | .memory h => h, .memory⟩

theorem fails_limit_iff :
    Fails files directory .limit fault ↔
      readStat files directory limitFile MemoryLimit.read = .error fault := by
  rw [readStat_eq_error_iff reportsReading_limit]
  exact ⟨fun | .limit h => h, .limit⟩

theorem readStats_eq_error_iff :
    readStats files directory = .error fault ↔ FirstFails files directory fault := by
  simp only [FirstFails, failsFirst_cons_iff, not_failsFirst_nil, and_false, or_false,
    fails_cpu_iff, fails_memory_iff, fails_limit_iff, forall_ne_error_iff, readStats,
    bind_eq_error_iff, pure, Except.pure, reduceCtorEq, exists_const, exists_and_right]

theorem readStats_eq_ok_iff : readStats files directory = .ok s ↔ Counters files directory s := by
  simp only [readStats, bind_eq_ok_iff, readStat_eq_ok_iff reportsReading_cpu,
    readStat_eq_ok_iff reportsReading_memory, readStat_eq_ok_iff reportsReading_limit, pure,
    Except.pure, Except.ok.injEq]
  constructor
  · rintro ⟨cpu, hcpu, memory, hmemory, limit, hlimit, rfl⟩
    exact ⟨hcpu, hmemory, hlimit⟩
  · rintro ⟨hcpu, hmemory, hlimit⟩
    exact ⟨_, hcpu, _, hmemory, _, hlimit, rfl⟩

theorem Unread.fault_cases (h : Unread files path read fault) :
    (∃ cause, fault = .opening ⟨path, cause⟩) ∨ ∃ cause, fault = .badStats path cause := by
  cases h with
  | opening => exact .inl ⟨_, rfl⟩
  | reading | lines => exact .inr ⟨_, rfl⟩

/-- A stat file that fails is never told as a workload that is unknown or does not run. -/
theorem FirstFails.ne (h : FirstFails files directory fault) (id : WorkloadId) :
    fault ≠ .unknown id ∧ fault ≠ .notRunning id := by
  obtain ⟨-, name, -, -, -, hfails⟩ := h
  have hcases : ∃ path, (∃ cause, fault = .opening ⟨path, cause⟩) ∨
      ∃ cause, fault = .badStats path cause := by
    cases hfails with
    | cpu h | memory h | limit h => exact ⟨_, h.fault_cases⟩
  obtain ⟨path, ⟨cause, rfl⟩ | ⟨cause, rfl⟩⟩ := hcases <;> exact ⟨nofun, nofun⟩

/-! ## A workload -/

section
variable {before during after : Files} {m : Monitored}

/-- **While the files change**, the counters are those found behind a look at the directory. -/
theorem statsAmid_eq_ok_iff (hm : r.find? id = some m) :
    r.statsAmid before during after id = .ok s ↔
      before.isDirectory m.directory = true ∧ Counters during m.directory s := by
  simp only [← readStats_eq_ok_iff, statsAmid, hm]
  cases before.isDirectory m.directory with
  | false => simp
  | true =>
    cases readStats during m.directory with
    | ok s => simp
    | error fault => cases after.isDirectory m.directory <;> simp

/-- A failure is told if the directory is there before and behind it; if it is gone, the
    workload does not run. -/
theorem statsAmid_eq_error_iff (hm : r.find? id = some m) :
    r.statsAmid before during after id = .error fault ↔
      (before.isDirectory m.directory = true ∧ after.isDirectory m.directory = true ∧
        FirstFails during m.directory fault) ∨
      (fault = .notRunning id ∧ (before.isDirectory m.directory = false ∨
        after.isDirectory m.directory = false ∧ ∃ cause, FirstFails during m.directory cause)) := by
  -- the second look at the directory matters only behind a failure
  simp only [← readStats_eq_error_iff, statsAmid, hm]
  cases before.isDirectory m.directory with
  | false => simpa using eq_comm
  | true =>
    cases readStats during m.directory with
    | ok s => simp
    | error cause =>
      cases after.isDirectory m.directory with
      | false => simpa using eq_comm
      | true => simp

/-- Files that do not change are the same at all moments. -/
theorem statsAmid_same (r : Roster) (files : Files) (id : WorkloadId) :
    r.statsAmid files files files id = r.stats files id := by
  rw [statsAmid, stats]
  cases r.find? id with
  | none => rfl
  | some m =>
    simp only
    cases files.isDirectory m.directory with
    | false => rfl
    | true => cases readStats files m.directory <;> rfl

theorem stats_eq_ok_iff (hm : r.find? id = some m) :
    r.stats files id = .ok s ↔
      files.isDirectory m.directory = true ∧ Counters files m.directory s := by
  rw [← statsAmid_same]
  exact statsAmid_eq_ok_iff hm

theorem stats_eq_error_iff (hm : r.find? id = some m) :
    r.stats files id = .error fault ↔
      (files.isDirectory m.directory = true ∧ FirstFails files m.directory fault) ∨
        fault = .notRunning id ∧ files.isDirectory m.directory = false := by
  rw [← statsAmid_same, statsAmid_eq_error_iff hm]
  cases files.isDirectory m.directory <;> simp

theorem stats_eq_unknown_iff : r.stats files id = .error (.unknown id) ↔ r.find? id = none := by
  cases hfind : r.find? id with
  | none => simp [stats, hfind]
  | some m =>
    simp only [stats_eq_error_iff hfind, reduceCtorEq, false_and, or_false, iff_false]
    rintro ⟨-, hfirst⟩
    exact (hfirst.ne id).1 rfl

theorem stats_eq_notRunning_iff (hm : r.find? id = some m) :
    r.stats files id = .error (.notRunning id) ↔ files.isDirectory m.directory = false := by
  rw [stats_eq_error_iff hm]
  constructor
  · rintro (⟨-, hfirst⟩ | ⟨-, hgone⟩)
    · exact absurd rfl (hfirst.ne id).2
    · exact hgone
  · exact fun hgone => .inr ⟨rfl, hgone⟩

end

/-- **The counters of a workload, or the first failure** of the three files in their order, also
    while the files change. -/
theorem counters_or_first_failure (rootfs cgroupRoot : Path) (actions : List Action)
    (files : Files) (id : WorkloadId) :
    let host : Roster := { rootfs, cgroupRoot }
    let roster := host.play actions
    (roster.stats files id = .error (.unknown id) ↔ ∀ m, ¬ LastRegistration host id actions m) ∧
    (∀ m, LastRegistration host id actions m →
      let directory := m.directory
      (roster.stats files id = .error (.notRunning id) ↔ files.isDirectory directory = false) ∧
      (files.isDirectory directory = true →
        (∀ fault, roster.stats files id = .error fault ↔ FirstFails files directory fault) ∧
        (∀ s, roster.stats files id = .ok s ↔ Counters files directory s) ∧
        ∀ s, roster.stats files id = .ok s →
          (s.cpu = none ↔ files.opened (directory.join "cpu.stat") = .error .notFound) ∧
          (s.memory = none ↔ files.opened (directory.join "memory.current") = .error .notFound) ∧
          (s.limit = none ↔ files.opened (directory.join "memory.max") = .error .notFound)) ∧
      ∀ before during after, before.isDirectory directory = true →
        (∀ s, roster.statsAmid before during after id = .ok s ↔ Counters during directory s) ∧
        (after.isDirectory directory = true → ∀ fault,
          roster.statsAmid before during after id = .error fault ↔
            FirstFails during directory fault) ∧
        (after.isDirectory directory = false → ∀ fault,
          roster.statsAmid before during after id = .error fault ↔
            fault = .notRunning id ∧ ∃ cause, FirstFails during directory cause)) ∧
    roster.statsAmid files files files id = roster.stats files id := by
  intro host roster
  have hfind : ∀ m, roster.find? id = some m ↔ LastRegistration host id actions m :=
    fun m => find?_play_iff rfl
  refine ⟨?_, fun m hlast => ?_, statsAmid_same roster files id⟩
  · rw [stats_eq_unknown_iff, Option.eq_none_iff_forall_ne_some]
    simp only [ne_eq, hfind]
  · have hm := (hfind m).2 hlast
    refine ⟨stats_eq_notRunning_iff hm, fun hthere => ?_, fun before during after hthere => ?_⟩
    · have hok : ∀ s, roster.stats files id = .ok s ↔ Counters files m.directory s := fun s => by
        rw [stats_eq_ok_iff hm, and_iff_right hthere]
      refine ⟨fun fault => ?_, hok, fun s hs => ?_⟩
      · rw [stats_eq_error_iff hm, hthere]
        simp
      · obtain ⟨hcpu, hmemory, hlimit⟩ := (hok s).1 hs
        exact ⟨hcpu.eq_none_iff, hmemory.eq_none_iff, hlimit.eq_none_iff⟩
    · refine ⟨fun s => ?_, fun hstill fault => ?_, fun hgone fault => ?_⟩
      · rw [statsAmid_eq_ok_iff hm, and_iff_right hthere]
      · rw [statsAmid_eq_error_iff hm, hthere, hstill]
        simp
      · rw [statsAmid_eq_error_iff hm, hthere, hgone]
        simp

/-- Of a bad `memory.current` and a `memory.max` that cannot be opened the first is told, but not
    if the directory is gone behind it; `db` has no directory, and `cache` was removed. -/
theorem counters_or_first_failure_of_two_bad_files :
    let web : WorkloadId := ⟨"web", by decide, by decide⟩
    let db : WorkloadId := ⟨"db", by decide, by decide⟩
    let cache : WorkloadId := ⟨"cache", by decide, by decide⟩
    let actions : List Action := [.enter web ⟨7, ⟨"/groups/web"⟩⟩,
      .enter cache ⟨9, ⟨"/groups/web"⟩⟩, .enter db ⟨8, ⟨"/groups/db"⟩⟩, .remove cache]
    let files := Files.ofAnswers
      [(⟨"/groups/web"⟩, .ok (.error .isDirectory)),
        (⟨"/groups/web/memory.current"⟩, .ok (.ok [120, 10])),  -- `x`
        (⟨"/groups/web/memory.max"⟩, .error (.other "Permission denied (os error 13)"))]
    let host : Roster := { rootfs := ⟨"/"⟩, cgroupRoot := ⟨"/groups"⟩ }
    let roster := host.play actions
    let fault : WorkloadFault :=
      .badStats ⟨"/groups/web/memory.current"⟩ (.badValue "x" .invalidDigit)
    (roster.stats files web = .error fault ∧ FirstFails files ⟨"/groups/web"⟩ fault) ∧
      roster.statsAmid files files (.ofAnswers []) web = .error (.notRunning web) ∧
      roster.stats files db = .error (.notRunning db) ∧
      ∀ m, ¬ LastRegistration host cache actions m := by
  intro web db cache actions files host roster fault
  have hlast : LastRegistration host web actions ⟨7, ⟨"/groups/web"⟩⟩ :=
    (find?_play_iff rfl).1 (by decide +kernel)
  have hlast' : LastRegistration host db actions ⟨8, ⟨"/groups/db"⟩⟩ :=
    (find?_play_iff rfl).1 (by decide +kernel)
  obtain ⟨-, hweb, -⟩ := counters_or_first_failure ⟨"/"⟩ ⟨"/groups"⟩ actions files web
  obtain ⟨-, hdb, -⟩ := counters_or_first_failure ⟨"/"⟩ ⟨"/groups"⟩ actions files db
  obtain ⟨hcache, -⟩ := counters_or_first_failure ⟨"/"⟩ ⟨"/groups"⟩ actions files cache
  have hthere : files.isDirectory ⟨"/groups/web"⟩ = true := by decide +kernel
  obtain ⟨-, hfaults, hamid⟩ := hweb _ hlast
  have hfault : roster.stats files web = .error fault := by decide +kernel
  have hfirst : FirstFails files ⟨"/groups/web"⟩ fault := ((hfaults hthere).1 fault).1 hfault
  obtain ⟨-, -, hgone⟩ := hamid files files (.ofAnswers []) hthere
  exact ⟨⟨hfault, hfirst⟩, (hgone (by decide +kernel) _).2 ⟨rfl, fault, hfirst⟩,
    (hdb _ hlast').1.2 (by decide +kernel), hcache.1 (by decide +kernel)⟩

end Workmeter.Roster
