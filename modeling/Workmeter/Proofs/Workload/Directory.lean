/-
  Workmeter — where the directory of a registered workload lies.

  * `stats_congr`: the counters of a workload are read below its directory;
  * `isAbsolute_iff_of_lessSeparator`: the paths that leave the control groups;
  * `directory_below_root`: the directory of any registration;
  * `not_below_root_of_two_separators`: an entry whose directory lies elsewhere.
-/
import Workmeter.Proofs.Files.Below
import Workmeter.Proofs.Workload.Registration

namespace Workmeter.Roster

variable {r : Roster} {files files' : Files} {id : WorkloadId} {pid : UInt32} {m : Monitored}
  {root directory : Path} {text rest : String}

/-! ## What is read of a workload -/

theorem readStat_congr {α : Type} {name : String} {read : List Text.Line → Except StatFault α}
    (h : Files.AgreeBelow directory files files') (hname : Path.isAbsolute name = false) :
    readStat files' directory name read = readStat files directory name read := by
  have hopened := (h _ (Path.below_join hname)).2
  simp only [readStat, Files.openOptional, Files.openFile, hopened]

theorem readStats_congr (h : Files.AgreeBelow directory files files') :
    readStats files' directory = readStats files directory := by
  rw [readStats, readStats, readStat_congr h (by decide), readStat_congr h (by decide),
    readStat_congr h (by decide)]

/-- **The counters of a workload** are read at its directory and below, and nowhere else. -/
theorem stats_congr (hm : r.find? id = some m) (hdirectory : root.Below m.directory)
    (h : Files.AgreeBelow root files files') : r.stats files' id = r.stats files id := by
  simp only [stats, hm, (h _ hdirectory).1, readStats_congr (h.mono hdirectory)]

/-! ## The directory of an entry -/

theorem two_separators (more : String) : "//" ++ more = "/" ++ ("/" ++ more) := by
  rw [← String.append_assoc]
  rfl

/-- Of the paths less one separator, those are absolute that begin with two. -/
theorem isAbsolute_iff_of_lessSeparator (h : LessSeparator text rest) :
    Path.isAbsolute rest ↔ ∃ more, text = "//" ++ more := by
  rw [Path.isAbsolute_iff]
  obtain rfl | ⟨rfl, hnone⟩ := h
  · simp only [two_separators, String.append_right_inj]
  · constructor
    · rintro ⟨more, he⟩; exact absurd he (hnone more)
    · rintro ⟨more, he⟩; exact absurd (he.trans (two_separators more)) (hnone _)

theorem eq_of_lessSeparator_two {more : String} (h : LessSeparator ("//" ++ more) rest) :
    rest = "/" ++ more := by
  rw [← withoutSeparator_eq_iff, two_separators, withoutSeparator_append] at h
  exact h.symm

theorem exists_opened_of_resolve (h : r.resolve files pid = .ok directory) :
    ∃ content, files.opened (r.cgroupFile pid) = .ok content := by
  cases hopened : files.opened (r.cgroupFile pid) with
  | error cause => simp [resolve, Files.openFile, hopened] at h
  | ok content => exact ⟨content, rfl⟩

/-- **The directory of a registered workload** lies below the root of the control groups, with all
    that is asked for its counters, unless its path begins with two separators. -/
theorem directory_below_root (r : Roster) (files : Files) (id : WorkloadId) (pid : UInt32)
    (hregistered : (r.register files id pid).result = .ok ()) :
    let after := (r.register files id pid).roster
    ∃ content entry directory, files.opened (r.cgroupFile pid) = .ok content ∧
      Finds (r.cgroupFile pid) content.lines (.ok entry) ∧
      after.find? id = some ⟨pid, directory⟩ ∧
      ((∀ more, entry.path ≠ "//" ++ more) →
        (∃ rest, LessSeparator entry.path rest ∧
          directory.text =
            r.cgroupRoot.text ++ (if r.cgroupRoot.needsSeparator then "/" else "") ++ rest) ∧
        r.cgroupRoot.Below directory ∧
        ∀ files files', Files.AgreeBelow r.cgroupRoot files files' →
          after.stats files' id = after.stats files id) ∧
      ∀ more, entry.path = "//" ++ more → directory = ⟨"/" ++ more⟩ := by
  intro after
  obtain ⟨directory, hresolve⟩ := register_eq_ok_iff.1 hregistered
  obtain ⟨content, hopened⟩ := exists_opened_of_resolve hresolve
  obtain ⟨entry, rest, hfinds, hless, rfl⟩ := (resolve_eq_ok_iff hopened).1 hresolve
  have hafter : after = r.enter id ⟨pid, r.cgroupRoot.join rest⟩ := roster_of_ok hresolve
  rw [hafter]
  have hfind := (find?_enter r id id ⟨pid, r.cgroupRoot.join rest⟩).trans (if_pos rfl)
  refine ⟨content, entry, _, hopened, hfinds, hfind, fun hone => ?_, fun more htwo => ?_⟩
  · have hrelative : Path.isAbsolute rest = false := by
      rw [Bool.eq_false_iff, ne_eq, isAbsolute_iff_of_lessSeparator hless]
      exact fun ⟨more, he⟩ => hone more he
    have hbelow : r.cgroupRoot.Below (r.cgroupRoot.join rest) := Path.below_join hrelative
    exact ⟨⟨rest, hless, Path.join_of_relative hrelative⟩, hbelow,
      fun files files' hagree => stats_congr hfind hbelow hagree⟩
  · have habsolute := (isAbsolute_iff_of_lessSeparator hless).2 ⟨more, htwo⟩
    rw [htwo] at hless
    rw [Path.join_of_absolute habsolute, eq_of_lessSeparator_two hless]

/-- The entry `0::/web` names a directory below the control groups. -/
theorem directory_below_root_of_web :
    let web : WorkloadId := ⟨"web", by decide, by decide⟩
    let host : Roster := { rootfs := ⟨"/"⟩, cgroupRoot := ⟨"/groups"⟩ }
    let bytes : List UInt8 := [48, 58, 58, 47, 119, 101, 98, 10]  -- `0::/web`
    let files := Files.ofAnswers [(host.cgroupFile 7, .ok (.ok bytes))]
    let after := (host.register files web 7).roster
    (host.register files web 7).result = .ok () ∧
      after.find? web = some ⟨7, ⟨"/groups/web"⟩⟩ ∧ host.cgroupRoot.Below ⟨"/groups/web"⟩ ∧
      ∀ files files', Files.AgreeBelow host.cgroupRoot files files' →
        after.stats files' web = after.stats files web := by
  intro web host bytes files after
  have hresolve : host.resolve files 7 = .ok ⟨"/groups/web"⟩ := by decide +kernel
  have hregistered : (host.register files web 7).result = .ok () :=
    register_eq_ok_iff.2 ⟨_, hresolve⟩
  obtain ⟨content, entry, directory, hopened, hfinds, hfind, hone, -⟩ :=
    directory_below_root host files web 7 hregistered
  have hcontent : content = .ok bytes := Except.ok.inj (hopened.symm.trans (by decide +kernel))
  have hentry : entry = ⟨0, [], "/web"⟩ := by
    rw [hcontent] at hfinds
    exact Except.ok.inj (hfinds.firstUnified_eq.symm.trans (by decide +kernel))
  have hdirectory : directory = ⟨"/groups/web"⟩ := by
    rw [roster_of_ok hresolve, find?_enter, if_pos rfl] at hfind
    cases hfind
    rfl
  obtain ⟨-, hbelow, hstats⟩ := hone fun more htwo => by
    have htext := congrArg String.toList htwo
    simp [hentry] at htext
  exact ⟨hregistered, hdirectory ▸ hfind, hdirectory ▸ hbelow, hstats⟩

/-- The entry `0:://x` names the directory `/x` outside the control groups, and the counters are
    read there. -/
theorem not_below_root_of_two_separators :
    let web : WorkloadId := ⟨"web", by decide, by decide⟩
    let host : Roster := { rootfs := ⟨"/"⟩, cgroupRoot := ⟨"/groups"⟩ }
    let bytes : List UInt8 := [48, 58, 58, 47, 47, 120, 10]  -- `0:://x`
    let files := Files.ofAnswers [(⟨"/proc/7/cgroup"⟩, .ok (.ok bytes)),
      (⟨"/x"⟩, .ok (.error .isDirectory)), (⟨"/x/memory.current"⟩, .ok (.ok [53, 10]))]
    let after := (host.register files web 7).roster
    (host.register files web 7).result = .ok () ∧ after.find? web = some ⟨7, ⟨"/x"⟩⟩ ∧
      ¬ host.cgroupRoot.Below ⟨"/x"⟩ ∧
      Files.AgreeBelow host.cgroupRoot files (Files.ofAnswers []) ∧
      after.stats files web = .ok { memory := some ⟨5⟩ } ∧
      after.stats (Files.ofAnswers []) web = .error (.notRunning web) := by
  intro web host bytes files after
  have hresolve : host.resolve files 7 = .ok ⟨"/x"⟩ := by decide +kernel
  have hprefix : ∀ path : Path, path ∈ [⟨"/proc/7/cgroup"⟩, ⟨"/x"⟩, ⟨"/x/memory.current"⟩] →
      ¬ host.cgroupRoot.text.toList <+: path.text.toList := by decide +kernel
  have hnot : ∀ path ∈ [⟨"/proc/7/cgroup"⟩, ⟨"/x"⟩, ⟨"/x/memory.current"⟩],
      ¬ host.cgroupRoot.Below path := fun path hpath hbelow => hprefix path hpath hbelow.isPrefix
  exact ⟨register_eq_ok_iff.2 ⟨_, hresolve⟩, by decide +kernel, hnot _ (by decide),
    Files.agreeBelow_ofAnswers fun e he => hnot e.1 (List.mem_map_of_mem he), by decide +kernel,
    by decide +kernel⟩

end Workmeter.Roster
