/-
  Workmeter — what the program prints.

  * `exists_started_of_running`, `run_of_steps`: a program that goes on has found all its
    workloads, and plays its steps with them;
  * `interfacesOf`, `HasStats`: what the files tell of a process and of a control group;
  * `published_of_hasStats`, `published_of_not_hasStats`: the sample of a workload, or none;
  * `filter_published`, `find?_of_last_entry`: a workload that has several entries;
  * `PrintsEntries`, `prints_each_entry_once`: the lines of each workload, in every round;
  * `printed_once_of_early_round`: a round that does not wait for the printers.
-/
import Workmeter.Proofs.Monitor.Printers
import Workmeter.Proofs.Monitor.Start
import Workmeter.Proofs.Sample.Text

namespace Workmeter.Monitor

variable {m : Monitor} {files : Files} {id : WorkloadId} {hz : Nat}

/-! ## The start -/

section
variable {lookup : Settings.Variable → Option String} {settings : Settings} {steps : List Step}

/-- A program that goes on has entries, each workload of which was found. -/
theorem exists_started_of_running (h : (run hz lookup files steps).ending = .running) :
    ∃ settings, Settings.read lookup = .ok settings ∧ settings.workloads ≠ [] ∧
      ∀ v ∈ settings.workloads, ∃ d, settings.host.resolve files v.2 = .ok d := by
  cases hs : Settings.read lookup with
  | error cause => rw [run_of_settings_fault hs] at h; cases h
  | ok settings =>
    obtain hok | ⟨before, w, after, fault, he, hok, hfail⟩ :=
      exists_first_failure settings.host files settings.workloads
    · refine ⟨settings, rfl, fun hn => ?_, hok⟩
      rw [run_of_empty hs hn] at h
      cases h
    · rw [(run_of_first_failure hs he hok hfail).1] at h; cases h

/-- **A program that goes on** plays its steps. -/
theorem run_of_steps (hz : Nat) (hs : Settings.read lookup = .ok settings)
    (hn : settings.workloads ≠ [])
    (hok : ∀ v ∈ settings.workloads, ∃ d, settings.host.resolve files v.2 = .ok d)
    (steps : List Step) :
    let played := (started hz files settings).play files steps
    (run hz lookup files steps).printed = played.1.map (·.printed) ∧
      (run hz lookup files steps).subscribed = played.2.joined := by
  obtain ⟨events, hprepare⟩ := exists_prepare_eq hz hs hok
  have hunfinished : (started hz files settings).isFinished = false := by
    simp [started, isFinished, hn]
  simp only [run, hprepare, hunfinished, Bool.false_eq_true, if_false, joined, and_self]

theorem ready_started (hz : Nat) (files : Files) (settings : Settings) :
    Ready (settings.workloads.map (·.1)) (started hz files settings).hub
      (started hz files settings).printers where
  served :=
    { coherent := Hub.coherent_empty settings.buffer
      regular := Hub.regular_empty settings.buffer
      entries := rfl
      distinct := List.nodup_nil
      lasts := nofun }
  nothing := nofun

end

/-! ## The samples of a workload -/

/-- The interfaces of a process; none of them if its table cannot be read. -/
def interfacesOf (files : Files) (process : Path) : List Interface :=
  if files.isDirectory process then
    match files.opened (interfaceTable process) with
    | .ok content => ((Interfaces.read content.lines).toOption.getD []).map Interface.ofRow
    | .error _ => []
  else []

/-- The directory can be read as that of a control group with these counters. -/
def HasStats (files : Files) (directory : Path) (stats : WorkloadStats) : Prop :=
  files.isDirectory directory ∧ Roster.readStats files directory = .ok stats

theorem interfaces_hostNetwork (files : Files) (rootfs : Path) (pid : UInt32) :
    ((hostNetwork files rootfs).interfaces ⟨toString pid.toNat⟩).toOption.getD [] =
      interfacesOf files (processDirectory rootfs pid) := by
  rw [Network.interfaces, Roster.sandbox_toString, interfacesOf]
  by_cases hd : files.isDirectory (processDirectory rootfs pid)
  · rw [if_pos hd, if_pos hd]
    simp only [processSandbox, Files.openFile]
    cases files.opened (interfaceTable (processDirectory rootfs pid)) with
    | error cause => rfl
    | ok content =>
      simp only
      cases Interfaces.read content.lines <;> rfl
  · rw [if_neg hd, if_neg hd]
    rfl

section
variable {roster : Roster} {pid : UInt32} {directory : Path} {usage : UInt64} {c : Course}

/-- The interfaces that go with the sample of a workload, in any order. -/
theorem exists_interfaces?_told (files : Files) (hz : Nat) (c : Course)
    (hfind : roster.find? id = some ⟨pid, directory⟩) :
    ∃ interfaces, (c.told (hostAnswers files roster hz) id).interfaces? = some interfaces ∧
      interfaces.Perm (interfacesOf files (processDirectory roster.rootfs pid)) := by
  have hsandbox : roster.sandbox id = some ⟨toString pid.toNat⟩ := by
    rw [Roster.sandbox, hfind]; rfl
  rw [← interfaces_hostNetwork, Told.interfaces?, Course.told]
  simp only [hostAnswers, hsandbox, Option.map_some]
  cases (hostNetwork files roster.rootfs).interfaces ⟨toString pid.toNat⟩ with
  | ok interfaces => exact ⟨_, rfl, c.perm id interfaces⟩
  | error cause => exact ⟨[], rfl, .rfl⟩

theorem stats_of_find? (hfind : roster.find? id = some ⟨pid, directory⟩) {stats : WorkloadStats} :
    roster.stats files id = .ok stats ↔ HasStats files directory stats := by
  rw [Roster.stats, hfind, HasStats]
  by_cases hd : files.isDirectory directory <;> simp [hd]

variable {stats : WorkloadStats}

theorem published_of_hasStats (c : Course) (hfind : roster.find? id = some ⟨pid, directory⟩)
    (hu : hostUsage files (hostCpuFile roster.rootfs) hz = .ok usage)
    (hstats : HasStats files directory stats) :
    ∃ interfaces, interfaces.Perm (interfacesOf files (processDirectory roster.rootfs pid)) ∧
      c.published (hostAnswers files roster hz) id = [⟨id, stats, usage, interfaces⟩] := by
  obtain ⟨interfaces, hinterfaces, hperm⟩ := exists_interfaces?_told files hz c hfind
  have hasked : (c.told (hostAnswers files roster hz) id).stats = .value stats :=
    congrArg Outcome.ofExcept ((stats_of_find? hfind).2 hstats)
  have hhost : (hostAnswers files roster hz).hostUsage = .value usage :=
    congrArg Outcome.ofExcept hu
  refine ⟨interfaces, hperm, ?_⟩
  rw [Course.published, hhost]
  simp only [Told.sample?, hasked, hinterfaces, Option.map_some, Option.toList_some]

theorem published_of_not_hasStats (hfind : roster.find? id = some ⟨pid, directory⟩)
    (hnone : ∀ stats, ¬ HasStats files directory stats) :
    c.published (hostAnswers files roster hz) id = [] := by
  have hasked : ∃ cause, (c.told (hostAnswers files roster hz) id).stats = .failure cause := by
    cases hs : roster.stats files id with
    | ok stats => exact absurd ((stats_of_find? hfind).1 hs) (hnone stats)
    | error cause => exact ⟨cause, congrArg Outcome.ofExcept hs⟩
  obtain ⟨cause, hasked⟩ := hasked
  rw [Course.published]
  split
  · rw [Told.sample?, hasked]; rfl
  · rfl
  · rfl

theorem published_of_host_fault {cause : HostCpu.Fault}
    (hu : hostUsage files (hostCpuFile roster.rootfs) hz = .error cause) (id : WorkloadId) :
    c.published (hostAnswers files roster hz) id = [] := by
  have hhost : (hostAnswers files roster hz).hostUsage = .failure cause :=
    congrArg Outcome.ofExcept hu
  rw [Course.published, hhost]

end

theorem workload_of_mem_published {c : Course} {a : Answers} {x : Sample}
    (hx : x ∈ c.published a id) : x.workload = id := by
  unfold Course.published at hx
  split at hx
  · have hsample := Option.mem_toList.1 hx
    unfold Told.sample? at hsample
    split at hsample
    · obtain ⟨interfaces, -, rfl⟩ := Option.map_eq_some_iff.1 hsample
      rfl
    · cases hsample
    · cases hsample
  · cases hx
  · cases hx

/-- The samples of one workload among all: as often as the workload is listed. -/
theorem filter_published (c : Course) (a : Answers) (ids : List WorkloadId) (id : WorkloadId) :
    (ids.flatMap (c.published a)).filter (·.workload = id) =
      (List.replicate (ids.count id) (c.published a id)).flatten := by
  induction ids with
  | nil => rfl
  | cons other ids ih =>
    rw [List.flatMap_cons, List.filter_append, ih, List.count_cons]
    by_cases ho : other = id
    · subst ho
      have hall : (c.published a other).filter (·.workload = other) = c.published a other :=
        List.filter_eq_self.2 fun x hx => by simpa using workload_of_mem_published hx
      rw [hall, beq_self_eq_true, if_pos rfl, List.replicate_succ, List.flatten_cons]
    · have hnone : (c.published a other).filter (·.workload = id) = [] :=
        List.filter_eq_nil_iff.2 fun x hx => by
          simpa using fun he : x.workload = id => ho ((workload_of_mem_published hx).symm.trans he)
      rw [hnone, List.nil_append, if_neg (by simpa using ho), Nat.add_zero]

/-- A workload is known by its last entry. -/
theorem find?_of_last_entry {host : Roster} (hempty : host.known = [])
    {before after : List (WorkloadId × UInt32)} {pid : UInt32} {directory : Path}
    (hd : host.resolve files pid = .ok directory) (hlast : ∀ entry ∈ after, entry.1 ≠ id) :
    (host.play (registrations files (before ++ (id, pid) :: after))).find? id =
      some ⟨pid, directory⟩ := by
  refine (Roster.find?_play_iff hempty).2
    ⟨registrations files before, .register files id pid, registrations files after, ?_,
      ⟨rfl, rfl, hd⟩, fun a ha => ?_⟩
  · rw [registrations, List.map_append, List.map_cons]; rfl
  · obtain ⟨entry, hentry, rfl⟩ := List.mem_map.1 ha
    exact ⟨fun he => (by cases he), fun n hn => hlast entry hentry hn.1⟩

/-! ## What is printed -/

/-- What is printed in a round that starts when the printers of the workloads `early` have
    subscribed, and ends when those of `late` have: for each workload the same line, for
    each of the former and perhaps for some of the others, or none at all. -/
structure PrintsEntries (hz : Nat) (files : Files) (settings : Settings)
    (early late : List WorkloadId) (samples : List Sample) : Prop where
  /-- Without the usage of the host nothing is printed. -/
  hostFailed : ∀ cause, hostUsage files (hostCpuFile settings.rootfs) hz = .error cause →
    samples = []
  unlisted : ∀ id, (∀ entry ∈ settings.workloads, entry.1 ≠ id) →
    samples.filter (·.workload = id) = []
  /-- The last entry of a workload decides what is printed for each of its entries. -/
  listed : ∀ before id pid after, settings.workloads = before ++ (id, pid) :: after →
    (∀ entry ∈ after, entry.1 ≠ id) →
    ∀ usage, hostUsage files (hostCpuFile settings.rootfs) hz = .ok usage →
    ∃ directory, settings.host.resolve files pid = .ok directory ∧
      (∀ stats, HasStats files directory stats → ∃ count interfaces line,
        early.count id ≤ count ∧ count ≤ late.count id ∧
        interfaces.Perm (interfacesOf files (processDirectory settings.rootfs pid)) ∧
        Sample.Written ⟨id, stats, usage, interfaces⟩ line ∧
        (samples.filter (·.workload = id)).map Sample.line = List.replicate count line) ∧
      ((∀ stats, ¬ HasStats files directory stats) → samples.filter (·.workload = id) = [])

theorem printsEntries_published {settings : Settings} {early told late : List WorkloadId}
    (c : Course) (hok : ∀ v ∈ settings.workloads, ∃ d, settings.host.resolve files v.2 = .ok d)
    (hearly : early.Sublist told) (hlate : told.Sublist late)
    (hall : late.Sublist (settings.workloads.map (·.1))) :
    PrintsEntries hz files settings early late
      (told.flatMap (c.published ((started hz files settings).answers files))) := by
  have hroot : (started hz files settings).roster.rootfs = settings.rootfs :=
    (Roster.host_play settings.host _).1
  have hknown : ∀ {before id pid after directory}, settings.workloads = before ++ (id, pid) :: after →
      (∀ entry ∈ after, entry.1 ≠ id) → settings.host.resolve files pid = .ok directory →
      (started hz files settings).roster.find? id = some ⟨pid, directory⟩ := by
    intro before id pid after directory he hlast hd
    rw [started, he]
    exact find?_of_last_entry rfl hd hlast
  rw [answers, show (started hz files settings).clockTicks = hz from rfl]
  generalize (started hz files settings).roster = roster at hroot hknown
  refine ⟨fun cause hcause => ?_, fun id hid => ?_, fun before id pid after he hlast usage hu => ?_⟩
  · rw [← hroot] at hcause
    exact List.flatMap_eq_nil_iff.2 fun id _ => published_of_host_fault hcause id
  · have hcount : told.count id = 0 := List.count_eq_zero.2 fun hmem => by
      obtain ⟨entry, hentry, he⟩ := List.mem_map.1 ((hlate.trans hall).subset hmem)
      exact hid entry hentry he
    rw [filter_published, hcount]
    rfl
  · obtain ⟨directory, hd⟩ := hok (id, pid) (by rw [he]; simp)
    have hfind := hknown he hlast hd
    rw [← hroot] at hu ⊢
    refine ⟨directory, hd, fun stats hstats => ?_, fun hnone => ?_⟩
    · obtain ⟨interfaces, hperm, hpublished⟩ := published_of_hasStats c hfind hu hstats
      refine ⟨told.count id, interfaces, _, hearly.count_le id, hlate.count_le id, hperm,
        Sample.written_iff.2 rfl, ?_⟩
      rw [filter_published, hpublished, List.flatten_replicate_singleton, List.map_replicate]
    · rw [filter_published, published_of_not_hasStats hfind hnone]
      simp

/-- **What the program prints** in a round: the same line for every printer of a workload that had
    subscribed before it, and so for every entry once all have subscribed. -/
theorem prints_each_entry_once (hz : Nat) (lookup : Settings.Variable → Option String)
    (files : Files) (steps : List Step) (course : Course)
    (hrun : (run hz lookup files steps).ending = .running) :
    let before := run hz lookup files steps
    let after := run hz lookup files (steps ++ [.round course])
    ∃ settings samples, Settings.read lookup = .ok settings ∧
      after.printed = before.printed ++ [samples] ∧
      before.subscribed <+: after.subscribed ∧
      after.subscribed <+: settings.workloads.map (·.1) ∧
      PrintsEntries hz files settings before.subscribed after.subscribed samples ∧
      (run hz lookup files (steps ++ [.subscribe settings.workloads.length])).subscribed =
        settings.workloads.map (·.1) := by
  intro before after
  obtain ⟨settings, hs, hn, hok⟩ := exists_started_of_running hrun
  obtain ⟨hprinted, hjoined⟩ := run_of_steps hz hs hn hok steps
  obtain ⟨hprinted', hjoined'⟩ := run_of_steps hz hs hn hok (steps ++ [.round course])
  obtain ⟨-, hfilled⟩ :=
    run_of_steps hz hs hn hok (steps ++ [.subscribe settings.workloads.length])
  obtain ⟨hready, hanswers⟩ := (ready_started hz files settings).play steps
  rw [play_append] at hprinted' hjoined' hfilled
  generalize (started hz files settings).play files steps = played at *
  obtain ⟨hlater, told, hearly, hlate, hprefix, htold⟩ := hready.tick files course
  have hall : (played.2.tick files course).monitor.joined <+: settings.workloads.map (·.1) :=
    ⟨_, hlater.served.entries⟩
  refine ⟨settings, (played.2.tick files course).printed, hs, ?_, ?_, ?_, ?_, hfilled.trans ?_⟩
  · rw [hprinted', hprinted, List.map_append]
    rfl
  · rw [hjoined, hjoined']
    exact hprefix
  · rw [hjoined']
    exact hall
  · rw [hjoined, hjoined', htold, hanswers]
    exact printsEntries_published course hok hearly.sublist hlate hall.sublist
  · obtain ⟨hfull, -, hrest⟩ := hready.subscribe settings.workloads.length
    have hfew : played.2.printers.waiting.length ≤ settings.workloads.length := by
      have := congrArg List.length hready.served.entries
      rw [List.length_append, List.length_map, List.length_map] at this
      omega
    have hentries := hfull.served.entries
    rwa [hrest, List.drop_of_length_le hfew, List.append_nil] at hentries

/-- `web` is listed twice, and its second process counts; the control group of `db` is gone.  A
    round took place before two of the printers had subscribed. -/
theorem prints_each_entry_once_of_repeated_workload :
    let web : WorkloadId := ⟨"web", by decide, by decide⟩
    let db : WorkloadId := ⟨"db", by decide, by decide⟩
    let lookup : Settings.Variable → Option String :=
      fun v => if v = .workloads then some "web=1, db=2, web=3" else none
    let entry : List UInt8 := [48, 58, 58, 47, 119, 101, 98, 10]  -- `0::/web`
    let other : List UInt8 := [48, 58, 58, 47, 100, 98, 10]  -- `0::/db`
    let cpu : List UInt8 := [99, 112, 117, 32, 49, 32, 50, 32, 51, 32, 52, 32, 53, 32, 54, 32, 55,
      10]  -- `cpu 1 2 3 4 5 6 7`
    let table : List UInt8 := [10, 10, 108, 50, 58, 49, 32, 50, 32, 51, 32, 52, 32, 48, 32, 48, 32,
      48, 32, 48, 32, 53, 32, 54, 32, 55, 32, 56, 32, 48, 32, 48, 32, 48, 32, 48,
      10]  -- `l2:1 2 3 4 0 0 0 0 5 6 7 8 0 0 0 0`
    let files := Files.ofAnswers
      [(⟨"/proc/1/cgroup"⟩, .ok (.ok other)), (⟨"/proc/2/cgroup"⟩, .ok (.ok other)),
        (⟨"/proc/3/cgroup"⟩, .ok (.ok entry)), (⟨"/proc/stat"⟩, .ok (.ok cpu)),
        (⟨"/proc/3"⟩, .ok (.error .isDirectory)), (⟨"/proc/3/net/dev"⟩, .ok (.ok table)),
        (⟨"/sys/fs/cgroup/web"⟩, .ok (.error .isDirectory))]
    let steps : List Step := [.subscribe 1, .round .plain, .subscribe 2]
    (run 100 lookup files steps).ending = .running ∧ ∃ samples,
      (run 100 lookup files (steps ++ [.round .plain])).printed =
        (run 100 lookup files steps).printed ++ [samples] ∧
      (samples.filter (·.workload = web)).map Sample.line = List.replicate 2
        ("\x7b\"workload_id\":\"web\"," ++
          "\"stats\":\x7b\"cpu_stat\":null,\"memory_usage\":null,\"memory_limit\":null\x7d," ++
          "\"system_usage\":280000000,\"interfaces\":[\x7b\"name\":\"l2\"," ++
          "\"rx_bytes\":1,\"rx_packets\":2,\"rx_errors\":3,\"rx_dropped\":4," ++
          "\"tx_bytes\":5,\"tx_packets\":6,\"tx_errors\":7,\"tx_dropped\":8\x7d]\x7d") ∧
      samples.filter (·.workload = db) = [] := by
  intro web db lookup entry other cpu table files steps
  have hrun : (run 100 lookup files steps).ending = .running := by decide +kernel
  obtain ⟨settings, samples, hs, hprinted, -, -, hprints, -⟩ :=
    prints_each_entry_once 100 lookup files steps .plain hrun
  have hread : Settings.read lookup = .ok
      { interval := Settings.defaultInterval, buffer := defaultBuffer, rootfs := ⟨"/"⟩
        cgroupRoot := ⟨"/sys/fs/cgroup"⟩, workloads := [(web, 1), (db, 2), (web, 3)] } := by
    decide +kernel
  obtain rfl := Except.ok.inj (hs.symm.trans hread)
  have hearly : (run 100 lookup files steps).subscribed = [web, db, web] := by decide +kernel
  have hlate : (run 100 lookup files (steps ++ [.round .plain])).subscribed = [web, db, web] := by
    decide +kernel
  rw [hearly, hlate] at hprints
  have husage : hostUsage files (hostCpuFile ⟨"/"⟩) 100 = .ok 280000000 := by decide +kernel
  obtain ⟨directory, hd, hlines, -⟩ :=
    hprints.listed [(web, 1), (db, 2)] web 3 [] rfl nofun 280000000 husage
  obtain ⟨gone, hgone, -, hnothing⟩ :=
    hprints.listed [(web, 1)] db 2 [(web, 3)] rfl (by decide) 280000000 husage
  obtain rfl : directory = ⟨"/sys/fs/cgroup/web"⟩ :=
    Except.ok.inj (hd.symm.trans (by decide +kernel))
  obtain rfl : gone = ⟨"/sys/fs/cgroup/db"⟩ := Except.ok.inj (hgone.symm.trans (by decide +kernel))
  have hstats : HasStats files ⟨"/sys/fs/cgroup/web"⟩ {} := ⟨by decide +kernel, by decide +kernel⟩
  have hnone : ∀ stats, ¬ HasStats files ⟨"/sys/fs/cgroup/db"⟩ stats :=
    fun stats h => absurd h.1 (by decide +kernel)
  have htable : interfacesOf files (processDirectory ⟨"/"⟩ 3) =
      [⟨"l2", ⟨1, 2, 3, 4⟩, ⟨5, 6, 7, 8⟩⟩] := by decide +kernel
  refine ⟨hrun, samples, hprinted, ?_, hnothing hnone⟩
  obtain ⟨count, interfaces, line, hleast, hmost, hperm, hwritten, hweb⟩ := hlines {} hstats
  have htwice : [web, db, web].count web = 2 := by decide
  obtain rfl : count = 2 := by omega
  rw [htable, List.perm_singleton] at hperm
  rw [hweb, Sample.written_iff.1 hwritten, hperm]
  decide +kernel

/-- **A round does not wait for the printers**: `web` is listed twice and can be read, and
    the round that starts after the first printer has subscribed prints one line. -/
theorem printed_once_of_early_round :
    let web : WorkloadId := ⟨"web", by decide, by decide⟩
    let lookup : Settings.Variable → Option String :=
      fun v => if v = .workloads then some "web=1, web=1" else none
    let entry : List UInt8 := [48, 58, 58, 47, 119, 101, 98, 10]  -- `0::/web`
    let cpu : List UInt8 := [99, 112, 117, 32, 49, 32, 50, 32, 51, 32, 52, 32, 53, 32, 54, 32, 55,
      10]  -- `cpu 1 2 3 4 5 6 7`
    let files := Files.ofAnswers
      [(⟨"/proc/1/cgroup"⟩, .ok (.ok entry)), (⟨"/proc/stat"⟩, .ok (.ok cpu)),
        (⟨"/sys/fs/cgroup/web"⟩, .ok (.error .isDirectory))]
    let settings : Settings :=
      { interval := Settings.defaultInterval, buffer := defaultBuffer, rootfs := ⟨"/"⟩
        cgroupRoot := ⟨"/sys/fs/cgroup"⟩, workloads := [(web, 1), (web, 1)] }
    let steps : List Step := [.subscribe 1, .round .plain, .subscribe 1]
    Settings.read lookup = .ok settings ∧ (run 100 lookup files steps).ending = .running ∧
      hostUsage files (hostCpuFile settings.rootfs) 100 = .ok 280000000 ∧
      settings.host.resolve files 1 = .ok ⟨"/sys/fs/cgroup/web"⟩ ∧
      HasStats files ⟨"/sys/fs/cgroup/web"⟩ {} ∧
      (run 100 lookup files steps).subscribed = [web, web] ∧
      (run 100 lookup files steps).printed = [[⟨web, {}, 280000000, []⟩]] ∧
      (settings.workloads.map (·.1)).count web ≠ 1 := by
  intro web lookup entry cpu files settings steps
  refine ⟨?_, ?_, ?_, ?_, ⟨?_, ?_⟩, ?_, ?_, ?_⟩
  all_goals decide +kernel

end Workmeter.Monitor
