/-
  Workmeter — the start of the program.

  The program starts with all configured workloads registered, or not at all: the first
  thing that goes wrong ends it, before anybody is asked and anything is printed.

  * `Settings.host`: the roster that the settings begin with;
  * `register_congr`: a registration looks at the control-group file of its process, and
    at nothing else;
  * `registerAll_of_ok`, `registerAll_of_error`: the registrations of a list, if all of
    them succeed and if one is the first that fails;
  * `registerAll_congr`: nothing behind that one is looked at;
  * `started`: the program that has registered all workloads;
  * `run_of_registration_fault`, `run_of_started`: the run of a program that cannot start,
    and of one that can;
  * `starts_or_fails`: the start of the program, for any variables and any files.
-/
import Workmeter.Monitor.Run
import Workmeter.Proofs.FirstFailure
import Workmeter.Proofs.Workload.Roster

namespace Workmeter

/-- The roster that the settings begin with. -/
def Settings.host (s : Settings) : Roster := { rootfs := s.rootfs, cgroupRoot := s.cgroupRoot }

/-! ## Registrations -/

namespace Roster

variable {r : Roster} {files files' : Files} {id : WorkloadId} {pid : UInt32}

/-- A registration looks at one file. -/
theorem register_congr (h : files'.opened (r.cgroupFile pid) = files.opened (r.cgroupFile pid)) :
    r.register files' id pid = r.register files id pid := by
  simp only [register, Files.openFile, h]

theorem resolve_files_congr
    (h : files'.opened (r.cgroupFile pid) = files.opened (r.cgroupFile pid)) :
    r.resolve files' pid = r.resolve files pid := by
  simp only [resolve, Files.openFile, h]

end Roster

namespace Monitor

variable {files files' : Files} {r : Roster} {w : WorkloadId × UInt32}
  {workloads before after : List (WorkloadId × UInt32)} {fault : WorkloadFault}

/-- The registrations of the workloads as actions. -/
def registrations (files : Files) (workloads : List (WorkloadId × UInt32)) : List Roster.Action :=
  workloads.map fun w => .register files w.1 w.2

theorem registerAll_cons_of_ok (hd : ∃ d, r.resolve files w.2 = .ok d)
    (rest : List (WorkloadId × UInt32)) :
    let all := registerAll files (r.act (.register files w.1 w.2)) rest
    registerAll files r (w :: rest) = { all with
      events := (r.register files w.1 w.2).events ++ .monitoring w.1 w.2 :: all.events } := by
  obtain ⟨id, pid⟩ := w
  have hresult : (r.register files id pid).result = .ok () := Roster.register_eq_ok_iff.2 hd
  simp only [registerAll, hresult, Roster.act]

theorem registerAll_cons_of_error (hfail : r.resolve files w.2 = .error fault)
    (rest : List (WorkloadId × UInt32)) :
    registerAll files r (w :: rest) = r.register files w.1 w.2 := by
  obtain ⟨id, pid⟩ := w
  have hresult : (r.register files id pid).result = .error fault :=
    Roster.register_eq_error_iff.2 hfail
  simp only [registerAll, hresult]

/-- **All registrations** succeed if each would by itself. -/
theorem registerAll_of_ok (hok : ∀ v ∈ workloads, ∃ d, r.resolve files v.2 = .ok d) :
    (registerAll files r workloads).result = .ok () ∧
      (registerAll files r workloads).roster = r.play (registrations files workloads) := by
  induction workloads generalizing r with
  | nil => exact ⟨rfl, rfl⟩
  | cons w rest ih =>
    rw [registerAll_cons_of_ok (hok w (by simp))]
    exact ih fun v hv => by rw [Roster.resolve_act]; exact hok v (by simp [hv])

/-- **The first registration that fails** ends them. -/
theorem registerAll_of_error (hok : ∀ v ∈ before, ∃ d, r.resolve files v.2 = .ok d)
    (hfail : r.resolve files w.2 = .error fault) :
    (registerAll files r (before ++ w :: after)).result = .error fault := by
  induction before generalizing r with
  | nil =>
    rw [List.nil_append, registerAll_cons_of_error hfail]
    exact Roster.register_eq_error_iff.2 hfail
  | cons v before ih =>
    rw [List.cons_append, registerAll_cons_of_ok (hok v (by simp))]
    exact ih (fun u hu => by rw [Roster.resolve_act]; exact hok u (by simp [hu]))
      (by rwa [Roster.resolve_act])

/-- Nothing is looked at behind the first registration that fails. -/
theorem registerAll_congr (hok : ∀ v ∈ before, ∃ d, r.resolve files v.2 = .ok d)
    (hfail : r.resolve files w.2 = .error fault)
    (hsame : ∀ v ∈ before ++ [w], files'.opened (r.cgroupFile v.2) = files.opened (r.cgroupFile v.2)) :
    registerAll files' r (before ++ w :: after) = registerAll files r (before ++ w :: after) := by
  induction before generalizing r with
  | nil =>
    have hw := hsame w (by simp)
    rw [List.nil_append, registerAll_cons_of_error hfail,
      registerAll_cons_of_error ((Roster.resolve_files_congr hw).trans hfail),
      Roster.register_congr hw]
  | cons v before ih =>
    have hv := hsame v (by simp)
    have hact : r.act (.register files' v.1 v.2) = r.act (.register files v.1 v.2) := by
      rw [Roster.act, Roster.act, Roster.register_congr hv]
    have hgroups := (Roster.host_act r (.register files v.1 v.2)).1
    rw [List.cons_append, registerAll_cons_of_ok (hok v (by simp)),
      registerAll_cons_of_ok (by rw [Roster.resolve_files_congr hv]; exact hok v (by simp)), hact,
      Roster.register_congr hv,
      ih (fun u hu => by rw [Roster.resolve_act]; exact hok u (by simp [hu]))
        (by rwa [Roster.resolve_act])
        fun u hu => by
          rw [Roster.cgroupFile, hgroups]
          exact hsame u (by simp at hu ⊢; tauto)]

/-- Either all registrations succeed, or there is a first one that fails. -/
theorem exists_first_failure (r : Roster) (files : Files) (workloads : List (WorkloadId × UInt32)) :
    (∀ v ∈ workloads, ∃ d, r.resolve files v.2 = .ok d) ∨
      ∃ before w after fault, workloads = before ++ w :: after ∧
        (∀ v ∈ before, ∃ d, r.resolve files v.2 = .ok d) ∧ r.resolve files w.2 = .error fault := by
  obtain hok | ⟨before, w, after, he, hok, hw⟩ :=
    all_or_first (fun v => ∃ d, r.resolve files v.2 = .ok d) workloads
  · exact .inl hok
  · cases hfail : r.resolve files w.2 with
    | ok d => exact absurd ⟨d, hfail⟩ hw
    | error fault => exact .inr ⟨before, w, after, fault, he, hok, hfail⟩

/-- Workloads that are registered are known. -/
theorem isSome_find?_registrations {host : Roster} (hempty : host.known = [])
    (hok : ∀ v ∈ workloads, ∃ d, host.resolve files v.2 = .ok d) (hw : w ∈ workloads) :
    ((host.play (registrations files workloads)).find? w.1).isSome := by
  obtain ⟨before, after, rfl⟩ := List.append_of_mem hw
  obtain ⟨d, hd⟩ := hok w (by simp)
  refine (Roster.isSome_find?_play_iff hempty).2
    ⟨registrations files before, .register files w.1 w.2, registrations files after,
      by simp [registrations], ⟨⟨w.2, d⟩, rfl, rfl, hd⟩, fun a ha => ?_⟩
  obtain ⟨v, -, rfl⟩ := List.mem_map.1 ha
  exact nofun

/-! ## The program -/

section
variable {hz : Nat} {lookup : Settings.Variable → Option String} {settings : Settings}
  {steps : List Step}

theorem run_of_settings_fault {cause : Settings.Fault} (hs : Settings.read lookup = .error cause) :
    run hz lookup files steps = { ending := .failed (.settings cause), events := [] } := by
  simp only [run, prepare, hs]

/-- **A program that cannot register a workload** ends with its fault. -/
theorem run_of_registration_fault (hs : Settings.read lookup = .ok settings)
    (hfail : (registerAll files settings.host settings.workloads).result = .error fault) :
    run hz lookup files steps =
      { ending := .failed (.registration fault)
        events := (registerAll files settings.host settings.workloads).events } := by
  rw [Settings.host] at hfail ⊢
  simp only [run, prepare, hs, hfail]

theorem run_of_empty (hs : Settings.read lookup = .ok settings) (hn : settings.workloads = []) :
    run hz lookup files steps = { ending := .returned, events := [.nothingToMonitor] } := by
  simp [run, prepare, hs, hn, registerAll, isFinished]

/-- The program that has registered the workloads, before anybody subscribes. -/
def started (hz : Nat) (files : Files) (settings : Settings) : Monitor where
  settings
  clockTicks := hz
  roster := settings.host.play (registrations files settings.workloads)
  hub := { buffer := settings.buffer }
  printers := { waiting := settings.workloads.map (·.1) }

theorem exists_prepare_eq (hz : Nat) (hs : Settings.read lookup = .ok settings)
    (hok : ∀ v ∈ settings.workloads, ∃ d, settings.host.resolve files v.2 = .ok d) :
    ∃ events, prepare hz lookup files = (.ok (started hz files settings), events) := by
  obtain ⟨hresult, hroster⟩ := registerAll_of_ok hok
  rw [Settings.host] at hresult hroster
  have hready : (prepare hz lookup files).1 = .ok (started hz files settings) := by
    simp only [prepare, hs, hresult, hroster, started, Settings.host]
  exact ⟨(prepare hz lookup files).2, Prod.ext hready rfl⟩

/-- **A program that can register all workloads** goes on with them. -/
theorem run_of_started (hs : Settings.read lookup = .ok settings) (hn : settings.workloads ≠ [])
    (hok : ∀ v ∈ settings.workloads, ∃ d, settings.host.resolve files v.2 = .ok d) :
    (run hz lookup files steps).ending = .running := by
  obtain ⟨events, hprepare⟩ := exists_prepare_eq hz hs hok
  have hunfinished : (started hz files settings).isFinished = false := by
    simp [started, isFinished, hn]
  simp only [run, hprepare, hunfinished, Bool.false_eq_true, if_false]

/-- **The first registration that fails** is the fault of the program, and the files behind
    it make no difference. -/
theorem run_of_first_failure (hs : Settings.read lookup = .ok settings)
    (he : settings.workloads = before ++ w :: after)
    (hok : ∀ v ∈ before, ∃ d, settings.host.resolve files v.2 = .ok d)
    (hfail : settings.host.resolve files w.2 = .error fault) :
    (run hz lookup files steps).ending = .failed (.registration fault) ∧
    ∀ files' : Files, (∀ v ∈ before ++ [w],
        files'.opened (settings.host.cgroupFile v.2) = files.opened (settings.host.cgroupFile v.2)) →
      run hz lookup files' steps = run hz lookup files steps := by
  have hall : (registerAll files settings.host settings.workloads).result = .error fault := by
    rw [he]; exact registerAll_of_error hok hfail
  refine ⟨by rw [run_of_registration_fault hs hall], fun files' hsame => ?_⟩
  have hsame' : registerAll files' settings.host settings.workloads =
      registerAll files settings.host settings.workloads := by
    rw [he]; exact registerAll_congr hok hfail hsame
  rw [run_of_registration_fault hs hall, run_of_registration_fault hs (hsame' ▸ hall), hsame']

theorem ending_failed_iff :
    (∃ cause, (run hz lookup files steps).ending = .failed cause) ↔
      (∃ cause, Settings.read lookup = .error cause) ∨
      ∃ settings w fault, Settings.read lookup = .ok settings ∧ w ∈ settings.workloads ∧
        settings.host.resolve files w.2 = .error fault := by
  cases hs : Settings.read lookup with
  | error cause => simp [run_of_settings_fault hs]
  | ok settings =>
    obtain hok | ⟨before, w, after, fault, he, hok, hfail⟩ :=
      exists_first_failure settings.host files settings.workloads
    · -- nothing fails, so the program returns or goes on
      have hending : ∀ cause, (run hz lookup files steps).ending ≠ .failed cause := by
        by_cases hn : settings.workloads = []
        · rw [run_of_empty hs hn]; exact nofun
        · rw [run_of_started hs hn hok]; exact nofun
      constructor
      · rintro ⟨cause, hcause⟩; exact absurd hcause (hending cause)
      · rintro (⟨cause, hcause⟩ | ⟨other, w, fault, hother, hw, hfail⟩)
        · cases hcause
        · obtain rfl : settings = other := Except.ok.inj hother
          obtain ⟨d, hd⟩ := hok w hw
          rw [hd] at hfail; cases hfail
    · exact ⟨fun _ => .inr ⟨settings, w, fault, rfl, by simp [he], hfail⟩,
        fun _ => ⟨_, (run_of_first_failure hs he hok hfail).1⟩⟩

theorem calls_run_of_failed {cause : StartFault}
    (h : (run hz lookup files steps).ending = .failed cause) :
    (run hz lookup files steps).calls = [] ∧ (run hz lookup files steps).printed = [] := by
  revert h
  unfold run
  split
  · exact fun _ => ⟨rfl, rfl⟩
  · split <;> exact nofun

end

/-- **The program starts with all configured workloads or not at all**: the first fault of the
    settings and the registrations ends it, before anybody is asked or anything is printed. -/
theorem starts_or_fails (hz : Nat) (lookup : Settings.Variable → Option String) (files : Files)
    (steps : List Step) :
    let outcome := run hz lookup files steps
    ((∃ cause, outcome.ending = .failed cause) ↔
      (∃ cause, Settings.read lookup = .error cause) ∨
      ∃ settings w fault, Settings.read lookup = .ok settings ∧ w ∈ settings.workloads ∧
        (settings.host.register files w.1 w.2).result = .error fault) ∧
    (∀ cause, outcome.ending = .failed cause → outcome.calls = [] ∧ outcome.printed = []) ∧
    (∀ cause, Settings.read lookup = .error cause →
      outcome = { ending := .failed (.settings cause), events := [] }) ∧
    (∀ settings before w after fault, Settings.read lookup = .ok settings →
      settings.workloads = before ++ w :: after →
      (∀ v ∈ before, (settings.host.register files v.1 v.2).result = .ok ()) →
      (settings.host.register files w.1 w.2).result = .error fault →
      outcome.ending = .failed (.registration fault) ∧
      ∀ files' : Files, (∀ v ∈ before ++ [w],
          files'.opened (settings.host.cgroupFile v.2) =
            files.opened (settings.host.cgroupFile v.2)) →
        run hz lookup files' steps = outcome) ∧
    (∀ settings, Settings.read lookup = .ok settings → settings.workloads = [] →
      outcome = { ending := .returned, events := [.nothingToMonitor] }) ∧
    ∀ settings, Settings.read lookup = .ok settings → settings.workloads ≠ [] →
      (∀ w ∈ settings.workloads, (settings.host.register files w.1 w.2).result = .ok ()) →
      outcome.ending = .running ∧ ∃ m events, prepare hz lookup files = (.ok m, events) ∧
        ∀ w ∈ settings.workloads, (m.roster.find? w.1).isSome := by
  intro outcome
  simp only [Roster.register_eq_error_iff, Roster.register_eq_ok_iff]
  refine ⟨ending_failed_iff, fun cause h => calls_run_of_failed h,
    fun cause hs => run_of_settings_fault hs,
    fun settings before w after fault hs he hok hfail => run_of_first_failure hs he hok hfail,
    fun settings hs hn => run_of_empty hs hn, fun settings hs hn hok => ?_⟩
  obtain ⟨events, hprepare⟩ := exists_prepare_eq hz hs hok
  exact ⟨run_of_started hs hn hok, _, events, hprepare,
    fun w hw => isSome_find?_registrations rfl hok hw⟩

/-- Of the three workloads nobody has the second pid, so the program fails with its fault;
    the third registration would have failed, too, and is not tried. -/
theorem starts_or_fails_of_missing_process :
    let web : WorkloadId := ⟨"web", by decide, by decide⟩
    let db : WorkloadId := ⟨"db", by decide, by decide⟩
    let api : WorkloadId := ⟨"api", by decide, by decide⟩
    let lookup : Settings.Variable → Option String :=
      fun v => if v = .workloads then some "web=1, db=2, api=3" else none
    let entry : List UInt8 := [48, 58, 58, 47, 119, 101, 98, 10]  -- `0::/web`
    let files := Files.ofAnswers
      [(⟨"/proc/1/cgroup"⟩, .ok (.ok entry)), (⟨"/proc/3/cgroup"⟩, .ok (.ok [10]))]
    let settings : Settings :=
      { interval := Settings.defaultInterval, buffer := defaultBuffer, rootfs := ⟨"/"⟩
        cgroupRoot := ⟨"/sys/fs/cgroup"⟩, workloads := [(web, 1), (db, 2), (api, 3)] }
    let missing : WorkloadFault := .opening ⟨⟨"/proc/2/cgroup"⟩, .notFound⟩
    let steps : List Step := [.subscribe 3, .round .plain]
    Settings.read lookup = .ok settings ∧
      (settings.host.register files db 2).result = .error missing ∧
      (run 100 lookup files steps).ending = .failed (.registration missing) ∧
      (run 100 lookup files steps).calls = [] ∧ (run 100 lookup files steps).printed = [] ∧
      run 100 lookup (Files.ofAnswers [(⟨"/proc/1/cgroup"⟩, .ok (.ok entry))]) steps =
        run 100 lookup files steps := by
  intro web db api lookup entry files settings missing steps
  have hs : Settings.read lookup = .ok settings := by decide +kernel
  have hweb : settings.host.resolve files 1 = .ok ⟨"/sys/fs/cgroup/web"⟩ := by decide +kernel
  have hdb : (settings.host.register files db 2).result = .error missing :=
    Roster.register_eq_error_iff.2 (by decide +kernel)
  obtain ⟨-, hnothing, -, hfirst, -, -⟩ := starts_or_fails 100 lookup files steps
  obtain ⟨hending, hothers⟩ := hfirst settings [(web, 1)] (db, 2) [(api, 3)] missing hs rfl
    (fun v hv => by
      rw [List.mem_singleton.1 hv]
      exact Roster.register_eq_ok_iff.2 ⟨_, hweb⟩) hdb
  refine ⟨hs, hdb, hending, (hnothing _ hending).1, (hnothing _ hending).2, hothers _ fun v hv => ?_⟩
  rcases List.mem_cons.1 hv with rfl | hv
  · decide +kernel
  · rw [List.mem_singleton.1 hv]; decide +kernel

end Monitor

end Workmeter
