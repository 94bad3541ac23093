/-
  Workmeter — the roster and its history.

  A roster knows a workload by its last registration that did not fail.  Its sandbox is
  named by the pid of this registration, and the host finds the sandbox of that name at
  the process.

  * `Roster.resolve`: the control group of a process, as a registration finds it
    (`register_eq_error_iff`, `register_eq_ok_iff`);
  * `roster_of_ok`, `roster_of_error`: the roster after a registration;
  * `Roster.Action`, `Roster.play`: what is done with a roster;
  * `find?_act_of_registers`, `find?_act_remove`, `find?_act_of_other`: what an action
    makes of a workload;
  * `find?_play_iff`, `isSome_find?_play_iff`: what a history makes of it;
  * `sandbox_toString`: the sandbox that a host finds by the text of a pid;
  * `known_by_last_registration`: all of it, for any history.
-/
import Mathlib.Data.List.Induction
import Workmeter.Proofs.Since
import Workmeter.Proofs.Text.Decimal
import Workmeter.Sandbox
import Workmeter.Workload.Roster

namespace Workmeter

namespace Roster

variable {r : Roster} {files : Files} {id other : WorkloadId} {pid : UInt32} {m : Monitored}

/-! ## A registration by pid -/

/-- The control group of a process. -/
def resolve (r : Roster) (files : Files) (pid : UInt32) : Except WorkloadFault Path :=
  match files.openFile (r.cgroupFile pid) with
  | .error fault => .error (.opening fault)
  | .ok content => (firstUnified (r.cgroupFile pid) content.lines).2.map r.directoryOf

/-- **A registration** enters the control group of the process, or fails and leaves the roster
    as it is. -/
theorem register_cases (r : Roster) (files : Files) (id : WorkloadId) (pid : UInt32) :
    (∃ directory, r.resolve files pid = .ok directory ∧ (r.register files id pid).result = .ok () ∧
      (r.register files id pid).roster = r.enter id ⟨pid, directory⟩) ∨
    ∃ fault, r.resolve files pid = .error fault ∧
      (r.register files id pid).result = .error fault ∧ (r.register files id pid).roster = r := by
  simp only [register, resolve]
  cases files.openFile (r.cgroupFile pid) with
  | error fault => exact .inr ⟨_, rfl, rfl, rfl⟩
  | ok content =>
    simp only
    generalize firstUnified (r.cgroupFile pid) content.lines = found
    obtain ⟨passed, fault | entry⟩ := found
    · exact .inr ⟨_, rfl, rfl, rfl⟩
    · exact .inl ⟨_, rfl, rfl, rfl⟩

/-- Whether a registration fails does not depend on what is known. -/
theorem register_eq_error_iff {fault : WorkloadFault} :
    (r.register files id pid).result = .error fault ↔ r.resolve files pid = .error fault := by
  obtain ⟨directory, hresolve, hresult, -⟩ | ⟨fault, hresolve, hresult, -⟩ :=
    register_cases r files id pid
  · rw [hresolve, hresult]; exact ⟨nofun, nofun⟩
  · rw [hresolve, hresult]; simp

theorem register_eq_ok_iff :
    (r.register files id pid).result = .ok () ↔
      ∃ directory, r.resolve files pid = .ok directory := by
  obtain ⟨directory, hresolve, hresult, -⟩ | ⟨fault, hresolve, hresult, -⟩ :=
    register_cases r files id pid
  · rw [hresolve, hresult]; simp
  · rw [hresolve, hresult]; simp

theorem roster_of_ok {directory : Path} (h : r.resolve files pid = .ok directory) :
    (r.register files id pid).roster = r.enter id ⟨pid, directory⟩ := by
  obtain ⟨directory', hresolve, -, hroster⟩ | ⟨fault, hresolve, -⟩ := register_cases r files id pid
  · rw [h] at hresolve
    cases hresolve
    exact hroster
  · rw [h] at hresolve; cases hresolve

theorem roster_of_error {fault : WorkloadFault}
    (h : (r.register files id pid).result = .error fault) :
    (r.register files id pid).roster = r := by
  obtain ⟨directory, -, hresult, -⟩ | ⟨fault', -, -, hroster⟩ := register_cases r files id pid
  · rw [h] at hresult; cases hresult
  · exact hroster

theorem find?_register_of_ne (h : other ≠ id) :
    (r.register files id pid).roster.find? other = r.find? other := by
  obtain ⟨directory, -, -, hroster⟩ | ⟨fault, -, -, hroster⟩ := register_cases r files id pid
  · rw [hroster, find?_enter, if_neg h]
  · rw [hroster]

/-! ## Actions -/

/-- What is done with a roster. -/
inductive Action where
  | register (files : Files) (id : WorkloadId) (pid : UInt32)
  | enter (id : WorkloadId) (m : Monitored)
  | remove (id : WorkloadId)

/-- The workload that an action is about. -/
def Action.workload : Action → WorkloadId
  | register _ id _ | enter id _ | remove id => id

/-- The roster after an action. -/
def act (r : Roster) : Action → Roster
  | .register files id pid => (r.register files id pid).roster
  | .enter id m => r.enter id m
  | .remove id => r.remove id

/-- The roster after the actions, one after the other. -/
def play (r : Roster) (actions : List Action) : Roster := actions.foldl act r

/-- The action registers the workload with this. -/
def Action.Registers (host : Roster) (id : WorkloadId) (m : Monitored) : Action → Prop
  | register files other pid => other = id ∧ pid = m.pid ∧ host.resolve files pid = .ok m.directory
  | enter other n => other = id ∧ n = m
  | remove _ => False

/-- The workload was registered with this, and has been neither registered nor removed
    since. -/
def LastRegistration (host : Roster) (id : WorkloadId) (actions : List Action) (m : Monitored) :
    Prop :=
  Since (Action.Registers host id m)
    (fun a => a ≠ .remove id ∧ ∀ n, ¬ a.Registers host id n) actions

theorem act_register (r : Roster) (files : Files) (id : WorkloadId) (pid : UInt32) :
    r.act (.register files id pid) =
      match r.resolve files pid with
      | .ok d => r.enter id ⟨pid, d⟩
      | .error _ => r := by
  rw [act]
  cases hresolve : r.resolve files pid with
  | ok directory => exact roster_of_ok hresolve
  | error fault => exact roster_of_error (register_eq_error_iff.2 hresolve)

/-- No action moves the host. -/
theorem host_act (r : Roster) (a : Action) :
    (r.act a).rootfs = r.rootfs ∧ (r.act a).cgroupRoot = r.cgroupRoot := by
  cases a with
  | register files id pid => rw [act_register]; split <;> exact ⟨rfl, rfl⟩
  | enter | remove => exact ⟨rfl, rfl⟩

theorem host_play (r : Roster) (actions : List Action) :
    (r.play actions).rootfs = r.rootfs ∧ (r.play actions).cgroupRoot = r.cgroupRoot := by
  induction actions generalizing r with
  | nil => exact ⟨rfl, rfl⟩
  | cons a actions ih =>
    obtain ⟨hroot, hgroups⟩ := ih (r.act a)
    exact ⟨hroot.trans (host_act r a).1, hgroups.trans (host_act r a).2⟩

theorem resolve_congr {r' : Roster} (hroot : r.rootfs = r'.rootfs)
    (hgroups : r.cgroupRoot = r'.cgroupRoot) : r.resolve = r'.resolve := by
  obtain ⟨rootfs, groups, known⟩ := r
  obtain rfl : rootfs = r'.rootfs := hroot
  obtain rfl : groups = r'.cgroupRoot := hgroups
  rfl

theorem resolve_act (r : Roster) (a : Action) : (r.act a).resolve = r.resolve :=
  resolve_congr (host_act r a).1 (host_act r a).2

theorem resolve_play (r : Roster) (actions : List Action) : (r.play actions).resolve = r.resolve :=
  resolve_congr (host_play r actions).1 (host_play r actions).2

/-! ## One workload -/

/-- What is known of the workload of an action after it, if this was known before. -/
def Action.outcome (host : Roster) (found : Option Monitored) : Action → Option Monitored
  | register files _ pid =>
    match host.resolve files pid with
    | .ok directory => some ⟨pid, directory⟩
    | .error _ => found
  | enter _ m => some m
  | remove _ => none

/-- **An action** is about its own workload only. -/
theorem find?_act (r : Roster) (a : Action) (id : WorkloadId) :
    (r.act a).find? id = if a.workload = id then a.outcome r (r.find? id) else r.find? id := by
  simp only [@eq_comm _ a.workload]
  cases a with
  | register files other pid =>
    rw [act_register, Action.outcome]
    cases r.resolve files pid with
    | error fault => simp
    | ok directory => exact find?_enter r other id _
  | enter other m => exact find?_enter r other id m
  | remove other => exact find?_remove r other id

/-- An action registers a workload, or removes it, or leaves it as it was. -/
theorem find?_act_cases (r : Roster) (a : Action) (id : WorkloadId) :
    (∃ m, a.Registers r id m ∧ (r.act a).find? id = some m) ∨
    (a = .remove id ∧ (r.act a).find? id = none) ∨
    (a ≠ .remove id ∧ (∀ m, ¬ a.Registers r id m) ∧ (r.act a).find? id = r.find? id) := by
  rw [find?_act]
  by_cases hid : a.workload = id
  · rw [if_pos hid]
    cases a with
    | register files other pid =>
      rw [Action.outcome]
      cases hr : r.resolve files pid with
      | ok directory => exact .inl ⟨⟨pid, directory⟩, ⟨hid, rfl, hr⟩, rfl⟩
      | error fault =>
        refine .inr (.inr ⟨nofun, fun m hm => ?_, rfl⟩)
        rw [hm.2.2] at hr; cases hr
    | enter other m => exact .inl ⟨m, ⟨hid, rfl⟩, rfl⟩
    | remove other => exact .inr (.inl ⟨congrArg Action.remove hid, rfl⟩)
  · rw [if_neg hid]
    refine .inr (.inr ⟨fun he => hid (he ▸ rfl), fun m hm => hid ?_, rfl⟩)
    cases a with
    | register files other pid => exact hm.1
    | enter other n => exact hm.1
    | remove other => cases hm

theorem eq_of_registers {a : Action} {n : Monitored} (hm : a.Registers r id m)
    (hn : a.Registers r id n) : m = n := by
  cases a with
  | register files other pid =>
    obtain ⟨-, rfl, hd⟩ := hm
    obtain ⟨-, hpid, hd'⟩ := hn
    rw [hd] at hd'
    obtain ⟨pid, directory⟩ := n
    obtain rfl : m.pid = pid := hpid
    obtain rfl : m.directory = directory := Except.ok.inj hd'
    rfl
  | enter other k => exact hm.2.symm.trans hn.2
  | remove other => cases hm

/-! ## Histories -/

theorem play_concat (r : Roster) (actions : List Action) (a : Action) :
    r.play (actions ++ [a]) = (r.play actions).act a := by
  simp [play]

theorem registers_play (host : Roster) (actions : List Action) (id : WorkloadId) :
    Action.Registers (host.play actions) id = Action.Registers host id := by
  funext m a
  cases a with
  | register files other pid => rw [Action.Registers, Action.Registers, resolve_play]
  | enter | remove => rfl

section
variable {host : Roster} {actions : List Action}

/-- **A workload is known** by its last registration. -/
theorem find?_play_iff (hempty : host.known = []) :
    (host.play actions).find? id = some m ↔ LastRegistration host id actions m := by
  induction actions using List.reverseRecOn with
  | nil => simp [play, find?, hempty, LastRegistration, since_nil]
  | append_singleton actions a ih =>
    have hcases := find?_act_cases (host.play actions) a id
    rw [registers_play] at hcases
    rw [play_concat, LastRegistration, since_concat]
    obtain ⟨n, hn, hfound⟩ | ⟨rfl, hfound⟩ | ⟨hne, hno, hfound⟩ := hcases
    · rw [hfound, Option.some.injEq]
      constructor
      · rintro rfl; exact Or.inl hn
      · rintro (hm | ⟨⟨-, hno⟩, -⟩)
        · exact eq_of_registers hn hm
        · exact absurd hn (hno n)
    · rw [hfound]
      simp [Action.Registers]
    · rw [hfound, ih]
      simp [hne, hno, LastRegistration]

/-- It is known if it was registered and has not been removed since. -/
theorem isSome_find?_play_iff (hempty : host.known = []) :
    ((host.play actions).find? id).isSome ↔
      Since (fun a => ∃ m, Action.Registers host id m a) (· ≠ .remove id) actions := by
  induction actions using List.reverseRecOn with
  | nil => simp [play, find?, hempty, since_nil]
  | append_singleton actions a ih =>
    have hcases := find?_act_cases (host.play actions) a id
    rw [registers_play] at hcases
    rw [play_concat, since_concat]
    obtain ⟨n, hn, hfound⟩ | ⟨rfl, hfound⟩ | ⟨hne, hno, hfound⟩ := hcases
    · simp only [hfound, Option.isSome_some, true_iff]
      exact Or.inl ⟨n, hn⟩
    · rw [hfound]
      simp [Action.Registers]
    · rw [hfound, ih]
      simp [hne, hno]

/-- **The history of the other workloads** makes no difference. -/
theorem find?_play_filter (host : Roster) (actions : List Action) (id : WorkloadId) :
    (host.play actions).find? id = (host.play (actions.filter (·.workload = id))).find? id := by
  induction actions using List.reverseRecOn with
  | nil => rfl
  | append_singleton actions a ih =>
    rw [play_concat, find?_act, List.filter_append]
    by_cases hid : a.workload = id
    · rw [if_pos hid, ih, List.filter_cons_of_pos (by simpa using hid), List.filter_nil, play_concat,
        find?_act, if_pos hid]
      cases a with
      | register files other pid => rw [Action.outcome, Action.outcome, resolve_play, resolve_play]
      | enter | remove => rfl
    · rw [if_neg hid, ih, List.filter_cons_of_neg (by simpa using hid), List.filter_nil,
        List.append_nil]

end

/-! ## The sandbox of a process -/

/-- **The text of a pid** names the sandbox of the process: the host looks at its
    directory, and at no other. -/
theorem sandbox_toString (files : Files) (rootfs : Path) (pid : UInt32) :
    (hostNetwork files rootfs).sandbox ⟨toString pid.toNat⟩ =
      if files.isDirectory (processDirectory rootfs pid) then
        .ok (processSandbox files ⟨toString pid.toNat⟩ (processDirectory rootfs pid))
      else .error (.notFound ⟨toString pid.toNat⟩) := by
  simp only [hostNetwork, Decimal.readUInt32_toString]

/-! ## Any history -/

/-- **A workload is known by its last registration** until it is removed; a registration that
    fails changes nothing. -/
theorem known_by_last_registration (rootfs cgroupRoot : Path) (actions : List Action)
    (id : WorkloadId) :
    let host : Roster := { rootfs, cgroupRoot }
    let roster := host.play actions
    ((roster.find? id).isSome ↔
      Since (fun a => ∃ m, Action.Registers host id m a) (· ≠ .remove id) actions) ∧
    (∀ m, roster.find? id = some m ↔ LastRegistration host id actions m) ∧
    (∀ m, LastRegistration host id actions m → ∀ files : Files,
      let sandbox : SandboxId := ⟨toString m.pid.toNat⟩
      let process := processDirectory rootfs m.pid
      let found := (hostNetwork files rootfs).sandbox sandbox
      roster.stats files id =
        (if files.isDirectory m.directory then readStats files m.directory
        else .error (.notRunning id)) ∧
      roster.sandbox id = some sandbox ∧
      found = (if files.isDirectory process then .ok (processSandbox files sandbox process)
        else .error (.notFound sandbox)) ∧
      ∀ s, found ≠ .error (.invalidId s)) ∧
    (roster.find? id = none →
      roster.sandbox id = none ∧ ∀ files, roster.stats files id = .error (.unknown id)) ∧
    (∀ files other pid directory, host.resolve files pid = .ok directory →
      let registration := roster.register files other pid
      registration.result = .ok () ∧ registration.roster = roster.enter other ⟨pid, directory⟩) ∧
    (∀ files other pid fault,
      let registration := roster.register files other pid
      (registration.result = .error fault ↔ host.resolve files pid = .error fault) ∧
      (registration.result = .error fault → registration.roster = roster)) ∧
    roster.find? id = (host.play (actions.filter (·.workload = id))).find? id := by
  intro host roster
  have hresolve : roster.resolve = host.resolve := resolve_play host actions
  refine ⟨isSome_find?_play_iff rfl, fun m => find?_play_iff rfl, fun m hm files => ?_,
    fun hnone => ?_, fun files other pid directory hdirectory => ?_, fun files other pid fault => ?_,
    find?_play_filter host actions id⟩
  · have hfind : roster.find? id = some m := (find?_play_iff rfl).2 hm
    have hfound := sandbox_toString files rootfs m.pid
    refine ⟨by rw [stats, hfind], by rw [sandbox, hfind]; rfl, hfound, fun s hinvalid => ?_⟩
    rw [hfound] at hinvalid
    split at hinvalid <;> cases hinvalid
  · exact ⟨by rw [sandbox, hnone]; rfl, fun files => by rw [stats, hnone]⟩
  · rw [← hresolve] at hdirectory
    exact ⟨register_eq_ok_iff.2 ⟨_, hdirectory⟩, roster_of_ok hdirectory⟩
  · rw [← hresolve]
    exact ⟨register_eq_error_iff, roster_of_error⟩

/-- `web` is registered, and registered again by a pid that nobody has, which fails; `db`
    is registered twice and removed.  `web` stays known by its first registration. -/
theorem known_by_last_registration_of_failed_one :
    let web : WorkloadId := ⟨"web", by decide, by decide⟩
    let db : WorkloadId := ⟨"db", by decide, by decide⟩
    let entry : List UInt8 := [48, 58, 58, 47, 119, 101, 98, 10]  -- `0::/web`
    let files := Files.ofAnswers
      [(⟨"/proc/7/cgroup"⟩, .ok (.ok entry)), (⟨"/proc/7"⟩, .ok (.error .isDirectory))]
    let actions : List Action := [.register files web 7, .enter db ⟨8, ⟨"/groups/db"⟩⟩,
      .register files web 9, .enter db ⟨9, ⟨"/groups/db"⟩⟩, .remove db]
    let host : Roster := { rootfs := ⟨"/"⟩, cgroupRoot := ⟨"/groups"⟩ }
    let roster := host.play actions
    LastRegistration host web actions ⟨7, ⟨"/groups/web"⟩⟩ ∧
      roster.find? web = some ⟨7, ⟨"/groups/web"⟩⟩ ∧
      roster.sandbox web = some ⟨"7"⟩ ∧ roster.stats files web = .error (.notRunning web) ∧
      (hostNetwork files ⟨"/"⟩).sandbox ⟨"7"⟩ = .ok (processSandbox files ⟨"7"⟩ ⟨"/proc/7"⟩) ∧
      roster.find? db = none ∧ roster.sandbox db = none := by
  intro web db entry files actions host roster
  have hweb : host.resolve files 7 = .ok ⟨"/groups/web"⟩ := by decide +kernel
  have hfailed : host.resolve files 9 = .error (.opening ⟨⟨"/proc/9/cgroup"⟩, .notFound⟩) := by
    decide +kernel
  have hlast : LastRegistration host web actions ⟨7, ⟨"/groups/web"⟩⟩ := by
    refine ⟨[], .register files web 7, _, rfl, ⟨rfl, rfl, hweb⟩, fun a ha => ?_⟩
    have hne : db ≠ web := by decide
    have henter : ∀ m, .enter db m ≠ Action.remove web ∧
        ∀ n, ¬ (Action.enter db m).Registers host web n := fun m => ⟨nofun, fun n h => hne h.1⟩
    simp only [List.mem_cons, List.not_mem_nil, or_false] at ha
    rcases ha with rfl | rfl | rfl | rfl
    · exact henter _
    · refine ⟨nofun, fun n hn => ?_⟩
      have hd : host.resolve files 9 = .ok n.directory := hn.2.2
      rw [hfailed] at hd; cases hd
    · exact henter _
    · exact ⟨fun h => hne (Action.remove.inj h), fun n hn => hn⟩
  obtain ⟨-, hknown, hfound, -, -, -, -⟩ := known_by_last_registration ⟨"/"⟩ ⟨"/groups"⟩ actions web
  obtain ⟨-, -, -, hunknown, -, -, -⟩ := known_by_last_registration ⟨"/"⟩ ⟨"/groups"⟩ actions db
  obtain ⟨hstats, hsandbox, hnetwork, -⟩ := hfound _ hlast files
  have hdb : roster.find? db = none := by decide +kernel
  exact ⟨hlast, (hknown _).2 hlast, hsandbox, hstats.trans (if_neg (by decide +kernel)),
    hnetwork.trans (if_pos (by decide +kernel)), hdb, (hunknown hdb).1⟩

end Roster

end Workmeter
