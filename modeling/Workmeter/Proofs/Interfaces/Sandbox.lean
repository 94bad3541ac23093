/-
  Workmeter — the interfaces of a sandbox of a host.

  * `ProcessAt`: the directory of the process that an id names;
  * `HostTells`: what a host tells of a sandbox (`interfaces_hostNetwork_iff`);
  * `interfaces_eq_iff`: what any network tells of a sandbox;
  * `map_name_ofRow`, `mem_map_ofRow_iff`: the records made of rows;
  * `interfaces_of_sandbox`: all of it, for any files and any id.
-/
import Workmeter.Proofs.Interfaces.Reading
import Workmeter.Sandbox

namespace Workmeter.Network

variable {files : Files} {rootfs directory : Path} {id : SandboxId} {network : Network}
  {outcome : Except SandboxFault (List Interface)}

/-! ## Sandboxes of a host -/

/-- The id is a decimal of 32 bits, and this is the directory of the process with this number. -/
def ProcessAt (rootfs : Path) (id : SandboxId) (directory : Path) : Prop :=
  ∃ n < UInt32.size, Decimal.Denotes id.name.toList n ∧ rootfs.join s!"proc/{n}" = directory

/-- What a host tells of a sandbox. -/
inductive HostTells (files : Files) (rootfs : Path) (id : SandboxId) :
    Except SandboxFault (List Interface) → Prop where
  | invalidId : (∀ n < UInt32.size, ¬ Decimal.Denotes id.name.toList n) →
      HostTells files rootfs id (.error (.invalidId id))
  | notFound {directory : Path} : ProcessAt rootfs id directory →
      files.isDirectory directory = false → HostTells files rootfs id (.error (.notFound id))
  | opening {directory : Path} {cause : ReadFault} : ProcessAt rootfs id directory →
      files.isDirectory directory = true → files.opened (directory.join "net/dev") = .error cause →
      HostTells files rootfs id (.error (.opening ⟨directory.join "net/dev", cause⟩))
  | badTable {directory : Path} {content : Content} {fault : Interfaces.Fault} :
      ProcessAt rootfs id directory → files.isDirectory directory = true →
      files.opened (directory.join "net/dev") = .ok content →
      Interfaces.read content.lines = .error fault →
      HostTells files rootfs id (.error (.badTable id fault))
  | interfaces {directory : Path} {content : Content} {table : List Interfaces.Row} :
      ProcessAt rootfs id directory → files.isDirectory directory = true →
      files.opened (directory.join "net/dev") = .ok content →
      Interfaces.read content.lines = .ok table →
      HostTells files rootfs id (.ok (table.map Interface.ofRow))

theorem processAt_iff :
    ProcessAt rootfs id directory ↔
      ∃ pid, Decimal.readUInt32 id.name.toList = .ok pid ∧
        processDirectory rootfs pid = directory := by
  simp only [Decimal.readUInt32_eq_ok_iff]
  constructor
  · rintro ⟨n, hlt, hden, rfl⟩
    have hsize : (UInt32.ofNat n).toNat = n := UInt32.toNat_ofNat_of_lt' hlt
    exact ⟨.ofNat n, by rwa [hsize], by rw [processDirectory, hsize]⟩
  · rintro ⟨pid, hden, rfl⟩
    exact ⟨pid.toNat, pid.toNat_lt, hden, rfl⟩

/-- The sandbox that is found, or why there is none. -/
theorem sandbox_of_processAt (h : ProcessAt rootfs id directory) :
    (hostNetwork files rootfs).sandbox id =
      if files.isDirectory directory then .ok (processSandbox files id directory)
      else .error (.notFound id) := by
  obtain ⟨pid, hpid, rfl⟩ := processAt_iff.1 h
  simp only [hostNetwork, hpid]

theorem interfaces_of_opened {content : Content} (h : ProcessAt rootfs id directory)
    (hthere : files.isDirectory directory = true)
    (hopened : files.opened (directory.join "net/dev") = .ok content) :
    (hostNetwork files rootfs).interfaces id =
      ((Interfaces.read content.lines).mapError (.badTable id)).map (·.map Interface.ofRow) := by
  rw [Network.interfaces, sandbox_of_processAt h, if_pos hthere]
  simp only [processSandbox, Files.openFile, interfaceTable, hopened]
  cases Interfaces.read content.lines <;> rfl

theorem HostTells.interfaces_eq (h : HostTells files rootfs id outcome) :
    (hostNetwork files rootfs).interfaces id = outcome := by
  cases h with
  | invalidId hnone =>
    cases hread : Decimal.readUInt32 id.name.toList with
    | error cause => simp only [Network.interfaces, hostNetwork, hread]
    | ok pid => exact absurd (Decimal.readUInt32_eq_ok_iff.1 hread) (hnone _ pid.toNat_lt)
  | notFound hat hgone =>
    rw [Network.interfaces, sandbox_of_processAt hat, hgone]
    rfl
  | opening hat hthere hopened =>
    rw [Network.interfaces, sandbox_of_processAt hat, if_pos hthere]
    simp only [processSandbox, Files.openFile, interfaceTable, hopened]
  | badTable hat hthere hopened hread =>
    rw [interfaces_of_opened hat hthere hopened, hread]
    rfl
  | interfaces hat hthere hopened hread =>
    rw [interfaces_of_opened hat hthere hopened, hread]
    rfl

theorem exists_hostTells (files : Files) (rootfs : Path) (id : SandboxId) :
    ∃ outcome, HostTells files rootfs id outcome := by
  by_cases hat : ∃ directory, ProcessAt rootfs id directory
  · obtain ⟨directory, hat⟩ := hat
    cases hthere : files.isDirectory directory with
    | false => exact ⟨_, .notFound hat hthere⟩
    | true =>
      cases hopened : files.opened (directory.join "net/dev") with
      | error cause => exact ⟨_, .opening hat hthere hopened⟩
      | ok content =>
        cases hread : Interfaces.read content.lines with
        | error fault => exact ⟨_, .badTable hat hthere hopened hread⟩
        | ok table => exact ⟨_, .interfaces hat hthere hopened hread⟩
  · exact ⟨_, .invalidId fun n hlt hden => hat ⟨_, n, hlt, hden, rfl⟩⟩

/-- **A host** tells one outcome of a sandbox, and no other. -/
theorem interfaces_hostNetwork_iff :
    (hostNetwork files rootfs).interfaces id = outcome ↔ HostTells files rootfs id outcome := by
  refine ⟨fun h => ?_, HostTells.interfaces_eq⟩
  obtain ⟨outcome', htells⟩ := exists_hostTells files rootfs id
  rwa [← h, htells.interfaces_eq]

/-! ## Any network -/

/-- A sandbox that is not found is told as such, and so is a table that is not; otherwise there
    is a record of each row. -/
theorem interfaces_eq_iff :
    network.interfaces id = outcome ↔
      (∃ fault, network.sandbox id = .error fault ∧ outcome = .error fault) ∨
        ∃ sandbox, network.sandbox id = .ok sandbox ∧
          ((∃ fault, sandbox.table = .error fault ∧ outcome = .error fault) ∨
            ∃ table, sandbox.table = .ok table ∧ outcome = .ok (table.map Interface.ofRow)) := by
  rw [Network.interfaces]
  cases network.sandbox id with
  | error fault => simp [eq_comm]
  | ok sandbox => cases hread : sandbox.table <;> simp [hread, eq_comm]

theorem map_name_ofRow (table : List Interfaces.Row) :
    (table.map Interface.ofRow).map (·.name) = table.map (·.1) := by
  rw [List.map_map]
  rfl

theorem mem_map_ofRow_iff {table : List Interfaces.Row} {i : Interface} :
    i ∈ table.map Interface.ofRow ↔ (i.name, ⟨i.received, i.sent⟩) ∈ table := by
  rw [List.mem_map]
  constructor
  · rintro ⟨row, hrow, rfl⟩
    exact hrow
  · exact fun hrow => ⟨_, hrow, rfl⟩

/-- **The interfaces of a sandbox** are one record for each name in the table of its process, with
    the eight counters of its last row, or the first failure on the way. -/
theorem interfaces_of_sandbox (files : Files) (rootfs : Path) (id : SandboxId) :
    let host := hostNetwork files rootfs
    (∀ outcome, host.interfaces id = outcome ↔ HostTells files rootfs id outcome) ∧
    (∀ directory content, ProcessAt rootfs id directory → files.isDirectory directory = true →
      files.opened (directory.join "net/dev") = .ok content →
        (∀ fault, host.interfaces id = .error (.badTable id fault) ↔
          FailsFirst Interfaces.Fails content.lines fault) ∧
        ((∃ found, host.interfaces id = .ok found) ↔ Clean Interfaces.Fails content.lines) ∧
        ∀ found, host.interfaces id = .ok found →
          (found.map (·.name)).Nodup ∧ "lo" ∉ found.map (·.name) ∧
          (∀ name, name ∈ found.map (·.name) ↔
            ∃ line ∈ content.lines.drop 2, Interfaces.Names name line) ∧
          ∀ i, i ∈ found ↔ Interfaces.LastRow (i.name, ⟨i.received, i.sent⟩) content.lines) ∧
    ∀ (network : Network) (outcome), network.interfaces id = outcome ↔
      (∃ fault, network.sandbox id = .error fault ∧ outcome = .error fault) ∨
        ∃ sandbox, network.sandbox id = .ok sandbox ∧
          ((∃ fault, sandbox.table = .error fault ∧ outcome = .error fault) ∨
            ∃ table, sandbox.table = .ok table ∧
              outcome = .ok (table.map fun row => ⟨row.1, row.2.received, row.2.sent⟩)) := by
  intro host
  refine ⟨fun outcome => interfaces_hostNetwork_iff, fun directory content hat hthere hopened => ?_,
    fun network outcome => interfaces_eq_iff⟩
  have htold : host.interfaces id =
      ((Interfaces.read content.lines).mapError (.badTable id)).map (·.map Interface.ofRow) :=
    interfaces_of_opened hat hthere hopened
  have hok : ∀ found, host.interfaces id = .ok found ↔
      ∃ table, Interfaces.read content.lines = .ok table ∧ table.map Interface.ofRow = found := by
    intro found
    rw [htold]
    cases Interfaces.read content.lines <;> simp [Except.mapError, Except.map]
  refine ⟨fun fault => ?_, ?_, fun found hfound => ?_⟩
  · rw [← Interfaces.scan.eq_error_iff, htold]
    cases Interfaces.read content.lines <;> simp [Except.mapError, Except.map]
  · rw [← Interfaces.scan.exists_ok_iff]
    simp only [hok]
    exact ⟨fun ⟨_, table, hread, _⟩ => ⟨table, hread⟩, fun ⟨table, hread⟩ => ⟨_, table, hread, rfl⟩⟩
  · obtain ⟨table, hread, rfl⟩ := (hok found).1 hfound
    have hholds := Interfaces.holds_of_read hread
    rw [map_name_ofRow]
    exact ⟨hholds.nodup, hholds.loopback_not_mem, hholds.name_mem_iff,
      fun i => mem_map_ofRow_iff.trans (hholds.mem_iff _)⟩

/-- The process 7 has two interfaces, and the table of the process 8 is cut off; a plus sign and
    a zero make no difference to an id, and a number of more than 32 bits is none. -/
theorem interfaces_of_sandbox_of_two_processes :
    let table := ("\n\nlo: 1\nb: 1 2 3 4 - - - - 5 6 7 8 - - - -\n" ++
      "a:8 7 6 5 - - - - 4 3 2 1 - - - -\n").toUTF8.data.toList
    let short := "\n\na: 1 2".toUTF8.data.toList
    let files := Files.ofAnswers
      [(⟨"/proc/7"⟩, .ok (.error .isDirectory)), (⟨"/proc/7/net/dev"⟩, .ok (.ok table)),
        (⟨"/proc/8"⟩, .ok (.error .isDirectory)), (⟨"/proc/8/net/dev"⟩, .ok (.ok short))]
    let host := hostNetwork files ⟨"/"⟩
    let found : List Interface :=
      [{ name := "b", received := ⟨1, 2, 3, 4⟩, sent := ⟨5, 6, 7, 8⟩ },
        { name := "a", received := ⟨8, 7, 6, 5⟩, sent := ⟨4, 3, 2, 1⟩ }]
    let broken : Network := ⟨fun id => .error (.notFound id)⟩
    (host.interfaces ⟨"+07"⟩ = .ok found ∧
      (∀ i, i ∈ found ↔
        Interfaces.LastRow (i.name, ⟨i.received, i.sent⟩) (Content.lines (.ok table)))) ∧
    host.interfaces ⟨"8"⟩ = .error (.badTable ⟨"8"⟩ (.tooFewCounters "a" 2)) ∧
    host.interfaces ⟨"4294967296"⟩ = .error (.invalidId ⟨"4294967296"⟩) ∧
    broken.interfaces ⟨"7"⟩ = .error (.notFound ⟨"7"⟩) := by
  intro table short files host found broken
  have hseven : ProcessAt ⟨"/"⟩ ⟨"+07"⟩ ⟨"/proc/7"⟩ :=
    processAt_iff.2 ⟨7, by decide +kernel, by decide +kernel⟩
  have height : ProcessAt ⟨"/"⟩ ⟨"8"⟩ ⟨"/proc/8"⟩ :=
    processAt_iff.2 ⟨8, by decide +kernel, by decide +kernel⟩
  have hlarge : ∀ n < UInt32.size, ¬ Decimal.Denotes "4294967296".toList n := fun n hlt hden => by
    have hread : Decimal.read UInt32.size "4294967296".toList = .ok n :=
      (Decimal.read_eq_ok_iff (by decide)).2 ⟨hden, hlt⟩
    have hnone : Decimal.read UInt32.size "4294967296".toList = .error .tooLarge := by
      decide +kernel
    rw [hnone] at hread
    cases hread
  have hthere : files.isDirectory ⟨"/proc/7"⟩ = true := by decide +kernel
  have hopened : files.opened ⟨"/proc/7/net/dev"⟩ = .ok (.ok table) := by decide +kernel
  have hopened₈ : files.opened ⟨"/proc/8/net/dev"⟩ = .ok (.ok short) := by decide +kernel
  obtain ⟨hseventh, htable, -⟩ := interfaces_of_sandbox files ⟨"/"⟩ ⟨"+07"⟩
  obtain ⟨heighth, -⟩ := interfaces_of_sandbox files ⟨"/"⟩ ⟨"8"⟩
  obtain ⟨hinvalid, -⟩ := interfaces_of_sandbox files ⟨"/"⟩ ⟨"4294967296"⟩
  obtain ⟨-, -, hany⟩ := interfaces_of_sandbox files ⟨"/"⟩ ⟨"7"⟩
  have hread : Interfaces.read (Content.lines (.ok table)) =
      .ok [("b", ⟨⟨1, 2, 3, 4⟩, ⟨5, 6, 7, 8⟩⟩), ("a", ⟨⟨8, 7, 6, 5⟩, ⟨4, 3, 2, 1⟩⟩)] := by
    decide +kernel
  have hfound : host.interfaces ⟨"+07"⟩ = .ok found :=
    (hseventh _).2 (.interfaces hseven hthere hopened hread)
  obtain ⟨-, -, hrecords⟩ := htable _ _ hseven hthere hopened
  obtain ⟨-, -, -, hlast⟩ := hrecords _ hfound
  exact ⟨⟨hfound, hlast⟩,
    (heighth _).2 (.badTable height (by decide +kernel) hopened₈ (by decide +kernel)),
    (hinvalid _).2 (.invalidId hlarge), (hany broken _).2 (.inl ⟨_, rfl, rfl⟩)⟩

end Workmeter.Network
