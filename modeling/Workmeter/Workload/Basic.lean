/-
  Workmeter — the names of what is monitored.

  * `WorkloadId`: a monitored workload, a text of 1 to 255 bytes
    (`WorkloadId.ofString`); equal texts name the same workload;
  * `SandboxId`: the network namespace that a workload is attached to.
-/

namespace Workmeter

/-- The most bytes a workload id may have. -/
def workloadIdLimit : Nat := 255

/-- The name of a monitored workload. -/
structure WorkloadId where
  name : String
  nonempty : name ≠ ""
  short : name.utf8ByteSize ≤ workloadIdLimit
  deriving DecidableEq

/-- A text that names no workload. -/
structure WorkloadId.Fault where
  text : String
  deriving DecidableEq, Repr

/-- The wording of a refused id. -/
def WorkloadId.Fault.message (f : WorkloadId.Fault) : String :=
  s!"invalid workload id `{f.text}`"

/-- The workload of that name. -/
def WorkloadId.ofString (s : String) : Except WorkloadId.Fault WorkloadId :=
  if h : s ≠ "" ∧ s.utf8ByteSize ≤ workloadIdLimit then .ok ⟨s, h.1, h.2⟩ else .error ⟨s⟩

theorem WorkloadId.ofString_eq_ok_iff {s : String} {id : WorkloadId} :
    WorkloadId.ofString s = .ok id ↔ id.name = s := by
  unfold ofString
  constructor
  · intro h
    split at h
    · cases h; rfl
    · cases h
  · rintro rfl
    simp [id.nonempty, id.short]

/-- The name of a network namespace. -/
structure SandboxId where
  name : String
  deriving DecidableEq, Repr

end Workmeter
