/-
  Workmeter — who is asked in a round.

  The host is asked first and once, and what it says decides about the rest: if it
  tells its usage, every workload registered at the start is asked once; if it fails
  or breaks down, nobody else is asked, and nothing happens but what was requested
  while it was asked.

  * `calls_play`: the steps of a round ask the workloads that they measure, in this
    order, and never the host;
  * `calls_runWith_of_value`, `runWith_of_report`: the two courses of a round of
    registered workloads;
  * `count_hostUsage_runWith`, `calls_runWith_eq_nil_iff`: the host is asked once, and
    nobody if no workload is registered;
  * `host_decides`: all of it, for any hub and whoever is asked.
-/
import Workmeter.Proofs.Round.History

namespace Workmeter

/-- The workload that is asked for its counters. -/
def Call.workload? : Call → Option WorkloadId
  | .stats id => some id
  | .hostUsage | .interfaces _ => none

namespace Round

variable {σ : Type} {sources : Sources σ} {usage : UInt64} {order : List Task → List Move}
  {state : σ} {hub : Hub Sample}

/-! ## The steps -/

theorem calls_measure (sources : Sources σ) (usage : UInt64) (task : Task) (r : Round σ) :
    ∃ sandbox? : Option SandboxId, (r.measure sources usage task).calls =
      r.calls ++ .stats task.1 :: sandbox?.toList.map .interfaces := by
  obtain ⟨id, k⟩ := task
  simp only [measure]
  obtain ⟨⟨outcome, state⟩, hub⟩ := (sources.stats id r.state).run r.hub
  cases outcome with
  | crash text => exact ⟨none, rfl⟩
  | failure cause => cases cause <;> exact ⟨none, rfl⟩
  | value stats =>
    cases sources.sandbox id state with
    | none => exact ⟨none, rfl⟩
    | some sandbox =>
      refine ⟨some sandbox, ?_⟩
      cases hi : sources.interfaces sandbox state <;> simp [deliver, result, report, call, hi]

theorem calls_settle (task : Task) (r : Round σ) : (r.settle task).calls = r.calls := by
  simp only [settle]
  split
  · split <;> rfl
  · rfl
  · rfl

theorem calls_step (sources : Sources σ) (usage : UInt64) (r : Round σ) (m : Move) :
    ∃ later, (r.step sources usage m).calls = r.calls ++ later ∧ .hostUsage ∉ later ∧
      later.filterMap Call.workload? = measured [m] := by
  cases m with
  | settle task => exact ⟨[], by rw [step, calls_settle, List.append_nil], List.not_mem_nil, rfl⟩
  | measure task =>
    obtain ⟨sandbox?, hcalls⟩ := calls_measure sources usage task r
    refine ⟨_, hcalls, by simp, ?_⟩
    cases sandbox? <;> rfl

/-- **The steps of a round** ask the workloads that they measure. -/
theorem calls_play (sources : Sources σ) (usage : UInt64) (r : Round σ) (moves : List Move) :
    ∃ later, (r.play sources usage moves).calls = r.calls ++ later ∧ .hostUsage ∉ later ∧
      later.filterMap Call.workload? = measured moves := by
  induction moves generalizing r with
  | nil => exact ⟨[], (List.append_nil _).symm, List.not_mem_nil, rfl⟩
  | cons m moves ih =>
    obtain ⟨later, hcalls, hhost, hasked⟩ := calls_step sources usage r m
    obtain ⟨rest, hcalls', hhost', hasked'⟩ := ih (r.step sources usage m)
    refine ⟨later ++ rest, ?_, by simp [hhost, hhost'], ?_⟩
    · rw [← List.append_assoc, ← hcalls]; exact hcalls'
    · rw [List.filterMap_append, hasked, hasked', ← measured_cons]

/-! ## A whole round -/

/-- A host that tells its usage is followed by the workloads. -/
theorem calls_runWith_of_value (order : List Task → List Move) (hn : hub.entries ≠ [])
    (hv : hostAnswer sources state hub = .value usage) :
    ∃ later, (runWith order sources state hub).calls = .hostUsage :: later ∧ .hostUsage ∉ later ∧
      later.filterMap Call.workload? = measured (order hub.entries) := by
  obtain ⟨later, hcalls, hlater⟩ :=
    calls_play sources usage (begun sources state hub) (order hub.entries)
  exact ⟨later, by rw [runWith_of_value hn hv]; exact hcalls, hlater⟩

/-- The report about a host that tells no usage. -/
def hostReport? : Outcome HostCpu.Fault UInt64 → Option Event
  | .value _ => none
  | .failure cause => some (.hostFailed cause)
  | .crash text => some (.hostCrashed text)

theorem level_of_hostReport? {answer : Outcome HostCpu.Fault UInt64} {e : Event}
    (he : hostReport? answer = some e) : e.level = .error := by
  cases answer <;> cases he <;> rfl

theorem exists_hostReport? {answer : Outcome HostCpu.Fault UInt64}
    (ha : ∀ usage, answer ≠ .value usage) : ∃ e, hostReport? answer = some e := by
  cases answer with
  | value usage => exact absurd rfl (ha usage)
  | failure cause => exact ⟨_, rfl⟩
  | crash text => exact ⟨_, rfl⟩

/-- A host that tells no usage ends the round. -/
theorem runWith_of_report {e : Event} (hn : hub.entries ≠ [])
    (he : hostReport? (hostAnswer sources state hub) = some e) :
    runWith order sources state hub = (begun sources state hub).report e := by
  cases ha : hostAnswer sources state hub <;> rw [ha] at he <;> cases he
  · exact runWith_of_failure hn ha
  · exact runWith_of_crash hn ha

/-- The host is asked once, unless no workload is registered. -/
theorem count_hostUsage_runWith (order : List Task → List Move) (sources : Sources σ) (state : σ)
    (hub : Hub Sample) :
    (runWith order sources state hub).calls.count .hostUsage =
      if hub.entries.isEmpty then 0 else 1 := by
  by_cases hn : hub.entries = []
  · rw [runWith_of_nil hn, hn]; rfl
  · rw [List.isEmpty_eq_false_iff.2 hn]
    cases he : hostReport? (hostAnswer sources state hub) with
    | some e => rw [runWith_of_report hn he]; rfl
    | none =>
      cases hv : hostAnswer sources state hub <;> rw [hv] at he <;> cases he
      obtain ⟨later, hcalls, hhost, -⟩ := calls_runWith_of_value order hn hv
      rw [hcalls, List.count_cons_self, List.count_eq_zero.2 hhost]; rfl

/-- Somebody is asked in a round unless no workload is registered. -/
theorem calls_runWith_eq_nil_iff (order : List Task → List Move) (sources : Sources σ) (state : σ)
    (hub : Hub Sample) : (runWith order sources state hub).calls = [] ↔ hub.isEmpty := by
  have hcount := count_hostUsage_runWith order sources state hub
  constructor
  · intro hcalls
    rw [hcalls] at hcount
    by_contra hne
    rw [if_neg (show ¬ hub.entries.isEmpty = true from hne)] at hcount
    cases hcount
  · intro hempty
    rw [runWith_of_nil (List.isEmpty_iff.1 hempty)]

/-- **The host decides about a round**: if it does not tell its usage, nobody else is asked, one
    error is reported, and the hub is as the host left it. -/
theorem host_decides (order : Order) (sources : Sources σ) (state : σ) (hub : Hub Sample) :
    let round := runWith order.moves sources state hub
    let answer := hostAnswer sources state hub
    let asked := (sources.hostUsage state).run hub
    let requests := (sources.hostUsage state).actions hub
    (hub.isEmpty → round = { hub, state }) ∧
    (¬ hub.isEmpty → ∀ usage, answer = .value usage →
      ∃ later, round.calls = .hostUsage :: later ∧ .hostUsage ∉ later ∧
        (later.filterMap Call.workload?).Perm hub.names) ∧
    (¬ hub.isEmpty → (∀ usage, answer ≠ .value usage) →
      ∃ e, hostReport? answer = some e ∧ e.level = .error ∧
        round =
          { hub := asked.2, state := asked.1.2, calls := [.hostUsage], events := [e], results := [] } ∧
        asked.2 = hub.play requests ∧ (∀ a ∈ requests, a.isRequest) ∧
        ∀ s, round.hub.inbox s = hub.inbox s) := by
  intro round answer asked requests
  have hne : ¬ hub.isEmpty → hub.entries ≠ [] := fun h => mt List.isEmpty_iff.2 h
  refine ⟨fun hempty => runWith_of_nil (List.isEmpty_iff.1 hempty), fun h usage hv => ?_,
    fun h ha => ?_⟩
  · obtain ⟨later, hcalls, hhost, hasked⟩ := calls_runWith_of_value order.moves (hne h) hv
    exact ⟨later, hcalls, hhost, hasked ▸ measured_perm order hub.entries⟩
  · obtain ⟨e, he⟩ := exists_hostReport? ha
    have hround : round = (begun sources state hub).report e := runWith_of_report (hne h) he
    have hrequests : ∀ a ∈ requests, a.isRequest := fun a => Inquiry.isRequest_of_mem
    refine ⟨e, he, level_of_hostReport? he, hround, (Inquiry.play_actions _ _).symm, hrequests,
      fun s => ?_⟩
    have hplay : round.hub = hub.play requests := by rw [hround]; exact hub_begun sources state hub
    rw [hplay, Hub.inbox_play_of_isQuiet fun a ha => Hub.Action.isQuiet_of_isRequest (hrequests a ha)]

/-- The host lets somebody subscribe to `db` and breaks down.  The reader of `web` has
    let go with a sample unread; it is not found, and `db` stays registered. -/
theorem host_decides_of_crash :
    let web : WorkloadId := ⟨"web", by decide, by decide⟩
    let db : WorkloadId := ⟨"db", by decide, by decide⟩
    let operations : List Operation := [.act (.subscribe web),
      .act (.publish ⟨0⟩ ⟨web, {}, 7, []⟩), .act (.letGo ⟨⟨0⟩, ⟨1⟩⟩)]
    let sources : Sources Nat :=
      { hostUsage := fun n => .subscribe db fun _ => .answer (.crash "overheated", n + 1)
        stats := fun _ n => .answer (.value {}, n)
        sandbox := fun _ _ => none, interfaces := fun _ _ => .value [] }
    let hub := Hub.after {} operations
    let round := runWith Order.inTurn.moves sources 0 hub
    ¬ hub.isEmpty ∧ (∀ usage, hostAnswer sources 0 hub ≠ .value usage) ∧
      round.calls = [.hostUsage] ∧ round.events = [.hostCrashed "overheated"] ∧
      round.state = 1 ∧ round.hub.registered db = some ⟨1⟩ ∧ round.hub.contains ⟨0⟩ ⟨1⟩ ∧
      round.hub.inbox ⟨⟨0⟩, ⟨1⟩⟩ = hub.inbox ⟨⟨0⟩, ⟨1⟩⟩ ∧ hub.unread ⟨⟨0⟩, ⟨1⟩⟩ = 1 ∧
      runWith Order.inTurn.moves sources 0 {} = { hub := {}, state := 0 } := by
  intro web db operations sources hub round
  have hn : ¬ hub.isEmpty := by decide
  have ha : ∀ usage, hostAnswer sources 0 hub ≠ .value usage := nofun
  obtain ⟨-, -, hfailed⟩ := host_decides .inTurn sources 0 hub
  obtain ⟨e, he, -, hround, -, -, hinbox⟩ := hfailed hn ha
  obtain rfl : e = .hostCrashed "overheated" := (Option.some.inj he).symm
  obtain ⟨hidle, -⟩ := host_decides .inTurn sources 0 {}
  refine ⟨hn, ha, congrArg (·.calls) hround, congrArg (·.events) hround, congrArg (·.state) hround,
    by decide, by decide, hinbox _, by decide, hidle rfl⟩

end Round

end Workmeter
