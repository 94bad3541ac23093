/-
  Workmeter — workloads that are read no more.

  A reader who lets a subscription go tells nobody; only a publication finds it.  So a
  workload that nobody reads any more is released by a round that publishes a sample
  of it, and by no other: as long as it is not running, or cannot be measured, it
  stays registered and is asked for again in every round.

  * `Hub.Abandoned`: nobody reads a registered workload;
  * `Hub.registered_services_of_letGo`: a sample of it releases the workload;
  * `registered_runWith`: what a round makes of its registration;
  * `released_if_sampled`: the registrations after a round.
-/
import Workmeter.Proofs.Hub.Publication
import Workmeter.Proofs.Round.Locality

namespace Workmeter

namespace Hub

variable {α : Type} {h : Hub α} {k : FeedId}

/-- Every subscription that a registered feed delivers to was let go. -/
def Abandoned (h : Hub α) : Prop :=
  ∀ id k t, h.registered id = some k → h.contains k t → h.holds ⟨k, t⟩ = false

theorem abandoned_of_streams (hl : ∀ e ∈ h.entries, ∀ f ∈ h.feed? e.2, ∀ p ∈ f.streams,
    p.2.attached → p.2.held = false) : h.Abandoned := by
  intro id k t hid hs
  obtain ⟨st, hst, hat⟩ := contains_iff.1 hs
  obtain ⟨f, hf, hft⟩ := Option.bind_eq_some_iff.1 hst
  obtain ⟨before, after, he, -⟩ := List.lookup_eq_some_iff.1 hid
  have hmem : (id, k) ∈ h.entries := by rw [he]; simp
  rw [holds, hst, Option.any_some]
  exact hl _ hmem f hf _ (Feed.mem_streams_of_stream? hft) hat

/-- **A sample of a workload that nobody reads** releases it. -/
theorem registered_services_of_letGo (hc : h.Coherent) {id : WorkloadId}
    (hid : h.registered id = some k) (hl : ∀ t, h.contains k t → h.holds ⟨k, t⟩ = false)
    (x : Option α) :
    (h.play (h.services (id, k) x)).registered id = if x.isSome then none else some k := by
  cases x with
  | none => exact hid
  | some x =>
    have hidle : (h.publish k x).2.isIdle k := (isIdle_publish_iff hc k x).2 hl
    exact (registered_services hid x).trans (if_pos hidle)

end Hub

namespace Round

variable {σ : Type} {sources : Sources σ} {usage : UInt64} {id : WorkloadId} {k : FeedId}

theorem registered_runWith (hs : sources.Silent) {hub : Hub Sample} (hc : hub.Coherent)
    (hab : hub.Abandoned) {order : Order} {state : σ}
    (hv : hostAnswer sources state hub = .value usage) {before after : List Move}
    (he : order.moves hub.entries = before ++ .measure (id, k) :: after) :
    (runWith order.moves sources state hub).hub.registered id =
      if (((begun sources state hub).play sources usage before).sample? sources usage id).isSome
      then none else some k := by
  have hmem : (id, k) ∈ hub.entries := (measure_mem_iff order _ _).1 (by rw [he]; simp)
  have hid : hub.registered id = some k := (Hub.mem_entries_iff hc.names_nodup).1 hmem
  exact (served_runWith hs hc hv he).1.trans
    (Hub.registered_services_of_letGo hc hid (fun t => hab id k t hid) _)

/-- **A workload that nobody reads is released if it gives a sample**; if there is one that
    gives none, the next round asks again. -/
theorem released_if_sampled (buffer : Nat) (operations : List Operation) (order : Order)
    (hs : sources.Silent) (state : σ) (usage : UInt64) :
    let hub := Hub.after { buffer } operations
    let start := begun sources state hub
    let final := (runWith order.moves sources state hub).hub
    hostAnswer sources state hub = .value usage → hub.Abandoned →
    (∀ before id k after, order.moves hub.entries = before ++ .measure (id, k) :: after →
      final.registered id =
        if ((start.play sources usage before).sample? sources usage id).isSome then none
        else some k) ∧
    (∀ id, hub.registered id = none → final.registered id = none) ∧
    (final.isEmpty ↔
      ∀ before id k after, order.moves hub.entries = before ++ .measure (id, k) :: after →
        ((start.play sources usage before).sample? sources usage id).isSome) ∧
    ∀ {τ : Type} (order' : Order) (sources' : Sources τ) (state' : τ),
      (runWith order'.moves sources' state' final).calls = [] ↔ final.isEmpty := by
  intro hub start final hv hab
  have hc : hub.Coherent := Hub.coherent_after buffer operations
  have hwithin : final.Within hub := within_runWith hs order.moves hv
  have hnames : final.names.Nodup := hwithin.names_nodup hc.names_nodup
  have hsteps : ∀ before id k after,
      order.moves hub.entries = before ++ .measure (id, k) :: after → final.registered id = _ :=
    fun before id k after he => registered_runWith hs hc hab hv he
  refine ⟨hsteps, fun id hid => ?_, ⟨fun hempty before id k after he => ?_, fun hall => ?_⟩, ?_⟩
  · cases hf : final.registered id with
    | none => rfl
    | some k => rw [hwithin.registered hc.names_nodup hf] at hid; cases hid
  · have hnone : final.registered id = none := by
      unfold Hub.registered
      rw [List.isEmpty_iff.1 hempty]; rfl
    by_contra hx
    have hreg := hsteps before id k after he
    rw [if_neg hx, hnone] at hreg
    cases hreg
  · refine List.isEmpty_iff.2 (List.eq_nil_iff_forall_not_mem.2 fun e he => ?_)
    have hmem : .measure e ∈ order.moves hub.entries :=
      (measure_mem_iff order _ _).2 (hwithin.entries.subset he)
    obtain ⟨before, after, hsplit⟩ := List.append_of_mem hmem
    have hreg := hsteps before e.1 e.2 after hsplit
    rw [if_pos (hall before e.1 e.2 after hsplit), (Hub.mem_entries_iff hnames).1 he] at hreg
    cases hreg
  · intro τ order' sources' state'
    exact calls_runWith_eq_nil_iff order'.moves sources' state' final

/-- The readers of `web` and `db` let go; `db` is not running, so it stays, and is asked for once
    more. -/
theorem released_if_sampled_of_two :
    let web : WorkloadId := ⟨"web", by decide, by decide⟩
    let db : WorkloadId := ⟨"db", by decide, by decide⟩
    let operations : List Operation := [.act (.subscribe web), .act (.subscribe db),
      .act (.letGo ⟨⟨0⟩, ⟨1⟩⟩), .act (.letGo ⟨⟨1⟩, ⟨2⟩⟩)]
    let answers : Answers :=
      { hostUsage := .value 7
        stats := fun id => if id = web then .value {} else .failure (.notRunning id)
        sandbox := fun _ => none, interfaces := fun _ => .value [] }
    let hub := Hub.after {} operations
    let round := fun hub => runWith Order.inTurn.moves answers.sources () hub
    let final := (round hub).hub
    hostAnswer answers.sources () hub = .value 7 ∧ hub.Abandoned ∧
      final.registered web = none ∧ final.registered db = some ⟨1⟩ ∧
      (round final).calls ≠ [] := by
  intro web db operations answers hub round final
  have hv : hostAnswer answers.sources () hub = .value 7 := rfl
  have hab : hub.Abandoned := Hub.abandoned_of_streams (by decide)
  obtain ⟨hreg, -, -, hnext⟩ :=
    released_if_sampled defaultBuffer operations .inTurn answers.silent () 7 hv hab
  have hweb : final.registered web = none :=
    (hreg [] web ⟨0⟩ [.measure (db, ⟨1⟩), .settle (web, ⟨0⟩), .settle (db, ⟨1⟩)] rfl).trans
      (if_pos rfl)
  have hdb : final.registered db = some ⟨1⟩ :=
    (hreg [.measure (web, ⟨0⟩)] db ⟨1⟩ [.settle (web, ⟨0⟩), .settle (db, ⟨1⟩)] rfl).trans
      (if_neg (by decide))
  have hstays : ¬ final.isEmpty := by
    intro hempty
    rw [Hub.registered, List.isEmpty_iff.1 hempty] at hdb
    cases hdb
  exact ⟨hv, hab, hweb, hdb, mt (hnext .inTurn answers.sources ()).1 hstays⟩

/-- A workload that is not running stays registered when nobody reads it any more, and
    the next round asks the host and the workload. -/
theorem not_released_of_not_running :
    let web : WorkloadId := ⟨"web", by decide, by decide⟩
    let operations : List Operation := [.act (.subscribe web), .act (.letGo ⟨⟨0⟩, ⟨1⟩⟩)]
    let answers : Answers :=
      { hostUsage := .value 7, stats := fun id => .failure (.notRunning id)
        sandbox := fun _ => none, interfaces := fun _ => .value [] }
    let hub := Hub.after {} operations
    let final := (run answers.sources () hub).hub
    hostAnswer answers.sources () hub = .value 7 ∧ hub.Abandoned ∧ ¬ final.isEmpty ∧
      final.registered web = some ⟨0⟩ ∧
      (run answers.sources () final).calls = [.hostUsage, .stats web] := by
  intro web operations answers hub final
  exact ⟨rfl, Hub.abandoned_of_streams (by decide), by decide, by decide, by decide⟩

end Round

end Workmeter
