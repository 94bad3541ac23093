/-
  Workmeter — what goes wrong with one workload stays there.

  Two rounds of one hub may go differently for all workloads but one: they are not
  running, cannot be measured, break down, or give other samples.  If the host tells
  the same and the same is said about this one workload, the rounds leave it the same.

  * `Round.told`: what is said about a workload when it is asked (`sample?_eq_told`:
    this decides about its sample);
  * `Hub.SameFor`: two hubs have come to the same for a workload and its readers;
  * `same_as_services`: what a round makes of a workload is made of what is said about it;
  * `same_of_told`: two rounds in which the same is said;
  * `others_do_not_matter`: for any history of the hub, and whoever is asked.
-/
import Workmeter.Proofs.Hub.Receipts
import Workmeter.Proofs.Round.Locality

namespace Workmeter

/-! ## What is said about a workload -/

/-- The counters of a workload, its sandbox, and the interfaces of this sandbox. -/
structure Told where
  stats : Outcome WorkloadFault WorkloadStats
  sandbox : Option (SandboxId × Outcome SandboxFault (List Interface))

/-- The interfaces that go with the sample, unless the one who is asked breaks down. -/
def Told.interfaces? (t : Told) : Option (List Interface) :=
  match t.sandbox with
  | some (_, .value interfaces) => some interfaces
  | some (_, .crash _) => none
  | some (_, .failure _) | none => some []

/-- The sample that is made of it. -/
def Told.sample? (t : Told) (usage : UInt64) (id : WorkloadId) : Option Sample :=
  match t.stats with
  | .value stats => t.interfaces?.map (⟨id, stats, usage, ·⟩)
  | .failure _ | .crash _ => none

namespace Round

variable {σ τ : Type} {sources : Sources σ} {sources' : Sources τ} {usage : UInt64}
  {id : WorkloadId} {k : FeedId} {hub : Hub Sample}

/-- What is said about a workload if it is asked now. -/
def told (sources : Sources σ) (id : WorkloadId) (r : Round σ) : Told :=
  let (stats, state) := (r.ask sources id).1
  { stats, sandbox := (sources.sandbox id state).map fun s => (s, sources.interfaces s state) }

theorem sample?_eq_told (r : Round σ) :
    r.sample? sources usage id = (r.told sources id).sample? usage id := by
  unfold sample? told
  obtain ⟨⟨outcome, state⟩, hub⟩ := r.ask sources id
  cases outcome with
  | failure | crash => rfl
  | value stats =>
    simp only [interfaces?, Told.sample?, Told.interfaces?]
    cases sources.sandbox id state with
    | none => rfl
    | some sandbox =>
      simp only [Option.map_some]
      cases sources.interfaces sandbox state <;> rfl

theorem told_answers (answers : Answers) (id : WorkloadId) (r : Round Unit) :
    r.told answers.sources id =
      ⟨answers.stats id, (answers.sandbox id).map fun s => (s, answers.interfaces s)⟩ := rfl

end Round

/-! ## The same for one workload -/

/-- The workload is registered in both hubs alike, the feed delivers to the same
    subscriptions, and their readers can receive the same. -/
structure Hub.SameFor {α : Type} (id : WorkloadId) (k : FeedId) (h h' : Hub α) : Prop where
  registered : h.registered id = h'.registered id
  feed : h.feed? k = h'.feed? k
  contains : ∀ t, h.contains k t = h'.contains k t
  receipts : ∀ t, (h.receiveAll ⟨k, t⟩).1 = (h'.receiveAll ⟨k, t⟩).1

theorem Hub.sameFor_of_feed? {α : Type} {id : WorkloadId} {k : FeedId} {h h' : Hub α}
    (hr : h.registered id = h'.registered id) (hf : h.feed? k = h'.feed? k) : SameFor id k h h' where
  registered := hr
  feed := hf
  contains t := by rw [Hub.contains, Hub.contains, hf]
  receipts t := receiveAll_congr hf

theorem Hub.SameFor.symm {α : Type} {id : WorkloadId} {k : FeedId} {h h' : Hub α}
    (hs : SameFor id k h h') : SameFor id k h' h :=
  sameFor_of_feed? hs.registered.symm hs.feed.symm

theorem Hub.SameFor.trans {α : Type} {id : WorkloadId} {k : FeedId} {h h' h'' : Hub α}
    (hs : SameFor id k h h') (hs' : SameFor id k h' h'') : SameFor id k h h'' :=
  sameFor_of_feed? (hs.registered.trans hs'.registered) (hs.feed.trans hs'.feed)

namespace Round

variable {σ τ : Type} {sources : Sources σ} {sources' : Sources τ} {usage : UInt64}
  {id : WorkloadId} {k : FeedId} {hub : Hub Sample}

/-- **A round** comes to the same for a workload as the publication of the sample that
    is made of what is said about it, and the release that may follow. -/
theorem same_as_services (hs : sources.Silent) (hc : hub.Coherent) {order : Order} {state : σ}
    (hv : hostAnswer sources state hub = .value usage) {before after : List Move}
    (he : order.moves hub.entries = before ++ .measure (id, k) :: after) :
    let told := ((begun sources state hub).play sources usage before).told sources id
    Hub.SameFor id k (runWith order.moves sources state hub).hub
      (hub.play (hub.services (id, k) (told.sample? usage id))) := by
  intro told
  obtain ⟨hreg, hfeed⟩ := served_runWith hs hc hv he
  rw [sample?_eq_told] at hreg hfeed
  exact Hub.sameFor_of_feed? hreg hfeed

/-- **Two rounds** in which the host tells the same usage, if any, and the same is said
    about a workload when its turn comes. -/
theorem same_of_told (hs : sources.Silent) (hs' : sources'.Silent) (hc : hub.Coherent)
    (hid : hub.registered id = some k) {order order' : Order} {state : σ} {state' : τ}
    (hhost : ∀ usage, hostAnswer sources state hub = .value usage ↔
      hostAnswer sources' state' hub = .value usage)
    (htold : ∀ usage before after before' after', hostAnswer sources state hub = .value usage →
      order.moves hub.entries = before ++ .measure (id, k) :: after →
      order'.moves hub.entries = before' ++ .measure (id, k) :: after' →
      ((begun sources state hub).play sources usage before).told sources id =
        ((begun sources' state' hub).play sources' usage before').told sources' id) :
    Hub.SameFor id k (runWith order.moves sources state hub).hub
      (runWith order'.moves sources' state' hub).hub := by
  by_cases hv : ∃ usage, hostAnswer sources state hub = .value usage
  · obtain ⟨usage, hv⟩ := hv
    have hmem : (id, k) ∈ hub.entries := (Hub.mem_entries_iff hc.names_nodup).2 hid
    obtain ⟨before, after, he⟩ := List.append_of_mem ((measure_mem_iff order _ _).2 hmem)
    obtain ⟨before', after', he'⟩ := List.append_of_mem ((measure_mem_iff order' _ _).2 hmem)
    have hserved := same_as_services hs hc hv he
    have hserved' := same_as_services hs' hc ((hhost usage).1 hv) he'
    rw [htold usage before after before' after' hv he he'] at hserved
    exact hserved.trans hserved'.symm
  · have hnone : ∀ usage, hostAnswer sources state hub ≠ .value usage := fun u h => hv ⟨u, h⟩
    have hnone' : ∀ usage, hostAnswer sources' state' hub ≠ .value usage :=
      fun u h => hnone u ((hhost u).2 h)
    rw [hub_runWith_of_silent hs hnone, hub_runWith_of_silent hs' hnone']
    exact Hub.sameFor_of_feed? rfl rfl

/-- **What happens to the other workloads does not matter**: the usage of the host and what is
    said about a workload decide what becomes of it in a round. -/
theorem others_do_not_matter (buffer : Nat) (operations : List Operation) (id : WorkloadId)
    (k : FeedId) :
    let hub := Hub.after { buffer } operations
    hub.registered id = some k →
    (∀ {σ : Type} (sources : Sources σ) (order : Order) (state : σ) usage before after,
      sources.Silent → hostAnswer sources state hub = .value usage →
      order.moves hub.entries = before ++ .measure (id, k) :: after →
      let told := ((begun sources state hub).play sources usage before).told sources id
      Hub.SameFor id k (runWith order.moves sources state hub).hub
        (hub.play (hub.services (id, k) (told.sample? usage id)))) ∧
    (∀ {σ τ : Type} (sources : Sources σ) (sources' : Sources τ) (order order' : Order)
        (state : σ) (state' : τ),
      sources.Silent → sources'.Silent →
      (∀ usage, hostAnswer sources state hub = .value usage ↔
        hostAnswer sources' state' hub = .value usage) →
      (∀ usage before after before' after', hostAnswer sources state hub = .value usage →
        order.moves hub.entries = before ++ .measure (id, k) :: after →
        order'.moves hub.entries = before' ++ .measure (id, k) :: after' →
        ((begun sources state hub).play sources usage before).told sources id =
          ((begun sources' state' hub).play sources' usage before').told sources' id) →
      Hub.SameFor id k (runWith order.moves sources state hub).hub
        (runWith order'.moves sources' state' hub).hub) ∧
    ∀ (answers answers' : Answers) (order order' : Order),
      answers.hostUsage = answers'.hostUsage → answers.stats id = answers'.stats id →
      answers.sandbox id = answers'.sandbox id →
      (∀ sandbox ∈ answers.sandbox id,
        answers.interfaces sandbox = answers'.interfaces sandbox) →
      Hub.SameFor id k (runWith order.moves answers.sources () hub).hub
        (runWith order'.moves answers'.sources () hub).hub := by
  intro hub hid
  have hc : hub.Coherent := Hub.coherent_after buffer operations
  refine ⟨fun sources order state usage before after hs hv he => same_as_services hs hc hv he,
    fun sources sources' order order' state state' hs hs' hhost htold =>
    same_of_told hs hs' hc hid hhost htold,
    fun answers answers' order order' hhost hstats hsandbox hinterfaces =>
      same_of_told answers.silent answers'.silent hc hid (fun usage => ?_)
        fun usage before after before' after' _ _ _ => ?_⟩
  · show answers.hostUsage = _ ↔ answers'.hostUsage = _
    rw [hhost]
  · rw [told_answers, told_answers, hstats, ← hsandbox]
    refine congrArg _ (Option.map_congr fun sandbox hs => ?_)
    rw [hinterfaces sandbox hs]

/-- In one round `db` breaks down, in the other one it is released; the reader of `web` receives
    the same, also if those who are asked count the questions. -/
theorem others_do_not_matter_of_crash :
    let web : WorkloadId := ⟨"web", by decide, by decide⟩
    let db : WorkloadId := ⟨"db", by decide, by decide⟩
    let operations : List Operation :=
      [.act (.subscribe db), .act (.letGo ⟨⟨0⟩, ⟨1⟩⟩), .act (.subscribe web),
        .act (.subscribe web), .act (.letGo ⟨⟨1⟩, ⟨3⟩⟩)]
    let answers : Answers :=
      { hostUsage := .value 7, stats := fun _ => .value {}
        sandbox := fun _ => none, interfaces := fun _ => .value [] }
    let broken : Answers :=
      { answers with stats := fun id => if id = db then .crash "gone" else .value {} }
    let counting : Sources Nat :=
      { hostUsage := fun n => .answer (.value 7, n + 1)
        stats := fun id n => .answer (broken.stats id, n + 1)
        sandbox := fun _ _ => none, interfaces := fun _ _ => .value [] }
    let hub := Hub.after {} operations
    let round := runWith Order.inTurn.moves answers.sources () hub
    let round' := runWith Order.inTurn.moves broken.sources () hub
    let counted := runWith Order.inTurn.moves counting 0 hub
    hub.registered web = some ⟨1⟩ ∧ Hub.SameFor web ⟨1⟩ round.hub round'.hub ∧
      Hub.SameFor web ⟨1⟩ round.hub counted.hub ∧
      Hub.SameFor web ⟨1⟩ round'.hub
        (hub.play (hub.services (web, ⟨1⟩) (some ⟨web, {}, 7, []⟩))) ∧
      round.hub.registered db = none ∧ round'.hub.registered db = some ⟨0⟩ ∧
      (round.hub.receiveAll ⟨⟨1⟩, ⟨2⟩⟩).1.items = [⟨web, {}, 7, []⟩] ∧
      ¬ round.hub.contains ⟨1⟩ ⟨3⟩ ∧ counted.state = 3 := by
  intro web db operations answers broken counting hub round round' counted
  have hid : hub.registered web = some ⟨1⟩ := by decide
  obtain ⟨hserved, hsources, hanswers⟩ := others_do_not_matter defaultBuffer operations web ⟨1⟩ hid
  have hsame : Hub.SameFor web ⟨1⟩ round.hub round'.hub :=
    hanswers answers broken .inTurn .inTurn rfl rfl rfl nofun
  have hcounted : Hub.SameFor web ⟨1⟩ round.hub counted.hub :=
    hsources answers.sources counting .inTurn .inTurn () 0 answers.silent
      ⟨fun _ => ⟨_, rfl⟩, fun _ _ => ⟨_, rfl⟩⟩ (fun _ => Iff.rfl) fun _ _ _ _ _ _ _ _ => rfl
  have hsample : Hub.SameFor web ⟨1⟩ round'.hub
      (hub.play (hub.services (web, ⟨1⟩) (some ⟨web, {}, 7, []⟩))) :=
    hserved broken.sources .inTurn () 7 [.measure (db, ⟨0⟩)]
      [.settle (db, ⟨0⟩), .settle (web, ⟨1⟩)] broken.silent rfl rfl
  exact ⟨hid, hsame, hcounted, hsample, by decide, by decide, by decide +kernel, by decide, by decide⟩

end Round

end Workmeter
