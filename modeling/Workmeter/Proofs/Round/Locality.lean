/-
  Workmeter — the workloads of a round, each by itself.

  As long as those who are asked turn to the hub for nothing, a step of a round is
  about its own workload and feed only.

  * `Sources.Silent`: nobody who is asked turns to the hub; answers that are given at
    once come from such sources;
  * `Round.serves_of_mem_actionsOf`: then a step serves the workload that it is about;
  * `Round.within_steps`: a round releases some workloads, and makes nothing;
  * `Round.Agree`: two rounds have come to the same for a workload and its feed;
  * `agree_play`: the steps of other workloads make no difference;
  * `Order.exists_settle`, `Order.filter_task`: in every order a workload is measured
    once and then settled once;
  * `hub_measure_settle`, `served_runWith`: so a round publishes the sample of a
    workload, and releases it if that reached nobody.
-/
import Workmeter.Proofs.Hub.Service
import Workmeter.Proofs.Round.Calls
import Workmeter.Proofs.Round.Registration

namespace Workmeter

variable {σ : Type}

/-- Nobody who is asked turns to the hub. -/
structure Sources.Silent (sources : Sources σ) : Prop where
  hostUsage : ∀ state, ∃ a, sources.hostUsage state = .answer a
  stats : ∀ id state, ∃ a, sources.stats id state = .answer a

theorem Answers.silent (a : Answers) : a.sources.Silent where
  hostUsage _ := ⟨_, rfl⟩
  stats _ _ := ⟨_, rfl⟩

/-- The workload and the feed that a step is about. -/
def Move.task : Move → Task
  | measure task | settle task => task

@[simp] theorem Move.task_measure (task : Task) : (Move.measure task).task = task := rfl

@[simp] theorem Move.task_settle (task : Task) : (Move.settle task).task = task := rfl

namespace Round

variable {sources : Sources σ} {usage : UInt64} {r r' : Round σ} {task other : Task} {m : Move}

theorem hub_ask_of_silent (hs : sources.Silent) (r : Round σ) (id : WorkloadId) :
    (r.ask sources id).2 = r.hub := by
  obtain ⟨a, ha⟩ := hs.stats id r.state
  simp only [ask, ha, Inquiry.run]

theorem hub_begun_of_silent (hs : sources.Silent) (state : σ) (hub : Hub Sample) :
    (begun sources state hub).hub = hub := by
  obtain ⟨a, ha⟩ := hs.hostUsage state
  simp only [begun, ha, Inquiry.run]

theorem serves_of_mem_releases {a : Hub.Action Sample} (ha : a ∈ r.releases task.1 task.2) :
    a.serves task := by
  unfold releases at ha
  split at ha
  · rw [List.mem_singleton.1 ha]; exact decide_eq_true rfl
  · cases ha

/-- **A step serves its own workload.** -/
theorem serves_of_mem_actionsOf (hs : sources.Silent) {a : Hub.Action Sample}
    (ha : a ∈ r.actionsOf sources usage m) : a.serves m.task := by
  cases m with
  | measure task =>
    obtain ⟨x, hx⟩ := hs.stats task.1 r.state
    simp only [actionsOf, hx, Inquiry.actions, List.nil_append] at ha
    obtain ⟨y, -, rfl⟩ := List.mem_map.1 ha
    exact decide_eq_true rfl
  | settle task => exact serves_of_mem_releases ha

/-- The steps release some workloads, and make nothing. -/
theorem within_steps (hs : sources.Silent) (r : Round σ) (moves : List Move) :
    (r.play sources usage moves).hub.Within r.hub := by
  induction moves generalizing r with
  | nil => exact .refl _
  | cons m moves ih =>
    refine (ih (r.step sources usage m)).trans ?_
    rw [hub_step]
    exact Hub.within_play fun a ha => ⟨m.task, serves_of_mem_actionsOf hs ha⟩

/-! ## One task -/

/-- The two tasks have neither the workload nor the feed in common. -/
def Apart (task other : Task) : Prop := task.1 ≠ other.1 ∧ task.2 ≠ other.2

theorem apart_of_ne {hub : Hub Sample} (hc : hub.Coherent) (ht : task ∈ hub.entries)
    (ho : other ∈ hub.entries) (hne : task ≠ other) : Apart task other := by
  have hid : hub.registered task.1 = some task.2 := (Hub.mem_entries_iff hc.names_nodup).1 ht
  have hid' : hub.registered other.1 = some other.2 := (Hub.mem_entries_iff hc.names_nodup).1 ho
  refine ⟨fun he => ?_, fun he => ?_⟩
  · rw [he, hid'] at hid
    exact hne (Prod.ext he (Option.some.inj hid).symm)
  · rw [he] at hid
    exact hne (Prod.ext (hc.registered_inj _ _ _ hid hid') he)

/-- The rounds have come to the same for a workload and its feed. -/
structure Agree (task : Task) (r r' : Round σ) : Prop where
  registered : r.hub.registered task.1 = r'.hub.registered task.1
  feed : r.hub.feed? task.2 = r'.hub.feed? task.2
  result : r.results.lookup task.1 = r'.results.lookup task.1

theorem Agree.refl (task : Task) (r : Round σ) : Agree task r r := ⟨rfl, rfl, rfl⟩

theorem Agree.symm (h : Agree task r r') : Agree task r' r :=
  ⟨h.registered.symm, h.feed.symm, h.result.symm⟩

theorem Agree.trans {r'' : Round σ} (h : Agree task r r') (h' : Agree task r' r'') :
    Agree task r r'' :=
  ⟨h.registered.trans h'.registered, h.feed.trans h'.feed, h.result.trans h'.result⟩

theorem Agree.isIdle (h : Agree task r r') : r.hub.isIdle task.2 = r'.hub.isIdle task.2 := by
  unfold Hub.isIdle; rw [h.feed]

/-- What serves another workload makes no difference. -/
theorem agree_of_serves (hap : Apart task other) {actions : List (Hub.Action Sample)}
    (ha : ∀ a ∈ actions, a.serves other) (hh : r'.hub = r.hub.play actions)
    {results : List (WorkloadId × Measured)} (hr : r'.results = r.results ++ results)
    (hn : ∀ p ∈ results, p.1 = other.1) : Agree task r' r where
  registered := by rw [hh, Hub.registered_play_of_serves ha hap.1]
  feed := by rw [hh, Hub.feed?_play_of_serves ha hap.2]
  result := by
    have hnone : results.lookup task.1 = none := by
      refine List.lookup_eq_none_iff.2 fun p hp => ?_
      rw [bne_iff_ne, hn p hp]
      exact hap.1
    rw [hr, List.lookup_append, hnone, Option.or_none]

/-- **The steps of another workload** make no difference. -/
theorem agree_step (hs : sources.Silent) (r : Round σ) (hap : Apart task m.task) :
    Agree task (r.step sources usage m) r := by
  obtain ⟨results, hr, hn⟩ := results_step sources usage r m
  refine agree_of_serves hap (fun a => serves_of_mem_actionsOf hs) (hub_step r m) hr fun p hp => ?_
  have hm : p.1 ∈ measured [m] := hn ▸ List.mem_map_of_mem hp
  cases m with
  | measure task => exact List.mem_singleton.1 hm
  | settle task => cases hm

theorem agree_play (hs : sources.Silent) (r : Round σ) {moves : List Move}
    (hap : ∀ m ∈ moves, Apart task m.task) : Agree task (r.play sources usage moves) r := by
  induction moves generalizing r with
  | nil => exact .refl task r
  | cons m moves ih =>
    have hrest : Agree task ((r.step sources usage m).play sources usage moves) _ :=
      ih (r.step sources usage m) fun n hn => hap n (by simp [hn])
    exact hrest.trans (agree_step hs r (hap m (by simp)))

/-! ## The steps of one task -/

theorem task_mem_of_mem {order : Order} {tasks : List Task} (hm : m ∈ order.moves tasks) :
    m.task ∈ tasks := by
  have hturn := (order.perm tasks).mem_iff.1 hm
  rw [inTurn, List.mem_append, List.mem_map, List.mem_map] at hturn
  rcases hturn with ⟨t, ht, rfl⟩ | ⟨t, ht, rfl⟩ <;> exact ht

theorem filter_task_inTurn {tasks : List Task} (hn : tasks.Nodup) (task : Task) :
    (inTurn tasks).filter (·.task = task) =
      if task ∈ tasks then [.measure task, .settle task] else [] := by
  have hone : tasks.filter (· = task) = if task ∈ tasks then [task] else [] := by
    rw [List.filter_eq, hn.count]; split <;> rfl
  have hmap : ∀ make : Task → Move, (∀ t, (make t).task = t) →
      (tasks.map make).filter (·.task = task) = (tasks.filter (· = task)).map make := by
    intro make hmake
    rw [List.filter_map]
    refine congrArg _ (List.filter_congr fun t _ => ?_)
    simp only [Function.comp_apply, hmake]
  rw [inTurn, List.filter_append, hmap .measure fun _ => rfl, hmap .settle fun _ => rfl, hone]
  split <;> rfl

/-- **In any order** a workload is measured, settled after that, and has no third
    step. -/
theorem Order.exists_settle (order : Order) {tasks : List Task} (hn : tasks.Nodup) {task : Task}
    {before after : List Move} (he : order.moves tasks = before ++ .measure task :: after) :
    ∃ mid rest, after = mid ++ .settle task :: rest ∧ ∀ m ∈ before ++ mid ++ rest, m.task ≠ task := by
  obtain ⟨mid, rest, rfl⟩ := List.append_of_mem (order.settled_after tasks task before after he)
  have ht : task ∈ tasks := (measure_mem_iff order tasks task).1 (by rw [he]; simp)
  have hlen : ((order.moves tasks).filter (·.task = task)).length = 2 := by
    rw [((order.perm tasks).filter _).length_eq, filter_task_inTurn hn, if_pos ht]; rfl
  have hnone : ((before ++ mid ++ rest).filter (·.task = task)).length = 0 := by
    rw [he] at hlen
    simp only [List.filter_append, List.filter_cons, Move.task_measure, Move.task_settle,
      decide_true, if_true, List.length_append, List.length_cons] at hlen ⊢
    omega
  refine ⟨mid, rest, rfl, fun m hm => ?_⟩
  simpa using List.filter_eq_nil_iff.1 (List.length_eq_zero_iff.1 hnone) m hm

/-- Between its two steps and around them there are only steps that do not concern it. -/
theorem Order.exists_settle_apart (order : Order) {hub : Hub Sample} (hc : hub.Coherent)
    {before after : List Move} (he : order.moves hub.entries = before ++ .measure task :: after) :
    ∃ mid rest, after = mid ++ .settle task :: rest ∧
      ∀ m ∈ before ++ mid ++ rest, Apart task m.task := by
  have hmem : task ∈ hub.entries := (measure_mem_iff order _ _).1 (by rw [he]; simp)
  obtain ⟨mid, rest, rfl, hne⟩ := order.exists_settle hc.names_nodup.of_map he
  refine ⟨mid, rest, rfl, fun m hm => ?_⟩
  have hin : m ∈ order.moves hub.entries := by
    rw [he]
    simp only [List.mem_append, List.mem_cons] at hm ⊢
    tauto
  exact apart_of_ne hc hmem (task_mem_of_mem hin) (hne m hm).symm

theorem Order.filter_task (order : Order) {tasks : List Task} (hn : tasks.Nodup) (task : Task) :
    (order.moves tasks).filter (·.task = task) =
      if task ∈ tasks then [.measure task, .settle task] else [] := by
  by_cases ht : task ∈ tasks
  · obtain ⟨before, after, he⟩ := List.append_of_mem ((measure_mem_iff order tasks task).2 ht)
    obtain ⟨mid, rest, rfl, hne⟩ := order.exists_settle hn he
    have hnone : ∀ moves ⊆ before ++ mid ++ rest, moves.filter (·.task = task) = [] :=
      fun moves hsub => List.filter_eq_nil_iff.2 fun m hm => by simpa using hne m (hsub hm)
    rw [he, if_pos ht]
    simp [hnone before (by simp), hnone mid (by simp), hnone rest (by simp)]
  · rw [if_neg ht, List.filter_eq_nil_iff]
    intro m hm
    simpa using fun e : m.task = task => ht (e ▸ task_mem_of_mem hm)

theorem Agree.settle (h : Agree task r r') : Agree task (r.settle task) (r'.settle task) := by
  have hreleases : r.releases task.1 task.2 = r'.releases task.1 task.2 := by
    unfold releases; rw [h.result]
  have hhub : (r.settle task).hub = r.hub.play (r'.releases task.1 task.2) :=
    hreleases ▸ hub_settle r task.1 task.2
  have hhub' : (r'.settle task).hub = r'.hub.play (r'.releases task.1 task.2) :=
    hub_settle r' task.1 task.2
  obtain ⟨hr, hf⟩ :=
    Hub.play_congr_of_serves (fun _ => serves_of_mem_releases) h.registered h.feed
  refine ⟨?_, ?_, ?_⟩
  · rw [hhub, hhub']; exact hr
  · rw [hhub, hhub']; exact hf
  · rw [results_settle, results_settle]; exact h.result

/-- The workload is measured and settled as if the two steps followed each other. -/
theorem agree_steps (usage : UInt64) (hs : sources.Silent) (r : Round σ) {before mid rest : List Move}
    (hap : ∀ m ∈ before ++ mid ++ rest, Apart task m.task) :
    Agree task
      (r.play sources usage (before ++ .measure task :: (mid ++ .settle task :: rest)))
      (((r.play sources usage before).measure sources usage task).settle task) := by
  rw [play_append]
  generalize r.play sources usage before = asked
  have hmid : Agree task ((asked.measure sources usage task).play sources usage mid)
      (asked.measure sources usage task) := agree_play hs _ fun m hm => hap m (by simp [hm])
  have hsplit : asked.play sources usage (.measure task :: (mid ++ .settle task :: rest)) =
      (((asked.measure sources usage task).play sources usage mid).settle task).play
        sources usage rest := play_append (asked.measure sources usage task) mid _
  rw [hsplit]
  exact (agree_play hs _ fun m hm => hap m (by simp [hm])).trans hmid.settle

/-- **The two steps of a workload** publish its sample, and release it if that reached
    nobody. -/
theorem hub_measure_settle (usage : UInt64) (hs : sources.Silent) (hn : r.results.lookup task.1 = none) :
    ((r.measure sources usage task).settle task).hub =
      r.hub.play (r.hub.services task (r.sample? sources usage task.1)) := by
  obtain ⟨id, k⟩ := task
  have hask : (r.ask sources id).2 = r.hub := hub_ask_of_silent hs r id
  have hlook : ∀ m, (r.measure sources usage (id, k)).results = r.results ++ [(id, m)] →
      (r.measure sources usage (id, k)).results.lookup id = some m := by
    intro m hres
    rw [hres, List.lookup_append, show r.results.lookup id = none from hn]; simp
  rw [hub_settle]
  cases hx : r.sample? sources usage id with
  | none =>
    obtain ⟨hhub, m, hm, hres⟩ := measure_of_none hx k
    have hnone : (r.measure sources usage (id, k)).releases id k = [] := by
      unfold releases
      rw [hlook m hres]
      cases m with
      | published n => exact absurd rfl (hm n)
      | unavailable | crashed => rfl
    rw [hnone, hhub, hask]; rfl
  | some x =>
    obtain ⟨hhub, hres⟩ := measure_of_some hx k
    rw [hask] at hhub hres
    have hreleases : (r.measure sources usage (id, k)).releases id k =
        if (r.hub.publish k x).1.delivered = 0 then [.release id k] else [] := by
      unfold releases
      rw [hlook _ hres]
      cases (r.hub.publish k x).1.delivered <;> rfl
    rw [hreleases, hhub]; rfl

/-! ## A whole round -/

theorem hub_runWith_of_silent (hs : sources.Silent) {order : List Task → List Move} {state : σ}
    {hub : Hub Sample} (hv : ∀ usage, hostAnswer sources state hub ≠ .value usage) :
    (runWith order sources state hub).hub = hub := by
  by_cases hn : hub.entries = []
  · rw [runWith_of_nil hn]
  · obtain ⟨e, he⟩ := exists_hostReport? hv
    rw [runWith_of_report hn he]
    exact hub_begun_of_silent hs state hub

theorem within_runWith (hs : sources.Silent) (order : List Task → List Move) {state : σ}
    {hub : Hub Sample} (hv : hostAnswer sources state hub = .value usage) :
    (runWith order sources state hub).hub.Within hub := by
  by_cases hn : hub.entries = []
  · rw [runWith_of_nil hn]; exact .refl hub
  · have hsteps : ((begun sources state hub).play sources usage (order hub.entries)).hub.Within _ :=
      within_steps hs _ _
    rwa [hub_begun_of_silent hs, ← hub_runWith_of_value hn hv] at hsteps

/-- **What a round makes of a workload** and its feed, it makes by publishing the one
    sample that its answers give, and by the release that may follow. -/
theorem served_runWith (hs : sources.Silent) {hub : Hub Sample} (hc : hub.Coherent)
    {order : Order} {state : σ} (hv : hostAnswer sources state hub = .value usage)
    {before after : List Move} (he : order.moves hub.entries = before ++ .measure task :: after) :
    let sample := ((begun sources state hub).play sources usage before).sample? sources usage task.1
    let final := (runWith order.moves sources state hub).hub
    final.registered task.1 = (hub.play (hub.services task sample)).registered task.1 ∧
      final.feed? task.2 = (hub.play (hub.services task sample)).feed? task.2 := by
  intro sample final
  have hmem : task ∈ hub.entries := (measure_mem_iff order _ _).1 (by rw [he]; simp)
  have hstart : (begun sources state hub).hub = hub := hub_begun_of_silent hs state hub
  obtain ⟨mid, rest, rfl, hap⟩ := order.exists_settle_apart hc he
  -- the steps of the others leave the workload as it was at the start, and as it is settled
  have hbefore : Agree task ((begun sources state hub).play sources usage before)
      (begun sources state hub) := agree_play hs _ fun m hm => hap m (by simp [hm])
  have hserved := hub_measure_settle usage hs hbefore.result
  obtain ⟨hreg, hfeed⟩ := Hub.play_services_congr hbefore.registered hbefore.feed sample
  rw [hstart] at hreg hfeed
  have hsteps := agree_steps usage hs (begun sources state hub) hap
  rw [show final = _ from hub_runWith_of_value (List.ne_nil_of_mem hmem) hv, he]
  exact ⟨hsteps.registered.trans ((congrArg (Hub.registered · task.1) hserved).trans hreg),
    hsteps.feed.trans ((congrArg (Hub.feed? · task.2) hserved).trans hfeed)⟩

end Round

end Workmeter
