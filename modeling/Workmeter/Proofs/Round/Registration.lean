/-
  Workmeter — the registrations in the course of a round.

  A publication may find that the last reader of a registered feed let it go.
  Then the feed stays registered without a subscription until its workload is
  settled, and nowhere else in a round.

  * `Round.Ready`: the steps to come settle every workload whose feed was found
    to have no reader, and measure each other one once (`Ready.step`);
  * `Ready.covered`: so at every point of a round an idle registered feed is
    going to be released in it;
  * `registrations_in_order`: the registrations after any operations, and at any
    point of a round that follows.
-/
import Workmeter.Proofs.Hub.Registration
import Workmeter.Proofs.Round.History

namespace Workmeter

theorem Hub.Action.ofRegistry_of_isQuiet {α : Type} {a : Hub.Action α} (ha : a.isQuiet) :
    a.ofRegistry := by
  cases a <;> first | rfl | cases ha

namespace Round

variable {σ : Type} {sources : Sources σ} {usage : UInt64} {r : Round σ} {m : Move}
  {moves : List Move} {id : WorkloadId} {k : FeedId}

/-! ## Results -/

/-- A step adds the result of the workload that it measures, if any. -/
theorem results_step (sources : Sources σ) (usage : UInt64) (r : Round σ) (m : Move) :
    ∃ results, (r.step sources usage m).results = r.results ++ results ∧
      results.map (·.1) = measured [m] := by
  cases m with
  | settle task => exact ⟨[], by rw [step, results_settle, List.append_nil], rfl⟩
  | measure task =>
    obtain ⟨id, k⟩ := task
    cases hs : r.sample? sources usage id with
    | some sample => exact ⟨_, (measure_of_some hs k).2, rfl⟩
    | none =>
      obtain ⟨-, x, -, hx⟩ := measure_of_none hs k
      exact ⟨_, hx, rfl⟩

theorem lookup_results_step {x : Measured} (hl : r.results.lookup id = some x) (m : Move) :
    (r.step sources usage m).results.lookup id = some x := by
  obtain ⟨results, he, -⟩ := results_step sources usage r m
  rw [he, List.lookup_append, hl]; rfl

theorem lookup_results_step_of_none (hl : r.results.lookup id = none) (hm : id ∉ measured [m]) :
    (r.step sources usage m).results.lookup id = none := by
  obtain ⟨results, he, hn⟩ := results_step sources usage r m
  rw [he, List.lookup_append, hl, Option.none_or, List.lookup_eq_none_iff]
  intro p hp
  rw [bne_iff_ne]
  rintro rfl
  exact hm (hn ▸ List.mem_map_of_mem hp)

/-- A workload that reached no reader is released when it is settled. -/
theorem release_mem_actions (hm : .settle (id, k) ∈ moves)
    (hl : r.results.lookup id = some (.published 0)) :
    .release id k ∈ r.actions sources usage moves := by
  induction moves generalizing r with
  | nil => cases hm
  | cons m moves ih =>
    rw [actions, List.mem_append]
    rcases List.mem_cons.1 hm with rfl | hm
    · left; simp [actionsOf, releases, hl]
    · exact Or.inr (ih hm (lookup_results_step hl m))

/-! ## The steps to come -/

/-- The steps to come suit the round. -/
structure Ready (r : Round σ) (moves : List Move) : Prop where
  coherent : r.hub.Coherent
  once : (measured moves).Nodup
  unmeasured : ∀ id ∈ measured moves, r.results.lookup id = none
  own : ∀ id k, .measure (id, k) ∈ moves → k.number < r.hub.feeds.size ∧
    ∀ other, r.hub.registered other = some k → other = id
  settled_after : ∀ task before after, moves = before ++ .measure task :: after →
    .settle task ∈ after
  /-- A registered feed that is idle was found so by a measurement. -/
  pending : ∀ id k, r.hub.registered id = some k → r.hub.isIdle k →
    .settle (id, k) ∈ moves ∧ r.results.lookup id = some (.published 0)

theorem Ready.covered_now (hr : r.Ready moves) (sources : Sources σ) (usage : UInt64) :
    r.hub.Covered (r.actions sources usage moves) := by
  intro id k hid hi
  obtain ⟨hm, hl⟩ := hr.pending id k hid hi
  exact release_mem_actions hm hl

theorem hub_step (r : Round σ) (m : Move) :
    (r.step sources usage m).hub = r.hub.play (r.actionsOf sources usage m) :=
  (play_actionsOf r m).symm

theorem registered_of_step (hk : k.number < r.hub.feeds.size)
    (hid : (r.step sources usage m).hub.registered id = some k) : r.hub.registered id = some k := by
  rw [hub_step] at hid
  exact Hub.registered_of_play hk _ hid

theorem ofRegistry_of_mem_inquiry {α : Type} {q : Inquiry α} {hub : Hub Sample}
    {a : Hub.Action Sample} (ha : a ∈ q.actions hub) : a.ofRegistry :=
  Hub.Action.ofRegistry_of_isQuiet (Hub.Action.isQuiet_of_isRequest (Inquiry.isRequest_of_mem ha))

/-- The settling of a workload releases its feed if it was found to have no
    reader; so no idle registered feed is forgotten. -/
theorem Ready.pending_settle {l : FeedId} {other : WorkloadId}
    (hr : r.Ready (.settle (other, l) :: moves))
    (hid : (r.step sources usage (.settle (other, l))).hub.registered id = some k)
    (hi : (r.step sources usage (.settle (other, l))).hub.isIdle k) :
    .settle (id, k) ∈ moves ∧ r.results.lookup id = some (.published 0) := by
  rw [step, hub_settle] at hid hi
  by_cases hl : r.results.lookup other = some (.published 0)
  · rw [show r.releases other l = [.release other l] by simp [releases, hl]] at hid hi
    obtain ⟨hid, hi, hne⟩ := Hub.idle_of_act (a := .release other l) hr.coherent rfl hid hi
    obtain ⟨hm, hx⟩ := hr.pending id k hid hi
    refine ⟨(List.mem_cons.1 hm).resolve_left ?_, hx⟩
    rintro ⟨⟩; exact hne rfl
  · rw [show r.releases other l = [] by simp only [releases]] at hid hi
    obtain ⟨hm, hx⟩ := hr.pending id k hid hi
    refine ⟨(List.mem_cons.1 hm).resolve_left ?_, hx⟩
    rintro ⟨⟩; exact hl hx

/-- A measurement that finds the feed without a reader says so in its result. -/
theorem Ready.pending_measure {l : FeedId} {other : WorkloadId}
    (hr : r.Ready (.measure (other, l) :: moves))
    (hid : (r.step sources usage (.measure (other, l))).hub.registered id = some k)
    (hi : (r.step sources usage (.measure (other, l))).hub.isIdle k) :
    .settle (id, k) ∈ moves ∧
      (r.step sources usage (.measure (other, l))).results.lookup id = some (.published 0) := by
  -- what was idle when the workload had answered was idle before it was asked
  have before : (r.ask sources other).2.registered id = some k →
      (r.ask sources other).2.isIdle k → .settle (id, k) ∈ moves ∧
        (r.step sources usage (.measure (other, l))).results.lookup id = some (.published 0) := by
    intro hid hi
    rw [hub_ask] at hid hi
    obtain ⟨hid, hi⟩ := Hub.idle_of_play hr.coherent (fun a => ofRegistry_of_mem_inquiry) hid hi
    obtain ⟨hm, hx⟩ := hr.pending id k hid hi
    exact ⟨(List.mem_cons.1 hm).resolve_left (by simp), lookup_results_step hx _⟩
  cases hs : r.sample? sources usage other with
  | none =>
    rw [step, (measure_of_none hs l).1] at hid hi
    exact before hid hi
  | some sample =>
    rw [step, (measure_of_some hs l).1] at hid hi
    rw [Hub.registered_publish] at hid
    by_cases hk : k = l
    · subst hk
      obtain ⟨hlt, hown⟩ := hr.own other k (by simp)
      have hid' : r.hub.registered id = some k := by
        rw [hub_ask] at hid
        exact Hub.registered_of_play hlt _ hid
      obtain rfl := hown id hid'
      refine ⟨hr.settled_after (id, k) [] moves rfl, ?_⟩
      have hn := hr.unmeasured id (by simp [measured])
      rw [step, (measure_of_some hs k).2, List.lookup_append, hn, Hub.delivered_eq_zero hi]
      simp
    · rw [Hub.isIdle_publish_of_ne hk] at hi
      exact before hid hi

/-- **Every step** leaves the round ready for those that follow. -/
theorem Ready.step (hr : r.Ready (m :: moves)) : (r.step sources usage m).Ready moves where
  coherent := by rw [hub_step]; exact hr.coherent.play _
  once := by
    have := hr.once
    rw [measured_cons] at this
    exact (List.nodup_append.1 this).2.1
  unmeasured id hid := by
    have honce := hr.once
    rw [measured_cons] at honce
    refine lookup_results_step_of_none (hr.unmeasured id ?_) fun hm => ?_
    · rw [measured_cons]; exact List.mem_append_right _ hid
    · exact (List.nodup_append.1 honce).2.2 id hm id hid rfl
  own id k hm := by
    obtain ⟨hk, hown⟩ := hr.own id k (List.mem_cons_of_mem _ hm)
    refine ⟨?_, fun other ho => hown other (registered_of_step hk ho)⟩
    rw [hub_step]; exact Hub.number_lt_play hk _
  settled_after task before after he := hr.settled_after task (m :: before) after (by rw [he]; rfl)
  pending id k hid hi := by
    cases m with
    | settle task =>
      obtain ⟨hm, hx⟩ := hr.pending_settle hid hi
      exact ⟨hm, by rw [Round.step, results_settle]; exact hx⟩
    | measure task => exact hr.pending_measure hid hi

/-- The requests of a measurement come before its publication. -/
theorem ofRegistry_of_split {done rest : List (Hub.Action Sample)} (hn : rest ≠ [])
    (hs : r.actionsOf sources usage m = done ++ rest) : ∀ a ∈ done, a.ofRegistry := by
  intro a ha
  cases m with
  | settle task =>
    obtain ⟨id, k⟩ := task
    have hm : a ∈ r.releases id k := by
      rw [show r.releases id k = _ from hs]; exact List.mem_append_left _ ha
    unfold releases at hm
    split at hm
    · rw [List.mem_singleton.1 hm]; rfl
    · cases hm
  | measure task =>
    obtain ⟨id, k⟩ := task
    simp only [actionsOf] at hs
    rcases List.append_eq_append_iff.1 hs with ⟨mid, rfl, hp⟩ | ⟨mid, he, -⟩
    · -- only the publication is left, so nothing of it is done
      have hmid : mid = [] := by
        have hl := congrArg List.length hp
        have := List.length_pos_iff.2 hn
        cases hx : r.sample? sources usage id <;> simp [hx] at hl <;>
          exact List.length_eq_zero_iff.1 (by omega)
      rw [hmid, List.append_nil] at ha
      exact ofRegistry_of_mem_inquiry ha
    · exact ofRegistry_of_mem_inquiry (he ▸ List.mem_append_left _ ha)

/-- **At every point of a round** an idle registered feed is going to be released
    in it. -/
theorem Ready.covered (hr : r.Ready moves) {done rest : List (Hub.Action Sample)}
    (hs : r.actions sources usage moves = done ++ rest) : (r.hub.play done).Covered rest := by
  induction moves generalizing r done with
  | nil =>
    obtain ⟨rfl, rfl⟩ := List.append_eq_nil_iff.1 hs.symm
    exact hr.covered_now sources usage
  | cons m moves ih =>
    have hnow := hr.covered_now sources usage
    rw [actions] at hs hnow
    rcases List.append_eq_append_iff.1 hs with ⟨mid, rfl, hrest⟩ | ⟨mid, hdone, rfl⟩
    · rw [Hub.play_append, play_actionsOf]
      exact ih hr.step hrest
    · by_cases hmid : mid = []
      · subst hmid
        rw [List.append_nil] at hdone
        rw [← hdone, play_actionsOf]
        exact hr.step.covered_now sources usage
      · rw [hdone, List.append_assoc] at hnow
        exact hnow.play hr.coherent (ofRegistry_of_split hmid hdone)

/-! ## A whole round -/

/-- A round starts ready, for the steps that it is going to take. -/
theorem ready_begun {hub : Hub Sample} (hc : hub.Coherent) (hv : hub.Covered []) (order : Order)
    (sources : Sources σ) (state : σ) :
    (begun sources state hub).Ready (order.moves hub.entries) where
  coherent := by
    rw [hub_begun]; exact hc.play _
  once := (measured_perm order hub.entries).nodup_iff.2 hc.names_nodup
  unmeasured _ _ := rfl
  own id k hm := by
    have hid := (Hub.mem_entries_iff hc.names_nodup).1 ((measure_mem_iff order _ _).1 hm)
    have hk := hc.registered_lt id k hid
    rw [hub_begun]
    refine ⟨Hub.number_lt_play hk _, fun other ho => ?_⟩
    exact hc.eq_of_registered_play hid ho
  settled_after := order.settled_after hub.entries
  pending id k hid hi := by
    rw [hub_begun] at hid hi
    obtain ⟨hid, hi⟩ := Hub.idle_of_play hc (fun a => ofRegistry_of_mem_inquiry) hid hi
    cases hv id k hid hi

theorem covered_history {hub : Hub Sample} (hc : hub.Coherent) (hv : hub.Covered [])
    {order : Order} {state : σ} {done rest : List (Hub.Action Sample)}
    (hs : history order sources state hub = done ++ rest) : (hub.play done).Covered rest := by
  have hall : ∀ actions, hub.Covered actions := fun actions => hv.mono (List.nil_subset actions)
  by_cases hn : hub.entries = []
  · simp only [history, hn, List.isEmpty_nil, if_true] at hs
    obtain ⟨rfl, rfl⟩ := List.append_eq_nil_iff.1 hs.symm
    exact hv
  · rw [history, if_neg (by simpa using hn)] at hs
    rcases List.append_eq_append_iff.1 hs with ⟨mid, rfl, hrest⟩ | ⟨mid, hdone, -⟩
    · rw [Hub.play_append]
      cases ha : hostAnswer sources state hub with
      | value usage =>
        rw [ha] at hrest
        rw [Inquiry.play_actions]
        exact (ready_begun hc hv order sources state).covered hrest
      | failure cause | crash text =>
        rw [ha] at hrest
        obtain ⟨rfl, rfl⟩ := List.append_eq_nil_iff.1 hrest.symm
        exact (hall _).play hc fun a => ofRegistry_of_mem_inquiry
    · refine (hall _).play hc fun a ha => ?_
      have hm : a ∈ (sources.hostUsage state).actions hub := hdone ▸ List.mem_append_left _ ha
      exact ofRegistry_of_mem_inquiry hm

theorem mem_history {order : Order} {state : σ} {hub : Hub Sample} {a : Hub.Action Sample}
    (ha : a ∈ history order sources state hub) : a.ofRegistry ∨ a.isPublication := by
  rcases quiet_or_publish_of_mem_history ha with hq | ⟨k, x, rfl, -⟩
  · exact Or.inl (Hub.Action.ofRegistry_of_isQuiet hq)
  · exact Or.inr rfl

end Round

/-! ## Any operations -/

/-- What is done with the feeds is done through the registrations, or in a round. -/
def Operation.ofRegistry : Operation → Bool
  | act a => a.ofRegistry
  | round _ _ _ => true

namespace Operation

variable {o : Operation} {hub : Hub Sample}

theorem mem_actions (ho : o.ofRegistry) {a : Hub.Action Sample} (ha : a ∈ o.actions hub) :
    a.ofRegistry ∨ a.isPublication := by
  cases o with
  | act b => rw [List.mem_singleton.1 ha]; exact Or.inl ho
  | round order sources state => exact Round.mem_history ha

theorem covered (ho : o.ofRegistry) (hc : hub.Coherent) (hv : hub.Covered [])
    {done rest : List (Hub.Action Sample)} (hs : o.actions hub = done ++ rest) :
    (hub.play done).Covered rest := by
  cases o with
  | act a =>
    have hall : hub.Covered (done ++ rest) := hv.mono (List.nil_subset _)
    refine hall.play hc fun b hb => ?_
    have hb' : b ∈ Operation.actions hub (.act a) := by rw [hs]; exact List.mem_append_left _ hb
    rw [List.mem_singleton.1 hb']; exact ho
  | round order sources state => exact Round.covered_history hc hv hs

end Operation

namespace Hub

variable {hub : Hub Sample} {operations : List Operation}

theorem mem_history (ho : ∀ o ∈ operations, o.ofRegistry) {a : Action Sample}
    (ha : a ∈ hub.history operations) : a.ofRegistry ∨ a.isPublication := by
  induction operations generalizing hub with
  | nil => cases ha
  | cons o operations ih =>
    rw [history, List.mem_append] at ha
    rcases ha with ha | ha
    · exact Operation.mem_actions (ho o (by simp)) ha
    · exact ih (fun p hp => ho p (by simp [hp])) ha

theorem covered_after (ho : ∀ o ∈ operations, o.ofRegistry) (hc : hub.Coherent)
    (hv : hub.Covered []) : (hub.after operations).Covered [] := by
  induction operations generalizing hub with
  | nil => exact hv
  | cons o operations ih =>
    have hstep : (o.perform hub).Covered [] := by
      rw [← o.play_actions]
      exact Operation.covered (ho o (by simp)) hc hv (List.append_nil _).symm
    refine ih (fun p hp => ho p (by simp [hp])) ?_ hstep
    rw [← o.play_actions]; exact hc.play _

/-- **The registrations stay in order**, through any operations and at every point of a round: a
    registered feed without a subscription is still to be released in it. -/
theorem registrations_in_order (buffer : Nat) (operations : List Operation)
    (ho : ∀ o ∈ operations, o.ofRegistry) {σ : Type} (order : Round.Order) (sources : Sources σ)
    (state : σ) :
    let start : Hub Sample := { buffer }
    let hub := start.after operations
    let past := start.history operations
    let round := Round.history order sources state hub
    hub.Orderly past [] ∧ start.LeftForGood past ∧
    start.play past = hub ∧ hub.play round = (Round.runWith order.moves sources state hub).hub ∧
    ∀ done rest, round = done ++ rest →
      (hub.play done).Orderly done rest ∧ start.LeftForGood (past ++ done) := by
  intro start hub past round
  have hc : start.Coherent := coherent_empty buffer
  have hpast : start.play past = hub := play_history start operations
  have hcov : hub.Covered [] := covered_after ho hc (covered_empty buffer [])
  have hnone : ∀ id k, hub.registered id = some k → ¬ hub.isIdle k := by
    intro id k hid hi
    cases hcov id k hid hi
  have hregular : (start.play past).Regular :=
    (regular_empty buffer).play hc fun a => mem_history ho
  have hcoherent : hub.Coherent := coherent_after buffer operations
  have hhub : hub.Orderly past [] := (hpast ▸ hregular).orderly hcoherent hcov
    fun id k hid hi => absurd hi (hnone id k hid)
  refine ⟨hhub, hregular.leftForGood hc, hpast,
    Round.play_roundHistory order sources state hub, fun done rest hs => ?_⟩
  have hall : ∀ a ∈ done, a.ofRegistry ∨ a.isPublication := by
    intro a ha
    have hm : a ∈ round := by rw [hs]; exact List.mem_append_left rest ha
    exact Round.mem_history hm
  have hdone : (hub.play done).Regular := (hpast ▸ hregular).play hcoherent hall
  refine ⟨hdone.orderly (hcoherent.play done) (Round.covered_history hcoherent hcov hs) ?_, ?_⟩
  · intro id k hid hi
    exact (idle_or_published hcoherent hall hid hi).resolve_left fun h => hnone id k h.1 h.2
  · refine Regular.leftForGood ?_ hc
    rw [play_append, hpast]; exact hdone

/-- The publication of a round leaves the feed without a subscription, and after two more steps
    it is released. -/
theorem registrations_in_order_of_pruned_feed :
    let web : WorkloadId := ⟨"web", by decide, by decide⟩
    let db : WorkloadId := ⟨"db", by decide, by decide⟩
    let operations : List Operation :=
      [.act (.subscribe web), .act (.subscribe db), .act (.letGo ⟨⟨0⟩, ⟨1⟩⟩)]
    let answers : Answers := { hostUsage := .value 7, stats := fun _ => .value {}
                               sandbox := fun _ => none, interfaces := fun _ => .value [] }
    let hub : Hub Sample := after {} operations
    let done : List (Action Sample) := [.publish ⟨0⟩ ⟨web, {}, 7, []⟩]
    let rest : List (Action Sample) := [.publish ⟨1⟩ ⟨db, {}, 7, []⟩, .release web ⟨0⟩]
    (∀ o ∈ operations, o.ofRegistry) ∧
    Round.history .inTurn answers.sources () hub = done ++ rest ∧
    (hub.play done).Orderly done rest ∧ (hub.play done).registered web = some ⟨0⟩ ∧
    (hub.play done).isIdle ⟨0⟩ ∧
    (hub.play (done ++ rest)).Orderly (done ++ rest) [] ∧
    (hub.play (done ++ rest)).registered web = none := by
  intro web db operations answers hub done rest
  have ho : ∀ o ∈ operations, o.ofRegistry := by decide
  have hs : Round.history .inTurn answers.sources () hub = done ++ rest := by decide
  obtain ⟨-, -, -, -, hpoints⟩ :=
    registrations_in_order defaultBuffer operations ho .inTurn answers.sources ()
  exact ⟨ho, hs, (hpoints done rest hs).1, by decide, by decide,
    (hpoints (done ++ rest) [] (hs.trans (List.append_nil _).symm)).1, by decide⟩

end Hub

end Workmeter
