/-
  Workmeter — the history of a hub through its rounds.

  Whatever happens in a round, it happens to the hub as a sequence of actions:
  the requests of those who are asked, the publications, and the releases of
  what turned out to have no reader left.

  * `Inquiry.actions`, `Round.actions`: the actions of a course of requests and
    of the steps of a round (`Inquiry.play_actions`, `Round.play_actions`);
  * `Round.ask`, `Round.sample?`: the answer of a workload, and the sample that
    is published for it (`hub_measure`);
  * `measured_perm`: in every order of the steps each workload is measured once;
  * `quiet_or_publish_of_mem_history`: what happens in a round, apart from requests
    and releases, is the publication of samples with one usage of the host;
  * `Operation`, `Hub.after`, `Hub.history`: rounds and single actions, and all
    that happens to a hub through them (`play_history`).
-/
import Workmeter.Proofs.Hub.Inbox
import Workmeter.Round.Order

namespace Workmeter

/-! ## Requests -/

/-- The actions that a course of requests comes to. -/
def Inquiry.actions {α : Type} : Inquiry α → Hub Sample → List (Hub.Action Sample)
  | answer _, _ => []
  | subscribe id next, hub =>
    .subscribe id :: (next (hub.subscribe id).1).actions (hub.subscribe id).2
  | unsubscribe id s next, hub => .unsubscribe id s :: next.actions (hub.unsubscribe id s)
  | stop id next, hub => .stop id :: next.actions (hub.stop id)
  | letGo s next, hub => .letGo s :: next.actions (hub.letGo s)

theorem Inquiry.play_actions {α : Type} (q : Inquiry α) (hub : Hub Sample) :
    hub.play (q.actions hub) = (q.run hub).2 := by
  induction q generalizing hub with
  | answer a => rfl
  | subscribe id next ih => exact ih (hub.subscribe id).1 (hub.subscribe id).2
  | unsubscribe id s next ih => exact ih (hub.unsubscribe id s)
  | stop id next ih => exact ih (hub.stop id)
  | letGo s next ih => exact ih (hub.letGo s)

/-- What may be requested of the hub while somebody is asked. -/
def Hub.Action.isRequest {α : Type} : Hub.Action α → Bool
  | .subscribe _ | .unsubscribe _ _ | .stop _ | .letGo _ => true
  | _ => false

theorem Inquiry.isRequest_of_mem {α : Type} {q : Inquiry α} {hub : Hub Sample}
    {a : Hub.Action Sample} (ha : a ∈ q.actions hub) : a.isRequest := by
  induction q generalizing hub with
  | answer => cases ha
  | subscribe id next ih =>
    rcases List.mem_cons.1 ha with rfl | ha
    · rfl
    · exact ih _ ha
  | unsubscribe _ _ next ih | stop _ next ih | letGo _ next ih =>
    rcases List.mem_cons.1 ha with rfl | ha
    · rfl
    · exact ih ha

theorem Hub.Action.isQuiet_of_isRequest {α : Type} {a : Hub.Action α} (ha : a.isRequest) :
    a.isQuiet := by
  cases a <;> first | rfl | cases ha

/-! ## The steps of a round -/

namespace Round

variable {σ : Type} {sources : Sources σ} {usage : UInt64}

/-- The answer of a workload, and the hub it leaves. -/
def ask (sources : Sources σ) (id : WorkloadId) (r : Round σ) :
    (Outcome WorkloadFault WorkloadStats × σ) × Hub Sample :=
  (sources.stats id r.state).run r.hub

theorem hub_ask (r : Round σ) (id : WorkloadId) :
    (r.ask sources id).2 = r.hub.play ((sources.stats id r.state).actions r.hub) :=
  (Inquiry.play_actions _ _).symm

/-- The interfaces that go with the sample of a workload, none of them if they
    cannot be read; there is no sample if the one who is asked breaks down. -/
def interfaces? (sources : Sources σ) (id : WorkloadId) (state : σ) : Option (List Interface) :=
  match (sources.sandbox id state).map (sources.interfaces · state) with
  | some (.value interfaces) => some interfaces
  | some (.crash _) => none
  | some (.failure _) | none => some []

/-- The sample that the measurement of a workload publishes. -/
def sample? (sources : Sources σ) (usage : UInt64) (id : WorkloadId) (r : Round σ) :
    Option Sample :=
  match (r.ask sources id).1 with
  | (.value stats, state) => (interfaces? sources id state).map (⟨id, stats, usage, ·⟩)
  | (.failure _, _) | (.crash _, _) => none

/-- What the settling of a workload comes to. -/
def releases (r : Round σ) (id : WorkloadId) (k : FeedId) : List (Hub.Action Sample) :=
  match r.results.lookup id with
  | some (.published 0) => [.release id k]
  | _ => []

theorem play_append (r : Round σ) (xs ys : List Move) :
    r.play sources usage (xs ++ ys) = (r.play sources usage xs).play sources usage ys :=
  List.foldl_append

/-- The actions of one step. -/
def actionsOf (sources : Sources σ) (usage : UInt64) (r : Round σ) :
    Move → List (Hub.Action Sample)
  | .measure (id, k) =>
    (sources.stats id r.state).actions r.hub ++ (r.sample? sources usage id).toList.map (.publish k)
  | .settle (id, k) => r.releases id k

/-- The actions of several steps. -/
def actions (sources : Sources σ) (usage : UInt64) (r : Round σ) :
    List Move → List (Hub.Action Sample)
  | [] => []
  | m :: moves => r.actionsOf sources usage m ++ (r.step sources usage m).actions sources usage moves

/-- **A measurement** publishes its sample through the feed that it was given. -/
theorem measure_of_some {r : Round σ} {id : WorkloadId} {sample : Sample}
    (hs : r.sample? sources usage id = some sample) (k : FeedId) :
    (r.measure sources usage (id, k)).hub = ((r.ask sources id).2.publish k sample).2 ∧
      (r.measure sources usage (id, k)).results = r.results ++
        [(id, .published ((r.ask sources id).2.publish k sample).1.delivered)] := by
  revert hs
  simp only [sample?, ask, measure]
  obtain ⟨⟨outcome, state⟩, hub⟩ := (sources.stats id r.state).run r.hub
  cases outcome with
  | failure | crash => exact nofun
  | value stats =>
    simp only [interfaces?, call]
    cases sources.sandbox id state with
    | none => rintro ⟨⟩; exact ⟨rfl, rfl⟩
    | some sandbox =>
      simp only [Option.map_some]
      cases sources.interfaces sandbox state with
      | value | failure => rintro ⟨⟩; exact ⟨rfl, rfl⟩
      | crash => exact nofun

/-- A measurement without a sample publishes nothing. -/
theorem measure_of_none {r : Round σ} {id : WorkloadId} (hs : r.sample? sources usage id = none)
    (k : FeedId) :
    (r.measure sources usage (id, k)).hub = (r.ask sources id).2 ∧
      ∃ m, (∀ n, m ≠ .published n) ∧
        (r.measure sources usage (id, k)).results = r.results ++ [(id, m)] := by
  revert hs
  simp only [sample?, ask, measure]
  obtain ⟨⟨outcome, state⟩, hub⟩ := (sources.stats id r.state).run r.hub
  cases outcome with
  | crash text => exact fun _ => ⟨rfl, .crashed text, nofun, rfl⟩
  | failure cause => cases cause <;> exact fun _ => ⟨rfl, .unavailable, nofun, rfl⟩
  | value stats =>
    simp only [interfaces?, call]
    cases sources.sandbox id state with
    | none => exact nofun
    | some sandbox =>
      simp only [Option.map_some]
      cases sources.interfaces sandbox state with
      | value | failure => exact nofun
      | crash text => exact fun _ => ⟨rfl, .crashed text, nofun, rfl⟩

theorem hub_settle (r : Round σ) (id : WorkloadId) (k : FeedId) :
    (r.settle (id, k)).hub = r.hub.play (r.releases id k) := by
  simp only [settle, releases]
  cases r.results.lookup id with
  | none => rfl
  | some m =>
    cases m with
    | published n =>
      cases n with
      | zero => simp only; split <;> rfl
      | succ n => rfl
    | unavailable | crashed => rfl

theorem results_settle (r : Round σ) (task : Task) : (r.settle task).results = r.results := by
  simp only [settle]
  split
  · split <;> rfl
  · rfl
  · rfl

theorem play_actionsOf (r : Round σ) (m : Move) :
    r.hub.play (r.actionsOf sources usage m) = (r.step sources usage m).hub := by
  cases m with
  | measure task =>
    obtain ⟨id, k⟩ := task
    simp only [actionsOf, step, Hub.play_append, Inquiry.play_actions]
    cases hs : r.sample? sources usage id with
    | some sample => exact (measure_of_some hs k).1.symm
    | none => exact (measure_of_none hs k).1.symm
  | settle task => exact (hub_settle r task.1 task.2).symm

theorem play_actions (r : Round σ) (moves : List Move) :
    r.hub.play (r.actions sources usage moves) = (r.play sources usage moves).hub := by
  induction moves generalizing r with
  | nil => rfl
  | cons m moves ih => rw [actions, Hub.play_append, play_actionsOf, ih]; rfl

theorem hostUsage_of_sample? {r : Round σ} {id : WorkloadId} {x : Sample}
    (hs : r.sample? sources usage id = some x) : x.hostUsage = usage := by
  unfold sample? at hs
  split at hs
  · obtain ⟨interfaces, -, rfl⟩ := Option.map_eq_some_iff.1 hs; rfl
  · cases hs
  · cases hs

/-- A step publishes samples with the usage of the round, or does something quiet. -/
theorem quiet_or_publish_of_mem_actions {r : Round σ} {moves : List Move} {a : Hub.Action Sample}
    (ha : a ∈ r.actions sources usage moves) :
    a.isQuiet ∨ ∃ k x, a = .publish k x ∧ x.hostUsage = usage := by
  induction moves generalizing r with
  | nil => cases ha
  | cons m moves ih =>
    rw [actions, List.mem_append] at ha
    refine ha.elim (fun ha => ?_) fun ha => ih ha
    cases m with
    | settle task =>
      simp only [actionsOf, releases] at ha
      split at ha
      · rw [List.mem_singleton.1 ha]; exact Or.inl rfl
      · cases ha
    | measure task =>
      rcases List.mem_append.1 ha with ha | ha
      · exact Or.inl (Hub.Action.isQuiet_of_isRequest (Inquiry.isRequest_of_mem ha))
      · obtain ⟨x, hx, rfl⟩ := List.mem_map.1 ha
        exact Or.inr ⟨_, x, rfl, hostUsage_of_sample? (Option.mem_toList.1 hx)⟩

/-! ## A whole round -/

/-- The workloads that are measured in the steps. -/
def measured (moves : List Move) : List WorkloadId :=
  moves.filterMap fun
    | .measure task => some task.1
    | .settle _ => none

theorem measured_cons (m : Move) (moves : List Move) :
    measured (m :: moves) = measured [m] ++ measured moves := by
  cases m <;> rfl

theorem mem_measured_of_mem {moves : List Move} {task : Task} (hm : .measure task ∈ moves) :
    task.1 ∈ measured moves :=
  List.mem_filterMap.2 ⟨_, hm, rfl⟩

theorem measure_mem_iff (order : Order) (tasks : List Task) (task : Task) :
    .measure task ∈ order.moves tasks ↔ task ∈ tasks := by
  rw [(order.perm tasks).mem_iff]; simp [inTurn]

theorem measured_perm (order : Order) (tasks : List Task) :
    (measured (order.moves tasks)).Perm (tasks.map (·.1)) := by
  have : measured (inTurn tasks) = tasks.map (·.1) := by
    simp only [measured, inTurn, List.filterMap_append, List.filterMap_map]
    simp
  rw [← this]
  exact (order.perm tasks).filterMap _

/-- The round after the host was asked. -/
def begun (sources : Sources σ) (state : σ) (hub : Hub Sample) : Round σ :=
  { hub := ((sources.hostUsage state).run hub).2, state := ((sources.hostUsage state).run hub).1.2
    calls := [.hostUsage] }

theorem hub_begun (sources : Sources σ) (state : σ) (hub : Hub Sample) :
    (begun sources state hub).hub = hub.play ((sources.hostUsage state).actions hub) :=
  (Inquiry.play_actions _ _).symm

/-- What the host answered. -/
def hostAnswer (sources : Sources σ) (state : σ) (hub : Hub Sample) :
    Outcome HostCpu.Fault UInt64 :=
  ((sources.hostUsage state).run hub).1.1

/-- All actions of a round. -/
def history (order : Order) (sources : Sources σ) (state : σ) (hub : Hub Sample) :
    List (Hub.Action Sample) :=
  if hub.entries.isEmpty then []
  else (sources.hostUsage state).actions hub ++
    match hostAnswer sources state hub with
    | .value usage => (begun sources state hub).actions sources usage (order.moves hub.entries)
    | .failure _ | .crash _ => []

section
variable {order : List Task → List Move} {state : σ} {hub : Hub Sample}

theorem runWith_of_nil (hn : hub.entries = []) :
    runWith order sources state hub = { hub, state } := by simp [runWith, hn]

theorem runWith_of_value (hn : hub.entries ≠ []) (hv : hostAnswer sources state hub = .value usage) :
    runWith order sources state hub =
      ((begun sources state hub).play sources usage (order hub.entries)).report .roundTook := by
  simp only [hostAnswer] at hv
  simp only [runWith, begun, List.isEmpty_eq_false_iff.2 hn, Bool.false_eq_true, if_false, hv]

theorem runWith_of_failure (hn : hub.entries ≠ []) {cause : HostCpu.Fault}
    (hv : hostAnswer sources state hub = .failure cause) :
    runWith order sources state hub = (begun sources state hub).report (.hostFailed cause) := by
  simp only [hostAnswer] at hv
  simp only [runWith, begun, List.isEmpty_eq_false_iff.2 hn, Bool.false_eq_true, if_false, hv]

theorem runWith_of_crash (hn : hub.entries ≠ []) {text : String}
    (hv : hostAnswer sources state hub = .crash text) :
    runWith order sources state hub = (begun sources state hub).report (.hostCrashed text) := by
  simp only [hostAnswer] at hv
  simp only [runWith, begun, List.isEmpty_eq_false_iff.2 hn, Bool.false_eq_true, if_false, hv]

theorem hub_runWith_of_value (hn : hub.entries ≠ [])
    (hv : hostAnswer sources state hub = .value usage) :
    (runWith order sources state hub).hub =
      ((begun sources state hub).play sources usage (order hub.entries)).hub := by
  rw [runWith_of_value hn hv]; rfl

end

theorem play_roundHistory (order : Order) (sources : Sources σ) (state : σ) (hub : Hub Sample) :
    hub.play (history order sources state hub) = (runWith order.moves sources state hub).hub := by
  by_cases hn : hub.entries = []
  · simp [history, runWith_of_nil hn, hn]
  · rw [history, if_neg (by simpa using hn), Hub.play_append, Inquiry.play_actions]
    cases hv : hostAnswer sources state hub with
    | value usage => rw [hub_runWith_of_value hn hv]; exact play_actions (begun sources state hub) _
    | failure cause => rw [runWith_of_failure hn hv]; rfl
    | crash text => rw [runWith_of_crash hn hv]; rfl

/-- **All samples of a round** carry the answer of the host; apart from them
    nothing is published or received in it. -/
theorem quiet_or_publish_of_mem_history {order : Order} {state : σ} {hub : Hub Sample}
    {a : Hub.Action Sample} (ha : a ∈ history order sources state hub) :
    a.isQuiet ∨ ∃ k x, a = .publish k x ∧ hostAnswer sources state hub = .value x.hostUsage := by
  unfold history at ha
  split at ha
  · cases ha
  · rcases List.mem_append.1 ha with ha | ha
    · exact Or.inl (Hub.Action.isQuiet_of_isRequest (Inquiry.isRequest_of_mem ha))
    · cases hv : hostAnswer sources state hub with
      | value usage =>
        rw [hv] at ha
        refine (quiet_or_publish_of_mem_actions ha).imp id ?_
        rintro ⟨k, x, rfl, rfl⟩
        exact ⟨k, x, rfl, rfl⟩
      | failure | crash => rw [hv] at ha; cases ha

end Round

/-! ## Many rounds -/

/-- What is done with a hub: a single action, or a round. -/
inductive Operation : Type 1 where
  | act (a : Hub.Action Sample)
  | round {σ : Type} (order : Round.Order) (sources : Sources σ) (state : σ)

namespace Operation

/-- Does it. -/
def perform (hub : Hub Sample) : Operation → Hub Sample
  | act a => hub.act a
  | round order sources state => (Round.runWith order.moves sources state hub).hub

/-- All that happens to the hub in it. -/
def actions (hub : Hub Sample) : Operation → List (Hub.Action Sample)
  | act a => [a]
  | round order sources state => Round.history order sources state hub

theorem play_actions (hub : Hub Sample) (o : Operation) :
    hub.play (o.actions hub) = o.perform hub := by
  cases o with
  | act a => rfl
  | round order sources state => exact Round.play_roundHistory order sources state hub

end Operation

namespace Hub

/-- The hub after the operations, one after the other. -/
def after (hub : Hub Sample) (operations : List Operation) : Hub Sample :=
  operations.foldl Operation.perform hub

/-- All that happens to the hub in the operations. -/
def history : Hub Sample → List Operation → List (Action Sample)
  | _, [] => []
  | hub, o :: operations => o.actions hub ++ (o.perform hub).history operations

theorem play_history (hub : Hub Sample) (operations : List Operation) :
    hub.play (hub.history operations) = hub.after operations := by
  induction operations generalizing hub with
  | nil => rfl
  | cons o operations ih => rw [history, play_append, o.play_actions, ih]; rfl

theorem coherent_after (buffer : Nat) (operations : List Operation) :
    (after { buffer } operations).Coherent := by
  rw [← play_history]; exact coherent_play buffer _

end Hub

end Workmeter
