/-
  Workmeter — how long a subscription lasts.

  A subscription that its reader holds is delivered to until it is ended, or its
  workload is stopped; nothing else ends it, and then it is over for good.

  * `Hub.Lasts`, `Hub.Over`: the subscription is delivered to by the feed that
    the workload is registered with; it is delivered to no more;
  * `Lasts.act`, `Over.act`: what keeps a subscription, and that an end is final;
  * `lasts_or_over`: which of the two it is, told from the history alone;
  * `Action.keepsReaders`, `Lasts.play_of_keepsReaders`: what ends no subscription at all;
  * `lasts_until_ended`: every subscription made by any operations, at every
    later point, the points inside a round included.
-/
import Workmeter.Proofs.Round.Registration

namespace Workmeter

namespace Hub

variable {α : Type} {h : Hub α} {a : Action α} {actions : List (Action α)} {id : WorkloadId}
  {s : Subscription}

/-! ## Lasting and over -/

/-- The subscription is held, and the feed that the workload is registered with
    delivers to it. -/
structure Lasts (h : Hub α) (id : WorkloadId) (s : Subscription) : Prop where
  registered : h.registered id = some s.feed
  delivered : ∃ st, h.stream? s = some st ∧ st.attached ∧ st.held

/-- The feed delivers to the subscription no more. -/
def Over (h : Hub α) (s : Subscription) : Prop := ∃ st, h.stream? s = some st ∧ st.attached = false

/-- The action ends the subscription `s` to the workload. -/
def Action.Ends (a : Action α) (id : WorkloadId) (s : SubscriptionId) : Prop :=
  a = .stop id ∨ a = .unsubscribe id s

theorem held_onStream {st : Stream α} (hh : st.held) (hl : a ≠ .letGo s) :
    (a.onStream h s st).held := by
  unfold Action.onStream
  split
  · rename_i l b f ht hf
    split
    · rename_i he; subst he
      have hb : b ≠ .letGo s.id := fun hb => hl (target?_letGo_iff.1 (by rw [ht, hb]))
      rwa [Feed.held_onStream hb]
    · exact hh
  · exact hh

/-- **A held subscription lasts** through every action that does not end it. -/
theorem Lasts.act (hs : h.Lasts id s) (hc : h.Coherent) (ha : a.ofRegistry ∨ a.isPublication)
    (hn : ¬ a.Ends id s.id) (hl : a ≠ .letGo s) : (h.act a).Lasts id s := by
  obtain ⟨hr, st, hst, hat, hh⟩ := hs
  have hat' : (a.onStream h s st).attached := by
    refine attached_onStream hat (fun ht => hn ?_) (fun ht => hn ?_) (Or.inl hh)
    · obtain ⟨other, rfl, ho⟩ := eq_unsubscribe_of_target? ha ht
      rw [hc.registered_inj id other _ hr ho]; exact Or.inr rfl
    · obtain ⟨other, rfl, ho⟩ := eq_stop_of_target? ha ht
      rw [hc.registered_inj id other _ hr ho]; exact Or.inl rfl
  have hst' := stream?_act_of_some hst a
  refine ⟨?_, _, hst', hat', held_onStream hh hl⟩
  -- a workload is unregistered with an empty feed only
  have hu : ¬ a.unregisters h id := by
    intro hu
    have := hc.contains_of_unregisters hr hu (t := s.id)
    rw [contains_iff.2 ⟨_, hst', hat'⟩] at this; cases this
  rw [registered_act, if_neg hu, hr]; rfl

/-- An action that ends the subscription detaches its stream. -/
theorem over_of_ends (hr : h.registered id = some s.feed) {st : Stream α}
    (hst : h.stream? s = some st) (he : a.Ends id s.id) : (h.act a).Over s := by
  obtain ⟨f, hf, -⟩ := Option.bind_eq_some_iff.1 hst
  refine ⟨_, stream?_act_of_some hst a, ?_⟩
  rcases he with rfl | rfl
  · simp [Action.onStream, Action.target?, hr, hf, Feed.Action.onStream, Stream.detach]
  · simp [Action.onStream, Action.target?, hr, hf, Feed.Action.onStream, Stream.detach]

theorem Lasts.over_of_ends (hs : h.Lasts id s) (he : a.Ends id s.id) : (h.act a).Over s := by
  obtain ⟨hr, st, hst, -, -⟩ := hs
  exact Hub.over_of_ends hr hst he

/-- **An end is final.** -/
theorem Over.act (hs : h.Over s) (a : Action α) : (h.act a).Over s := by
  obtain ⟨st, hst, hat⟩ := hs
  refine ⟨_, stream?_act_of_some hst a, ?_⟩
  by_contra hc
  rw [Bool.not_eq_false] at hc
  rw [attached_of_onStream hc] at hat; cases hat

theorem Over.play (hs : h.Over s) (actions : List (Action α)) : (h.play actions).Over s := by
  induction actions generalizing h with
  | nil => exact hs
  | cons a actions ih => exact ih (hs.act a)

/-- A subscription that its reader keeps lasts until it is ended, and is over
    thereafter. -/
theorem lasts_or_over (hs : h.Lasts id s) (hc : h.Coherent)
    (ha : ∀ a ∈ actions, a.ofRegistry ∨ a.isPublication) (hl : .letGo s ∉ actions) :
    (h.play actions).Lasts id s ∧ (∀ a ∈ actions, ¬ a.Ends id s.id) ∨
      (h.play actions).Over s ∧ ∃ a ∈ actions, a.Ends id s.id := by
  induction actions generalizing h with
  | nil => exact Or.inl ⟨hs, by simp⟩
  | cons a actions ih =>
    by_cases he : a.Ends id s.id
    · exact Or.inr ⟨(hs.over_of_ends he).play actions, a, by simp, he⟩
    · have hs' := hs.act hc (ha a (by simp)) he fun e => hl (by simp [e])
      rcases ih hs' (hc.act a) (fun b hb => ha b (by simp [hb])) (fun hm => hl (by simp [hm])) with
        ⟨hlast, hnone⟩ | ⟨hover, b, hb, hbe⟩
      · exact Or.inl ⟨hlast, by simpa [he] using hnone⟩
      · exact Or.inr ⟨hover, b, by simp [hb], hbe⟩

/-- No feed delivers to a subscription that is over. -/
theorem Over.not_contains (hs : h.Over s) (hc : h.Coherent) (k : FeedId) :
    h.contains k s.id = false := by
  by_contra hk
  rw [Bool.not_eq_false] at hk
  obtain ⟨st, hst, hat⟩ := hs
  obtain ⟨f, hf, hfs⟩ := Option.bind_eq_some_iff.1 hst
  obtain ⟨st', hst', hat'⟩ := contains_iff.1 hk
  obtain ⟨g, hg, hgs⟩ := Option.bind_eq_some_iff.1 hst'
  have he : s.feed = k := hc.ids_apart s.feed k f g hf hg s.id
    (Feed.mem_ids_iff.2 ⟨st, hfs⟩) (Feed.mem_ids_iff.2 ⟨st', hgs⟩)
  subst he
  rw [Option.some.inj (hst.symm.trans hst')] at hat
  rw [hat] at hat'; cases hat'

/-- A new subscription lasts. -/
theorem lasts_subscribe (hc : h.Coherent) (hr : h.Regular) (id : WorkloadId) :
    (h.act (.subscribe id)).Lasts id (h.subscribe id).1 :=
  ⟨registered_subscribe h id, hc.stream?_subscribe id fun k f => hr.opened id k f⟩

/-! ## Readers that are kept -/

/-- The action ends no subscription, whoever holds it. -/
def Action.keepsReaders : Action α → Bool
  | .subscribe _ | .publish _ _ | .release _ _ | .receive _ => true
  | _ => false

theorem Action.ofRegistry_of_keepsReaders {a : Action α} (ha : a.keepsReaders) :
    a.ofRegistry ∨ a.isPublication := by
  cases a <;> first | exact .inl rfl | exact .inr rfl | cases ha

theorem Regular.play_of_keepsReaders (hr : h.Regular) (hc : h.Coherent)
    (ha : ∀ a ∈ actions, a.keepsReaders) : (h.play actions).Regular :=
  hr.play hc fun a hmem => Action.ofRegistry_of_keepsReaders (ha a hmem)

theorem Lasts.play_of_keepsReaders (hs : h.Lasts id s) (hc : h.Coherent)
    (ha : ∀ a ∈ actions, a.keepsReaders) : (h.play actions).Lasts id s := by
  have hheld : .letGo s ∉ actions := fun hmem => by cases ha _ hmem
  obtain ⟨hlasts, -⟩ | ⟨-, a, hmem, hends⟩ :=
    lasts_or_over hs hc (fun a hmem => Action.ofRegistry_of_keepsReaders (ha a hmem)) hheld
  · exact hlasts
  · have hkeeps := ha a hmem
    rcases hends with rfl | rfl <;> cases hkeeps

theorem Lasts.contains (hs : h.Lasts id s) : h.contains s.feed s.id := by
  obtain ⟨st, hst, hat, -⟩ := hs.delivered
  exact contains_iff.2 ⟨st, hst, hat⟩

theorem Lasts.holds (hs : h.Lasts id s) : h.holds s := by
  obtain ⟨st, hst, -, hheld⟩ := hs.delivered
  rw [Hub.holds, hst, Option.any_some, hheld]

/-! ## Any operations -/

/-- **No subscription is lost, and none survives its end**: the registered feed delivers to it
    until the workload is stopped or the subscription is ended, be it inside a round. -/
theorem lasts_until_ended (buffer : Nat) (operations : List Operation)
    (ho : ∀ o ∈ operations, o.ofRegistry) (id : WorkloadId)
    (before after rest : List (Action Sample)) :
    let start : Hub Sample := { buffer }
    let s := ((start.play before).subscribe id).1
    let hub := start.play (before ++ .subscribe id :: after)
    start.history operations = before ++ .subscribe id :: after ++ rest →
    hub.play rest = start.after operations ∧
      (.letGo s ∉ after →
        ((∃ k, hub.registered id = some k ∧ hub.contains k s.id) ↔
          .stop id ∉ after ∧ .unsubscribe id s.id ∉ after)) := by
  intro start s hub hs
  have hc : start.Coherent := coherent_empty buffer
  have hall : ∀ a ∈ before ++ .subscribe id :: after, a.ofRegistry ∨ a.isPublication :=
    fun a ha => mem_history ho (hs ▸ List.mem_append_left rest ha)
  have hr : (start.play before).Regular :=
    (regular_empty buffer).play hc fun a ha => hall a (List.mem_append_left _ ha)
  have hmade := lasts_subscribe (hc.play before) hr id
  have hhub : hub = ((start.play before).act (.subscribe id)).play after := play_append ..
  have hends : (∀ a ∈ after, ¬ a.Ends id s.id) ↔ .stop id ∉ after ∧ .unsubscribe id s.id ∉ after := by
    simp only [Action.Ends, not_or]
    constructor
    · intro h
      exact ⟨fun hm => (h _ hm).1 rfl, fun hm => (h _ hm).2 rfl⟩
    · intro h a ha
      exact ⟨fun e => h.1 (e ▸ ha), fun e => h.2 (e ▸ ha)⟩
  refine ⟨by rw [← play_append, ← hs, play_history], fun hl => ?_⟩
  rw [← hends, hhub]
  rcases lasts_or_over hmade ((hc.play before).act _) (fun a ha => hall a (by simp [ha])) hl with
    ⟨⟨hreg, st, hst, hat, -⟩, hnone⟩ | ⟨hover, a, ha, he⟩
  · refine ⟨fun _ => hnone, fun _ => ?_⟩
    exact ⟨s.feed, hreg, contains_iff.2 ⟨st, hst, hat⟩⟩
  · refine ⟨fun hk => ?_, fun hn => absurd he (hn a ha)⟩
    obtain ⟨k, -, hk⟩ := hk
    rw [hover.not_contains (((hc.play before).act _).play after) k] at hk; cases hk

/-- The first subscription is kept, while the second one is let go, pruned in a
    round and ended, and while its own number is ended for another workload. -/
theorem lasts_until_ended_of_shared_feed :
    let web : WorkloadId := ⟨"web", by decide, by decide⟩
    let db : WorkloadId := ⟨"db", by decide, by decide⟩
    let sources : Sources Unit :=
      { hostUsage := fun _ => .subscribe db fun _ => .unsubscribe db ⟨1⟩ (.answer (.value 7, ()))
        stats := fun _ _ => .answer (.value {}, ()), sandbox := fun _ _ => none
        interfaces := fun _ _ => .value [] }
    let operations : List Operation :=
      [.act (.subscribe web), .act (.subscribe web), .act (.letGo ⟨⟨0⟩, ⟨2⟩⟩),
        .round .inTurn sources (), .act (.unsubscribe web ⟨2⟩)]
    let after : List (Action Sample) :=
      [.subscribe web, .letGo ⟨⟨0⟩, ⟨2⟩⟩, .subscribe db, .unsubscribe db ⟨1⟩,
        .publish ⟨0⟩ ⟨web, {}, 7, []⟩, .unsubscribe web ⟨2⟩]
    let hub : Hub Sample := play {} (.subscribe web :: after)
    (∀ o ∈ operations, o.ofRegistry) ∧ history {} operations = .subscribe web :: after ∧
      .letGo ⟨⟨0⟩, ⟨1⟩⟩ ∉ after ∧ ∃ k, hub.registered web = some k ∧ hub.contains k ⟨1⟩ := by
  intro web db sources operations after hub
  have ho : ∀ o ∈ operations, o.ofRegistry := by decide
  have hs : history {} operations = [] ++ .subscribe web :: after ++ [] := by decide
  have hl : .letGo ⟨⟨0⟩, ⟨1⟩⟩ ∉ after := by decide
  have hlasts := (lasts_until_ended defaultBuffer operations ho web [] after [] hs).2 hl
  exact ⟨ho, hs.trans (List.append_nil _), hl, hlasts.2 (by decide)⟩

end Hub

end Workmeter
