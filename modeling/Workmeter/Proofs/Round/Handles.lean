/-
  Workmeter — handles that are out of date, and names of other workloads.

  Whoever ends a subscription names a workload and a subscription.  If the feed that the
  workload is registered with does not contain the subscription, nothing happens at all.

  * `Feed.evict_of_not_contains`, `evict_comm`, `evict_of_isEmpty`: evictions from one feed;
  * `feed?_unsubscribe`, `registered_unsubscribe_iff`: an ended subscription is evicted, and
    a workload stays registered while its feed is not idle;
  * `unsubscribe_of_not_contains`, `unsubscribe_unsubscribe_self`, `unsubscribe_comm`: handles
    out of date do nothing, once is enough, and the order does not matter;
  * `Action.names`, `registered_act_of_names`, `feed?_act_of_names`: what is done in the name
    of one workload leaves the other ones alone;
  * `stale_handles_harmless`: all of it, after any operations.
-/
import Workmeter.Proofs.Hub.Service
import Workmeter.Proofs.Round.Registration

namespace Workmeter

/-! ## Evictions from one feed -/

namespace Feed

variable {α : Type} {f : Feed α} {s t : SubscriptionId}

theorem detach_of_not_attached {st : Stream α} (h : st.attached = false) : st.detach = st := by
  cases st
  cases h
  rfl

theorem onStream_eq_self {change : Stream α → Stream α}
    (h : ∀ st, (s, st) ∈ f.streams → change st = st) : f.onStream s change = f := by
  have hstreams : (f.onStream s change).streams = f.streams := by
    refine (List.map_congr_left ?_).trans (List.map_id _)
    rintro ⟨t, st⟩ he
    by_cases ht : t = s
    · subst ht
      simp [h st he]
    · simp [ht]
  exact congrArg (fun l => { f with streams := l }) hstreams

/-- **An eviction** changes nothing if the feed does not contain the subscription. -/
theorem evict_of_not_contains (hn : f.ids.Nodup) (h : f.contains s = false) : f.evict s = f := by
  refine onStream_eq_self fun st he => detach_of_not_attached ?_
  rw [← h, contains_of_some (stream?_of_mem_streams hn he)]

theorem evict_of_isEmpty (h : f.isEmpty) (s : SubscriptionId) : f.evict s = f := by
  refine onStream_eq_self fun st he => detach_of_not_attached ?_
  have hzero : f.size = 0 := of_decide_eq_true h
  rw [← Bool.not_eq_true]
  exact List.countP_eq_zero.1 hzero _ he

theorem evict_comm (f : Feed α) (s t : SubscriptionId) :
    (f.evict s).evict t = (f.evict t).evict s := by
  simp only [evict, onStream, List.map_map]
  refine congrArg (fun l => { f with streams := l }) (List.map_congr_left ?_)
  rintro ⟨u, st⟩ -
  simp only [Function.comp_apply]
  split_ifs <;> rfl

end Feed

/-! ## Ended subscriptions -/

namespace Hub

variable {α : Type} {h : Hub α} {id other : WorkloadId} {k l : FeedId} {s t : SubscriptionId}

theorem feed?_unsubscribe (h : Hub α) (id : WorkloadId) (s : SubscriptionId) (l : FeedId) :
    (h.unsubscribe id s).feed? l =
      if h.registered id = some l then (h.feed? l).map (·.evict s) else h.feed? l := by
  refine (feed?_act h (.unsubscribe id s) l).trans ?_
  simp only [Action.newFeed?, ite_self, Option.or_none, Action.onFeed, Action.target?]
  cases hid : h.registered id with
  | none => simp
  | some k =>
    by_cases hk : k = l
    · simp [hk]
      rfl
    · simp [hk]

theorem isIdle_congr {h' : Hub α} (hf : h.feed? l = h'.feed? l) : h.isIdle l = h'.isIdle l := by
  unfold isIdle
  rw [hf]

theorem map_evict_of_isIdle (hi : h.isIdle l) (t : SubscriptionId) :
    (h.feed? l).map (·.evict t) = h.feed? l := by
  unfold isIdle at hi
  cases hf : h.feed? l with
  | none => rfl
  | some f =>
    rw [hf] at hi
    exact congrArg some (Feed.evict_of_isEmpty hi t)

theorem within_unsubscribe (h : Hub α) (id : WorkloadId) (s : SubscriptionId) :
    (h.unsubscribe id s).Within h := by
  simp only [unsubscribe]
  split
  · rename_i k _
    have hevict : (h.evict k s).Within h := ⟨rfl, rfl, Array.size_modify, .refl _⟩
    split
    · exact ⟨hevict.buffer, hevict.made, hevict.size, List.filter_sublist⟩
    · exact hevict
  · exact .refl h

theorem Coherent.unsubscribe (hc : h.Coherent) (id : WorkloadId) (s : SubscriptionId) :
    (h.unsubscribe id s).Coherent :=
  hc.act (.unsubscribe id s)

section
variable (hc : h.Coherent) (hv : h.Covered [])
include hc hv

theorem covered_unsubscribe (id : WorkloadId) (s : SubscriptionId) :
    (h.unsubscribe id s).Covered [] :=
  Covered.act (a := .unsubscribe id s) (hv.mono (List.nil_subset _)) hc rfl

/-- **A workload stays registered** while its feed is not idle. -/
theorem registered_unsubscribe_iff :
    (h.unsubscribe id s).registered other = some l ↔
      h.registered other = some l ∧ ¬ (h.unsubscribe id s).isIdle l := by
  constructor
  · intro hr
    have hold : h.registered other = some l :=
      (registered_of_act (a := .unsubscribe id s) hr).resolve_right fun hnew => by cases hnew.2.1
    refine ⟨hold, fun hi => ?_⟩
    cases covered_unsubscribe hc hv id s other l hr hi
  · rintro ⟨hr, hi⟩
    have hu : ¬ (Action.unsubscribe id s).unregisters h other := by
      intro hu
      refine hi ((hc.act (.unsubscribe id s)).isIdle_iff.2 fun t => ?_)
      exact hc.contains_of_unregisters hr hu
    refine (registered_act h (.unsubscribe id s) other).trans ?_
    rw [if_neg hu, hr]
    rfl

/-- **A handle out of date** does nothing: neither to the registrations, nor to any feed. -/
theorem unsubscribe_of_not_contains
    (hs : ∀ k, h.registered id = some k → h.contains k s = false) : h.unsubscribe id s = h := by
  have hfeed : ∀ l, (h.unsubscribe id s).feed? l = h.feed? l := by
    intro l
    rw [feed?_unsubscribe]
    split
    · rename_i hid
      cases hf : h.feed? l with
      | none => rfl
      | some f =>
        have hnot := hs l hid
        rw [contains, hf] at hnot
        exact congrArg some (Feed.evict_of_not_contains (hc.ids_nodup l f hf) hnot)
    · rfl
  refine Within.ext hc.names_nodup (within_unsubscribe h id s) (.refl h) (fun other k hr => ?_) hfeed
  rw [hr, registered_unsubscribe_iff hc hv, isIdle_congr (hfeed k)]
  refine ⟨hr, fun hi => ?_⟩
  cases hv other k hr hi

/-- **Once is enough.** -/
theorem unsubscribe_unsubscribe_self :
    (h.unsubscribe id s).unsubscribe id s = h.unsubscribe id s := by
  refine unsubscribe_of_not_contains (hc.unsubscribe id s) (covered_unsubscribe hc hv id s)
    fun k hid => ?_
  have hold := ((registered_unsubscribe_iff hc hv).1 hid).1
  rw [contains, feed?_unsubscribe, if_pos hold]
  cases hf : h.feed? k with
  | none => rfl
  | some f =>
    rw [Option.map_some, Option.any_some, Feed.contains, Feed.stream?_evict, if_pos rfl]
    cases f.stream? s <;> rfl

theorem feed?_unsubscribe_unsubscribe :
    ((h.unsubscribe id s).unsubscribe other t).feed? l =
      if h.registered other = some l then ((h.unsubscribe id s).feed? l).map (·.evict t)
      else (h.unsubscribe id s).feed? l := by
  have hstill : (h.unsubscribe id s).registered other = some l ↔
      h.registered other = some l ∧ ¬ (h.unsubscribe id s).isIdle l :=
    registered_unsubscribe_iff hc hv
  rw [feed?_unsubscribe]
  by_cases ho : h.registered other = some l
  · by_cases hi : (h.unsubscribe id s).isIdle l
    · -- the workload was unregistered, and its feed is not looked at again
      rw [if_neg (fun hr => (hstill.1 hr).2 hi), if_pos ho, map_evict_of_isIdle hi]
    · rw [if_pos (hstill.2 ⟨ho, hi⟩), if_pos ho]
  · rw [if_neg (fun hr => ho (hstill.1 hr).1), if_neg ho]

theorem registered_unsubscribe_unsubscribe_iff {w : WorkloadId} :
    ((h.unsubscribe id s).unsubscribe other t).registered w = some l ↔
      h.registered w = some l ∧ ¬ ((h.unsubscribe id s).unsubscribe other t).isIdle l := by
  rw [registered_unsubscribe_iff (hc.unsubscribe id s) (covered_unsubscribe hc hv id s),
    registered_unsubscribe_iff hc hv, and_assoc]
  refine and_congr_right fun _ => and_iff_right_of_imp fun hi hbefore => hi ?_
  -- what was idle before is not touched
  rw [← hbefore]
  refine isIdle_congr ?_
  rw [feed?_unsubscribe, map_evict_of_isIdle hbefore, ite_self]

/-- **The order** in which two subscriptions are ended does not matter. -/
theorem unsubscribe_comm :
    (h.unsubscribe id s).unsubscribe other t = (h.unsubscribe other t).unsubscribe id s := by
  have hfeed : ∀ l, ((h.unsubscribe id s).unsubscribe other t).feed? l =
      ((h.unsubscribe other t).unsubscribe id s).feed? l := by
    intro l
    rw [feed?_unsubscribe_unsubscribe hc hv, feed?_unsubscribe_unsubscribe hc hv,
      feed?_unsubscribe, feed?_unsubscribe]
    cases h.feed? l with
    | none => split_ifs <;> rfl
    | some f =>
      split_ifs
      · exact congrArg some (f.evict_comm s t)
      · rfl
      · rfl
      · rfl
  have hfirst := within_unsubscribe h id s
  have hsecond := within_unsubscribe h other t
  refine Within.ext hc.names_nodup ((within_unsubscribe _ other t).trans hfirst)
    ((within_unsubscribe _ id s).trans hsecond) (fun w k _ => Option.ext fun l => ?_) hfeed
  rw [registered_unsubscribe_unsubscribe_iff hc hv, registered_unsubscribe_unsubscribe_iff hc hv,
    isIdle_congr (hfeed l)]

end

/-! ## Other workloads -/

/-- The action is done in the name of the workload. -/
def Action.names (id : WorkloadId) : Action α → Bool
  | .subscribe other | .unsubscribe other _ | .stop other => other = id
  | _ => false

variable {a : Action α}

theorem registered_act_of_names (ha : a.names id) (hne : other ≠ id) :
    (h.act a).registered other = h.registered other := by
  rw [registered_act]
  cases a with
  | subscribe w | unsubscribe w | stop w =>
    obtain rfl : w = id := of_decide_eq_true ha
    simp [Action.unregisters, Action.registers?, Ne.symm hne]
  | release | letGo | receive | makeFeed | attach | publish | evict | close => cases ha

theorem feed?_act_of_names (ha : a.names id) (hk : k.number < h.feeds.size)
    (hne : h.registered id ≠ some k) : (h.act a).feed? k = h.feed? k := by
  have hnew : k ≠ h.nextFeed := by
    rintro rfl
    exact absurd hk (Nat.lt_irrefl _)
  have htarget : a.onFeed h k = [] := by
    unfold Action.onFeed
    cases a with
    | subscribe w | unsubscribe w | stop w =>
      obtain rfl : w = id := of_decide_eq_true ha
      cases hr : h.registered w with
      | none => simp [Action.target?, hr, Ne.symm hnew]
      | some l =>
        have hl : l ≠ k := fun e => hne (by rw [hr, e])
        simp [Action.target?, hr, hl]
    | release | letGo | receive | makeFeed | attach | publish | evict | close => cases ha
  rw [feed?_act, if_neg hnew, Option.or_none, htarget]
  cases h.feed? k <;> rfl

/-! ## Any operations -/

/-- The feed registered with a workload does not contain a subscription that was ended, nor
    one that was made at another feed. -/
theorem Coherent.not_contains_of_stream? (hc : h.Coherent) {t : Subscription} {st : Stream α}
    (hst : h.stream? t = some st) (hout : h.registered id ≠ some t.feed ∨ st.attached = false)
    (hid : h.registered id = some k) : h.contains k t.id = false := by
  by_contra hk
  rw [Bool.not_eq_false] at hk
  obtain ⟨st', hst', hat⟩ := contains_iff.1 hk
  obtain ⟨f, hf, hs⟩ := Option.bind_eq_some_iff.1 hst
  obtain ⟨g, hg, hs'⟩ := Option.bind_eq_some_iff.1 hst'
  have hfeed : t.feed = k := hc.ids_apart t.feed k f g hf hg t.id
    (Feed.mem_ids_iff.2 ⟨st, hs⟩) (Feed.mem_ids_iff.2 ⟨st', hs'⟩)
  subst hfeed
  obtain hother | hended := hout
  · exact hother hid
  · rw [Option.some.inj (hst'.symm.trans hst), hended] at hat
    cases hat

/-- **Handles out of date are harmless, and so are other names**: to end what the registered feed
    does not contain does nothing, so it may be ended twice and in any order. -/
theorem stale_handles_harmless (buffer : Nat) (operations : List Operation)
    (ho : ∀ o ∈ operations, o.ofRegistry) :
    let start : Hub Sample := { buffer }
    let hub := start.after operations
    (∀ id s, (∀ k, hub.registered id = some k → hub.contains k s = false) →
      hub.unsubscribe id s = hub) ∧
    (∀ id t st, hub.stream? t = some st →
      (hub.registered id ≠ some t.feed ∨ st.attached = false) → hub.unsubscribe id t.id = hub) ∧
    (∀ id s, (hub.unsubscribe id s).unsubscribe id s = hub.unsubscribe id s) ∧
    (∀ id s other t, (hub.unsubscribe id s).unsubscribe other t =
      (hub.unsubscribe other t).unsubscribe id s) ∧
    ∀ id other, other ≠ id → ∀ a : Action Sample, a.names id →
      (hub.act a).registered other = hub.registered other ∧
      ∀ before after k, start.history operations = before ++ after →
        (start.play before).registered other = some k → (hub.act a).feed? k = hub.feed? k := by
  intro start hub
  have hc : hub.Coherent := coherent_after buffer operations
  have hv : hub.Covered [] :=
    covered_after ho (coherent_empty buffer) (covered_empty buffer [])
  refine ⟨fun id s => unsubscribe_of_not_contains hc hv, fun id t st hst hout => ?_,
    fun id s => unsubscribe_unsubscribe_self hc hv, fun id s other t => unsubscribe_comm hc hv,
    fun id other hne a ha => ⟨registered_act_of_names ha hne, fun before after k hsplit hr => ?_⟩⟩
  · exact unsubscribe_of_not_contains hc hv fun k => hc.not_contains_of_stream? hst hout
  · have hbefore : (start.play before).Coherent := coherent_play buffer before
    have hhub : hub = (start.play before).play after := by
      rw [← play_append, ← hsplit, play_history]
    have hlt : k.number < hub.feeds.size := by
      rw [hhub]
      exact number_lt_play (hbefore.registered_lt other k hr) after
    refine feed?_act_of_names ha hlt fun hid => ?_
    rw [hhub] at hid
    exact hne (hbefore.eq_of_registered_play hr hid).symm

/-- `web` was stopped and subscribed to again, and a round was run.  Its old handle does
    nothing to the new feed, nor does the handle of `web` in the name of `db`. -/
theorem stale_handles_harmless_of_restarted_workload :
    let web : WorkloadId := ⟨"web", by decide, by decide⟩
    let db : WorkloadId := ⟨"db", by decide, by decide⟩
    let answers : Answers := { hostUsage := .value 7, stats := fun _ => .value {}
                               sandbox := fun _ => none, interfaces := fun _ => .value [] }
    let operations : List Operation :=
      [.act (.subscribe web), .act (.stop web), .act (.subscribe web), .act (.subscribe db),
        .round .inTurn answers.sources ()]
    let hub : Hub Sample := after {} operations
    (∀ o ∈ operations, o.ofRegistry) ∧ hub.registered web = some ⟨1⟩ ∧
      hub.contains ⟨1⟩ ⟨2⟩ ∧ hub.unsubscribe web ⟨1⟩ = hub ∧ hub.unsubscribe db ⟨2⟩ = hub := by
  intro web db answers operations hub
  have ho : ∀ o ∈ operations, o.ofRegistry := by decide
  obtain ⟨hstale, -⟩ := stale_handles_harmless defaultBuffer operations ho
  have hweb : hub.registered web = some ⟨1⟩ := by decide
  have hdb : hub.registered db = some ⟨2⟩ := by decide
  refine ⟨ho, hweb, by decide, hstale web ⟨1⟩ fun k hk => ?_, hstale db ⟨2⟩ fun k hk => ?_⟩
  · obtain rfl := Option.some.inj (hweb.symm.trans hk)
    decide
  · obtain rfl := Option.some.inj (hdb.symm.trans hk)
    decide

end Hub

end Workmeter
