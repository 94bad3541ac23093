/-
  Workmeter — the end of a stream.

  A subscription may be ended at any point, also while a round is under way that
  is still going to publish through its feed.  From then on its reader finds what
  was unread at this point, the oldest item first, and after that the end.

  * `Over.inbox_act`: nothing but a receipt changes the inbox of a stream that has
    ended;
  * `Over.readings_eq`, `Over.unreadItems_play`: what its reader finds, and what
    remains;
  * `registered_ne_of_play`: a feed that lost its workload is never registered
    again;
  * `ended_for_good`: every end, at any point of any operations.
-/
import Workmeter.Proofs.Hub.Receipts
import Workmeter.Proofs.Round.Subscription

namespace Workmeter

theorem Feed.inbox_onStream_of_detached {α : Type} {f : Feed α} {s : SubscriptionId}
    {a : Feed.Action α} {st : Stream α} (hat : st.attached = false) (ha : a ≠ .receive s) :
    (a.onStream f s st).inbox = st.inbox := by
  cases a with
  | publish x =>
    simp only [Feed.Action.onStream]; split
    · rfl
    · simp [Stream.offer, hat]
  | receive t =>
    have ht : s ≠ t := fun e => ha (by rw [e])
    simp [Feed.Action.onStream, ht]
  | evict t => simp only [Feed.Action.onStream]; split <;> rfl
  | letGo t => simp only [Feed.Action.onStream]; split <;> rfl
  | subscribe | close => rfl

namespace Hub

variable {α : Type} {h : Hub α} {a : Action α} {id : WorkloadId} {s : Subscription}

/-! ## A stream that has ended -/

theorem Over.inbox_act (hs : h.Over s) (ha : a ≠ .receive s) : (h.act a).inbox s = h.inbox s := by
  obtain ⟨st, hst, hat⟩ := hs
  rw [inbox_of_some hst, inbox_of_some (stream?_act_of_some hst a)]
  unfold Action.onStream
  split
  · rename_i l b f ht hf
    split
    · rename_i hl; subst hl
      exact Feed.inbox_onStream_of_detached hat fun hb => ha (target?_receive_iff.1 (by rw [ht, hb]))
    · rfl
  · rfl

theorem Over.reading_receive (hs : h.Over s) :
    h.reading s (.receive s) = [(h.unreadItems s).head?.elim .ended .item] := by
  obtain ⟨st, hst, hat⟩ := hs
  rw [Hub.reading_receive hst, hat]
  cases (h.unreadItems s).head? <;> rfl

variable [DecidableEq α]

/-- **What its reader finds**: the items that are unread, and then the end each time. -/
theorem Over.readings_eq (hs : h.Over s) (actions : List (Action α)) :
    h.readings s actions = (List.range (actions.count (.receive s))).map
      fun i => ((h.unreadItems s)[i]?).elim .ended .item := by
  induction actions generalizing h with
  | nil => rfl
  | cons a actions ih =>
    rw [readings, ih (hs.act a)]
    by_cases ha : a = .receive s
    · subst ha
      have htail : (h.act (.receive s)).unreadItems s = (h.unreadItems s).tail := by
        rw [Hub.act, unreadItems_receive, if_pos rfl]
      rw [hs.reading_receive, htail, List.count_cons_self, List.range_succ_eq_map, List.map_cons,
        List.map_map, List.singleton_append, List.head?_eq_getElem?]
      refine congrArg _ (List.map_congr_left fun i _ => ?_)
      rw [List.getElem?_tail]; rfl
    · have hsame : (h.act a).unreadItems s = h.unreadItems s := by
        rw [unreadItems, hs.inbox_act ha]; rfl
      rw [reading_of_ne ha, hsame, List.count_cons_of_ne ha, List.nil_append]

theorem Over.unreadItems_play (hs : h.Over s) (actions : List (Action α)) :
    (h.play actions).unreadItems s =
      (h.unreadItems s).drop (actions.count (.receive s)) := by
  induction actions generalizing h with
  | nil => rfl
  | cons a actions ih =>
    rw [play_cons, ih (hs.act a)]
    by_cases ha : a = .receive s
    · subst ha
      rw [Hub.act, unreadItems_receive, if_pos rfl, List.count_cons_self, List.drop_tail]
    · have hsame : (h.act a).unreadItems s = h.unreadItems s := by
        rw [unreadItems, hs.inbox_act ha]; rfl
      rw [hsame, List.count_cons_of_ne ha]

omit [DecidableEq α] in
/-- A feed that lost its workload is registered never again, and no new
    subscription is made there through the registrations. -/
theorem registered_ne_of_play (hc : h.Coherent) {k : FeedId} (hk : h.registered id = some k)
    (hn : (h.act a).registered id = none) (actions : List (Action α)) (other : WorkloadId) :
    ((h.act a).play actions).registered other ≠ some k ∧
      (((h.act a).play actions).subscribe other).1.feed ≠ k := by
  have hlt : k.number < h.feeds.size := hc.registered_lt id k hk
  have hne : ((h.act a).play actions).registered other ≠ some k := by
    intro ho
    have hact : (h.play [a]).registered other = some k :=
      registered_of_play (number_lt_act hlt a) actions ho
    obtain rfl : other = id := hc.eq_of_registered_play hk hact
    rw [play_cons, play_nil, hn] at hact; cases hact
  refine ⟨hne, ?_⟩
  rw [subscribe_fst]
  cases hr : ((h.act a).play actions).registered other with
  | some l =>
    rintro rfl
    exact hne hr
  | none =>
    -- the feed that is made next has a number of its own
    rintro rfl
    exact absurd (number_lt_play (number_lt_act hlt a) actions) (Nat.lt_irrefl _)

/-! ## Any operations -/

/-- **An end is for good**: the items that were unread, the oldest first, and then the end,
    whatever happens, be it inside a round. -/
theorem ended_for_good (buffer : Nat) (operations : List Operation) (id : WorkloadId)
    (s : Subscription) (a : Action Sample) (before after rest : List (Action Sample)) :
    let start : Hub Sample := { buffer }
    let hub := start.play before
    let final := hub.play (a :: after)
    let count := after.count (.receive s)
    start.history operations = before ++ a :: after ++ rest →
    hub.registered id = some s.feed → hub.contains s.feed s.id → a.Ends id s.id →
    final.play rest = start.after operations ∧
    (hub.act a).readings s after =
      (List.range count).map (fun i => ((hub.unreadItems s)[i]?).elim .ended .item) ∧
    final.unreadItems s = (hub.unreadItems s).drop count ∧
    (∀ k, final.contains k s.id = false) ∧
    (a = .stop id → (hub.act a).registered id = none) ∧
    ((hub.act a).registered id = none →
      ∀ other, final.registered other ≠ some s.feed ∧ (final.subscribe other).1.feed ≠ s.feed) := by
  intro start hub final count hs hreg hcontains hends
  have hc : hub.Coherent := coherent_play buffer before
  obtain ⟨st, hst, -⟩ := contains_iff.1 hcontains
  have hover : (hub.act a).Over s := over_of_ends hreg hst hends
  have hunread : (hub.act a).unreadItems s = hub.unreadItems s := by
    have hquiet : a.isQuiet := by rcases hends with rfl | rfl <;> rfl
    rw [unreadItems, inbox_act_of_isQuiet hquiet]; rfl
  refine ⟨?_, ?_, ?_, fun k => ?_, ?_, fun hn other => ?_⟩
  · rw [← play_history, hs, play_append, play_append]
  · rw [hover.readings_eq, hunread]
  · exact (hover.unreadItems_play after).trans (by rw [hunread])
  · exact (hover.play after).not_contains ((hc.act a).play after) k
  · rintro rfl
    rw [registered_act, if_pos (by simp [Action.unregisters])]
  · exact registered_ne_of_play hc hreg hn after other

/-- The workload is stopped while it is measured for the second time, and subscribed to again;
    the first reader finds the sample of the first round, and then the end. -/
theorem ended_for_good_of_stop_in_round :
    let web : WorkloadId := ⟨"web", by decide, by decide⟩
    let s : Subscription := ⟨⟨0⟩, ⟨1⟩⟩
    let sources : UInt64 → Bool → Sources Unit := fun usage stopping =>
      { hostUsage := fun _ => .answer (.value usage, ())
        stats := fun _ _ => if stopping then .stop web (.answer (.value {}, ())) else
          .answer (.value {}, ())
        sandbox := fun _ _ => none, interfaces := fun _ _ => .value [] }
    let operations : List Operation := [.act (.subscribe web), .round .inTurn (sources 1 false) (),
      .round .inTurn (sources 2 true) (), .act (.subscribe web),
      .round .inTurn (sources 3 false) (), .act (.receive s), .act (.receive s)]
    let before : List (Action Sample) := [.subscribe web, .publish ⟨0⟩ ⟨web, {}, 1, []⟩]
    let after : List (Action Sample) := [.publish ⟨0⟩ ⟨web, {}, 2, []⟩, .release web ⟨0⟩,
      .subscribe web, .publish ⟨1⟩ ⟨web, {}, 3, []⟩, .receive s, .receive s]
    let hub : Hub Sample := play {} before
    history {} operations = before ++ .stop web :: after ∧
      hub.registered web = some s.feed ∧ hub.contains s.feed s.id ∧
      (hub.act (.stop web)).readings s after = [.item ⟨web, {}, 1, []⟩, .ended] ∧
      (hub.play (.stop web :: after)).registered web ≠ some s.feed := by
  intro web s sources operations before after hub
  have hs : history {} operations = before ++ .stop web :: after ++ [] := by decide
  have hreg : hub.registered web = some s.feed := by decide
  have hcontains : hub.contains s.feed s.id := by decide
  obtain ⟨-, hreadings, -, -, hstop, hnew⟩ :=
    ended_for_good defaultBuffer operations web s (.stop web) before after [] hs hreg hcontains
      (Or.inl rfl)
  have hcount : after.count (.receive s) = 2 := by decide
  have hunread : hub.unreadItems s = [⟨web, {}, 1, []⟩] := by decide
  refine ⟨hs.trans (List.append_nil _), hreg, hcontains, hreadings.trans ?_, ?_⟩
  · rw [hcount, hunread]; rfl
  · exact (hnew (hstop rfl) web).1

end Hub

end Workmeter
