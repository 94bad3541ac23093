/-
  Workmeter — the coherence of a hub.

  Whatever is done with a hub, its workloads and feeds and subscriptions belong
  together as they should.

  * `Hub.Coherent`: no two workloads share a feed, no two feeds a subscription,
    and a closed feed contains nothing;
  * `Coherent.act`, `coherent_play`: every action keeps a hub coherent;
  * `Coherent.eq_of_registered_play`: a feed is registered with one workload at most;
  * `Coherent.isIdle_iff`: a feed is idle when it contains no subscription;
  * `Coherent.stream?_subscribe`: a new subscription is delivered to.
-/
import Workmeter.Proofs.Hub.History

namespace Workmeter.Hub

variable {α : Type} {h : Hub α} {a : Action α} {id : WorkloadId} {k : FeedId} {t : SubscriptionId}

/-! ## Names -/

/-- The names of the registered workloads. -/
def names (h : Hub α) : List WorkloadId := h.entries.map (·.1)

theorem mem_entries_iff (hn : h.names.Nodup) : (id, k) ∈ h.entries ↔ h.registered id = some k := by
  unfold registered
  constructor
  · intro hm
    cases hl : h.entries.lookup id with
    | none => simpa using List.lookup_eq_none_iff.1 hl _ hm
    | some l =>
      obtain ⟨before, after, he, -⟩ := List.lookup_eq_some_iff.1 hl
      have hl' : (id, l) ∈ h.entries := by rw [he]; simp
      have := List.inj_on_of_nodup_map hn hm hl' rfl
      exact congrArg some (Prod.mk.inj this).2.symm
  · intro hl
    obtain ⟨before, after, he, -⟩ := List.lookup_eq_some_iff.1 hl
    rw [he]; simp

theorem mem_names_iff (hn : h.names.Nodup) : id ∈ h.names ↔ (h.registered id).isSome := by
  rw [names, List.mem_map, Option.isSome_iff_exists]
  constructor
  · rintro ⟨⟨id, k⟩, he, rfl⟩
    exact ⟨k, (mem_entries_iff hn).1 he⟩
  · rintro ⟨k, hk⟩
    exact ⟨(id, k), (mem_entries_iff hn).2 hk, rfl⟩

theorem names_nodup_unregister (hn : h.names.Nodup) (id : WorkloadId) :
    (h.unregister id).names.Nodup :=
  hn.sublist (List.filter_sublist.map _)

theorem names_nodup_act (hn : h.names.Nodup) (a : Action α) : (h.act a).names.Nodup := by
  cases a with
  | subscribe id =>
    simp only [act, subscribe]
    cases hr : h.registered id with
    | some k => exact hn
    | none =>
      have hnot : id ∉ h.names := by rw [mem_names_iff hn, hr]; exact Bool.false_ne_true
      show ((h.entries ++ [(id, h.nextFeed)]).map (·.1)).Nodup
      rw [List.map_append]
      exact hn.append (List.nodup_singleton id) (by simpa using hnot)
  | unsubscribe id s =>
    simp only [act, unsubscribe]; split
    · split
      · exact names_nodup_unregister hn id
      · exact hn
    · exact hn
  | stop id =>
    simp only [act, stop]; split
    · exact names_nodup_unregister hn id
    · exact hn
  | release id k =>
    simp only [act, releaseIfIdle]; split
    · exact names_nodup_unregister hn id
    · exact hn
  | receive s => simp only [act, receive]; split <;> exact hn
  | publish k a => simp only [act, publish]; split <;> exact hn
  | letGo | makeFeed | attach | evict | close => exact hn

/-! ## Coherence -/

/-- No two workloads share a feed, no two feeds a subscription, and a closed
    feed contains nothing. -/
structure Coherent (h : Hub α) : Prop where
  names_nodup : h.names.Nodup
  registered_inj : ∀ id other k, h.registered id = some k → h.registered other = some k → id = other
  registered_lt : ∀ id k, h.registered id = some k → k.number < h.feeds.size
  ids_nodup : ∀ k f, h.feed? k = some f → f.ids.Nodup
  ids_le : ∀ k f, h.feed? k = some f → ∀ t ∈ f.ids, t.number ≤ h.made
  ids_apart : ∀ k l f g, h.feed? k = some f → h.feed? l = some g → ∀ t ∈ f.ids, t ∈ g.ids → k = l
  ended : ∀ k f, h.feed? k = some f → f.Ended

theorem coherent_empty (buffer : Nat) : Coherent ({ buffer } : Hub α) where
  names_nodup := List.nodup_nil
  registered_inj _ _ _ hr := by cases hr
  registered_lt _ _ hr := by cases hr
  ids_nodup k f hf := by simp [feed?] at hf
  ids_le k f hf := by simp [feed?] at hf
  ids_apart k l f g hf := by simp [feed?] at hf
  ended k f hf := by simp [feed?] at hf

/-- The subscriptions that an action makes at the feed `k`. -/
def Action.made (h : Hub α) (k : FeedId) (a : Action α) : List SubscriptionId :=
  (a.onFeed h k).flatMap Feed.Action.made

theorem mem_made_iff : t ∈ a.made h k ↔ t = h.nextId ∧ a.target? h = some (k, .subscribe t) := by
  unfold Action.made Action.onFeed
  constructor
  · intro hm
    cases a with
    | subscribe | attach =>
      simp only [Action.target?] at hm ⊢
      split at hm
      · rename_i hl
        simp only [List.flatMap_singleton, Feed.Action.made, List.mem_singleton] at hm
        subst hm; exact ⟨rfl, by rw [hl]⟩
      · simp at hm
    | unsubscribe id | stop id =>
      simp only [Action.target?] at hm
      cases hr : h.registered id with
      | none => simp [hr] at hm
      | some l => simp only [hr, Option.map_some] at hm; split at hm <;> simp [Feed.Action.made] at hm
    | letGo | receive | publish | evict | close =>
      simp only [Action.target?] at hm; split at hm <;> simp [Feed.Action.made] at hm
    | release | makeFeed => simp [Action.target?] at hm
  · rintro ⟨-, ht⟩
    simp [ht, Feed.Action.made]

theorem made_unsubscribe (h : Hub α) (id : WorkloadId) (s : SubscriptionId) :
    (h.unsubscribe id s).made = h.made := by
  simp only [unsubscribe]
  split
  · split <;> rfl
  · rfl

theorem made_le_act (h : Hub α) (a : Action α) : h.made ≤ (h.act a).made := by
  cases a with
  | subscribe id =>
    simp only [act, subscribe]
    split <;> exact Nat.le_succ _
  | unsubscribe id s => exact (made_unsubscribe h id s).ge
  | stop id => simp only [act, stop]; split <;> exact le_rfl
  | release id k => simp only [act, releaseIfIdle]; split <;> exact le_rfl
  | receive s => simp only [act, receive]; split <;> exact le_rfl
  | publish k a => simp only [act, publish]; split <;> exact le_rfl
  | attach => exact Nat.le_succ _
  | letGo | makeFeed | evict | close => exact le_rfl

/-- A subscription made by an action has the next number. -/
theorem number_le_of_mem_made (ht : t ∈ a.made h k) : t.number ≤ (h.act a).made := by
  obtain ⟨rfl, ht⟩ := mem_made_iff.1 ht
  cases a with
  | subscribe id =>
    simp only [act, subscribe]
    split <;> exact le_rfl
  | attach => exact le_rfl
  | unsubscribe id | stop id =>
    simp only [Action.target?] at ht
    cases hr : h.registered id <;> simp [hr] at ht
  | release | makeFeed | letGo | receive | publish | evict | close => simp [Action.target?] at ht

/-- The subscriptions of a feed after an action were made there before, or now. -/
theorem exists_ids_of_act {f : Feed α} (hf : (h.act a).feed? k = some f) :
    f.ids = a.made h k ∨ ∃ g, h.feed? k = some g ∧ f.ids = g.ids ++ a.made h k := by
  obtain ⟨g, hg | ⟨-, hg⟩, rfl⟩ := exists_feed?_of_act hf
  · exact Or.inr ⟨g, hg, g.ids_play _⟩
  · obtain ⟨buffer, rfl⟩ := exists_buffer_of_newFeed? hg
    exact Or.inl (Feed.ids_play _ _)

theorem mem_ids_of_act {f : Feed α} (hf : (h.act a).feed? k = some f) (ht : t ∈ f.ids) :
    (∃ g, h.feed? k = some g ∧ t ∈ g.ids) ∨ t ∈ a.made h k := by
  rcases exists_ids_of_act hf with he | ⟨g, hg, he⟩
  · exact Or.inr (he ▸ ht)
  · rw [he, List.mem_append] at ht
    rcases ht with ht | ht
    · exact Or.inl ⟨g, hg, ht⟩
    · exact Or.inr ht

theorem made_nodup (h : Hub α) (k : FeedId) (a : Action α) : (a.made h k).Nodup := by
  unfold Action.made Action.onFeed
  cases a.target? h with
  | none => simp
  | some p =>
    obtain ⟨l, b⟩ := p
    by_cases hl : l = k
    · cases b <;> simp [hl, Feed.Action.made]
    · simp [hl]

/-- **Every action keeps the hub coherent.** -/
theorem Coherent.act (hc : h.Coherent) (a : Action α) : (h.act a).Coherent where
  names_nodup := names_nodup_act hc.names_nodup a
  registered_inj id other k hi ho := by
    rcases registered_of_act hi with hi | ⟨-, rfl, rfl⟩
    · rcases registered_of_act ho with ho | ⟨-, -, rfl⟩
      · exact hc.registered_inj id other k hi ho
      · exact absurd (hc.registered_lt _ _ hi) (Nat.lt_irrefl _)
    · rcases registered_of_act ho with ho | ⟨-, he, -⟩
      · exact absurd (hc.registered_lt _ _ ho) (Nat.lt_irrefl _)
      · exact Action.subscribe.inj he
  registered_lt id k hr := by
    rcases registered_of_act hr with hr | ⟨hn, rfl, rfl⟩
    · exact number_lt_act (hc.registered_lt id k hr) a
    · have : (h.act (.subscribe id)).feed? h.nextFeed =
          some (Feed.play { buffer := h.buffer } (Action.onFeed h h.nextFeed (.subscribe id))) := by
        rw [feed?_act, feed?_nextFeed, if_pos rfl, Action.newFeed?, if_pos hn]; rfl
      exact number_lt_of_feed? this
  ids_nodup k f hf := by
    rcases exists_ids_of_act hf with he | ⟨g, hg, he⟩
    · rw [he]; exact made_nodup h k a
    · rw [he]
      refine (hc.ids_nodup k g hg).append (made_nodup h k a) fun t ht hm => ?_
      have := hc.ids_le k g hg t ht
      rw [(mem_made_iff.1 hm).1] at this
      exact absurd this (Nat.not_succ_le_self _)
  ids_le k f hf t ht := by
    rcases mem_ids_of_act hf ht with ⟨g, hg, ht⟩ | ht
    · exact (hc.ids_le k g hg t ht).trans (made_le_act h a)
    · exact number_le_of_mem_made ht
  ids_apart k l f g hf hg t ht ht' := by
    -- a subscription made now is newer than every other one
    have old : ∀ k' f', h.feed? k' = some f' → t ∈ f'.ids → ∀ l', t ∉ a.made h l' := by
      intro k' f' hf' ht l' hm
      have := hc.ids_le k' f' hf' t ht
      rw [(mem_made_iff.1 hm).1] at this
      exact absurd this (Nat.not_succ_le_self _)
    rcases mem_ids_of_act hf ht with ⟨f', hf', hk⟩ | hk
    · rcases mem_ids_of_act hg ht' with ⟨g', hg', hl⟩ | hl
      · exact hc.ids_apart k l f' g' hf' hg' t hk hl
      · exact absurd hl (old k f' hf' hk l)
    · rcases mem_ids_of_act hg ht' with ⟨g', hg', hl⟩ | hl
      · exact absurd hk (old l g' hg' hl k)
      · have := (mem_made_iff.1 hk).2.symm.trans (mem_made_iff.1 hl).2
        exact (Prod.mk.inj (Option.some.inj this)).1
  ended k f hf := by
    obtain ⟨g, hg | ⟨-, hg⟩, rfl⟩ := exists_feed?_of_act hf
    · exact (hc.ended k g hg).play _
    · obtain ⟨buffer, rfl⟩ := exists_buffer_of_newFeed? hg
      exact (Feed.ended_empty buffer).play _

theorem Coherent.play (hc : h.Coherent) (actions : List (Action α)) : (h.play actions).Coherent := by
  induction actions generalizing h with
  | nil => exact hc
  | cons a actions ih => exact ih (hc.act a)

theorem coherent_play (buffer : Nat) (actions : List (Action α)) :
    (play { buffer } actions).Coherent :=
  (coherent_empty buffer).play actions

/-- A feed is registered with one workload at most, in all its time. -/
theorem Coherent.eq_of_registered_play (hc : h.Coherent) (hid : h.registered id = some k)
    {actions : List (Action α)} {other : WorkloadId}
    (ho : (h.play actions).registered other = some k) : other = id :=
  hc.registered_inj other id k (registered_of_play (hc.registered_lt id k hid) actions ho) hid

/-- **A feed is idle** when it contains no subscription. -/
theorem Coherent.isIdle_iff (hc : h.Coherent) : h.isIdle k ↔ ∀ t, h.contains k t = false := by
  unfold isIdle contains
  cases hf : h.feed? k with
  | none => simp
  | some f => simpa using Feed.isEmpty_iff (hc.ids_nodup k f hf)

theorem Coherent.eq_of_contains (hc : h.Coherent) {l : FeedId} (hk : h.contains k t)
    (hl : h.contains l t) : k = l := by
  obtain ⟨f, hf, hk⟩ := Option.any_eq_true _ _ |>.1 hk
  obtain ⟨g, hg, hl⟩ := Option.any_eq_true _ _ |>.1 hl
  exact hc.ids_apart k l f g hf hg t (Feed.mem_ids_of_contains hk) (Feed.mem_ids_of_contains hl)

/-- What an action leaves contained was contained before, or is made by the
    action. -/
theorem contains_of_act (hs : (h.act a).contains k t) : h.contains k t ∨ t ∈ a.made h k := by
  obtain ⟨f, hf, hs⟩ := Option.any_eq_true _ _ |>.1 hs
  obtain ⟨g, hg | ⟨-, hg⟩, rfl⟩ := exists_feed?_of_act hf
  · rcases Feed.contains_of_play _ hs with hs | hs
    · exact Or.inl (by simpa [contains, hg] using hs)
    · exact Or.inr hs
  · obtain ⟨buffer, rfl⟩ := exists_buffer_of_newFeed? hg
    rcases Feed.contains_of_play _ hs with hs | hs
    · simp [Feed.contains, Feed.stream?] at hs
    · exact Or.inr hs

/-- **A new subscription** is delivered to, unless the workload is registered
    with a closed feed. -/
theorem Coherent.stream?_subscribe (hc : h.Coherent) (id : WorkloadId)
    (ho : ∀ k f, h.registered id = some k → h.feed? k = some f → f.closed = false) :
    ∃ st, (h.act (.subscribe id)).stream? (h.subscribe id).1 = some st ∧ st.attached ∧ st.held := by
  have key : ∀ k f, (h.feed? k).or (if k = h.nextFeed then Action.newFeed? h (.subscribe id) else none) =
      some f → f.closed = false → f.stream? h.nextId = none →
      (h.registered id).getD h.nextFeed = k →
      ∃ st, (h.act (.subscribe id)).stream? ⟨k, h.nextId⟩ = some st ∧ st.attached ∧ st.held := by
    rintro k f hf hcl hn rfl
    refine ⟨f.newStream, ?_, by simp [Feed.newStream, hcl], rfl⟩
    rw [stream?, feed?_act, hf]
    simp [Action.onFeed, Action.target?, Feed.stream?_act, hn, Feed.Action.newStream?]
  rw [subscribe_fst]
  cases hr : h.registered id with
  | some k =>
    obtain ⟨f, hf⟩ := feed?_of_number_lt (hc.registered_lt id k hr)
    refine key k f (by rw [hf]; rfl) (ho k f hr hf) ?_ (by rw [hr]; rfl)
    -- no subscription made so far has the next number
    cases hs : f.stream? h.nextId with
    | none => rfl
    | some st =>
      have := hc.ids_le k f hf h.nextId (Feed.mem_ids_iff.2 ⟨st, hs⟩)
      exact absurd this (Nat.not_succ_le_self _)
  | none =>
    refine key h.nextFeed { buffer := h.buffer } ?_ rfl rfl (by rw [hr]; rfl)
    rw [feed?_nextFeed, if_pos rfl, Action.newFeed?, if_pos hr]; rfl

end Workmeter.Hub
