/-
  Workmeter — the members of a feed.

  A subscription is made once, stays known to the feed for good, and is never
  taken up again after its stream has ended.

  * `Feed.ids`: the subscriptions made at the feed;
  * `mem_map_filter_streams_iff`: those whose streams are of one kind;
  * `isEmpty_iff`: a feed is empty when it contains no subscription;
  * `contains_of_play`: what a history leaves contained was contained before, or
    is made by the history;
  * `Feed.Ended`, `Ended.play`: a closed feed contains nothing, now and for ever.
-/
import Mathlib.Data.List.Nodup
import Workmeter.Proofs.Feed.History

namespace Workmeter.Feed

variable {α : Type} {f : Feed α} {s : SubscriptionId}

/-- The subscriptions made at the feed, the oldest first. -/
def ids (f : Feed α) : List SubscriptionId := f.streams.map (·.1)

/-- The subscription that an action makes. -/
def Action.made : Action α → List SubscriptionId
  | .subscribe s => [s]
  | _ => []

theorem ids_onStream (f : Feed α) (s : SubscriptionId) (change : Stream α → Stream α) :
    (f.onStream s change).ids = f.ids := by simp [ids, onStream]

theorem ids_onStreams (f : Feed α) (change : Stream α → Stream α) :
    (f.onStreams change).ids = f.ids := by simp [ids, onStreams]

theorem ids_act (f : Feed α) (a : Action α) : (f.act a).ids = f.ids ++ a.made := by
  cases a with
  | subscribe t => simp [act, subscribe, ids, Action.made]
  | publish a =>
    simp only [act, publish, Action.made, List.append_nil]; split
    · rfl
    · exact ids_onStreams f _
  | evict t => exact (ids_onStream f t _).trans (List.append_nil _).symm
  | close => exact (ids_onStreams f _).trans (List.append_nil _).symm
  | letGo t => exact (ids_onStream f t _).trans (List.append_nil _).symm
  | receive t =>
    simp only [act, receive, Action.made, List.append_nil]; split
    · exact ids_onStream f t _
    · rfl

theorem ids_play (f : Feed α) (actions : List (Action α)) :
    (f.play actions).ids = f.ids ++ actions.flatMap Action.made := by
  induction actions generalizing f with
  | nil => simp
  | cons a actions ih => rw [play_cons, ih, ids_act, List.flatMap_cons, List.append_assoc]

theorem mem_ids_iff : s ∈ f.ids ↔ ∃ st, f.stream? s = some st := by
  unfold ids stream?
  induction f.streams with
  | nil => simp
  | cons e es ih =>
    obtain ⟨t, st⟩ := e
    by_cases ht : s = t
    · subst ht; simp
    · have : (s == t) = false := by simpa using ht
      simp [List.lookup_cons, ht, this, ih]

theorem contains_iff : f.contains s ↔ ∃ st, f.stream? s = some st ∧ st.attached := by
  simp [contains, Option.any_eq_true_iff_get, Option.isSome_iff_exists]
  constructor
  · rintro ⟨⟨st, hs⟩, h⟩
    exact ⟨st, hs, by simpa [hs] using h⟩
  · rintro ⟨st, hs, h⟩
    exact ⟨⟨st, hs⟩, by simpa [hs] using h⟩

theorem mem_ids_of_contains (h : f.contains s) : s ∈ f.ids := by
  obtain ⟨st, hs, -⟩ := contains_iff.1 h
  exact mem_ids_iff.2 ⟨st, hs⟩

theorem mem_streams_of_stream? {st : Stream α} (h : f.stream? s = some st) : (s, st) ∈ f.streams := by
  unfold stream? at h
  obtain ⟨before, after, he, -⟩ := List.lookup_eq_some_iff.1 h
  rw [he]; simp

theorem stream?_of_mem_streams {st : Stream α} (hn : f.ids.Nodup) (h : (s, st) ∈ f.streams) :
    f.stream? s = some st := by
  obtain ⟨st', hs'⟩ := mem_ids_iff.1 (List.mem_map_of_mem (f := (·.1)) h)
  have := List.inj_on_of_nodup_map hn h (mem_streams_of_stream? hs') rfl
  rw [hs']; exact congrArg some (Prod.mk.inj this).2.symm

theorem stream?_eq_none_iff : f.stream? s = none ↔ s ∉ f.ids := by
  rw [mem_ids_iff, ← Option.isSome_iff_exists, Option.not_isSome_iff_eq_none]

/-- The subscriptions whose streams are of one kind. -/
theorem mem_map_filter_streams_iff (hn : f.ids.Nodup) {p : Stream α → Bool} :
    s ∈ (f.streams.filter fun (_, st) => p st).map (·.1) ↔ ∃ st, f.stream? s = some st ∧ p st := by
  rw [List.mem_map]
  constructor
  · rintro ⟨⟨t, st⟩, hmem, rfl⟩
    obtain ⟨hin, hp⟩ := List.mem_filter.1 hmem
    exact ⟨st, stream?_of_mem_streams hn hin, hp⟩
  · rintro ⟨st, hs, hp⟩
    exact ⟨(s, st), List.mem_filter.2 ⟨mem_streams_of_stream? hs, hp⟩, rfl⟩

/-- **A feed is empty** when it contains no subscription. -/
theorem isEmpty_iff (hn : f.ids.Nodup) : f.isEmpty ↔ ∀ s, f.contains s = false := by
  rw [isEmpty, size, decide_eq_true_iff, List.countP_eq_zero]
  constructor
  · intro h s
    by_contra hc
    obtain ⟨st, hs, hat⟩ := contains_iff.1 (Bool.not_eq_false _ ▸ hc)
    exact h _ (mem_streams_of_stream? hs) hat
  · rintro h ⟨s, st⟩ hm hat
    have := h s
    rw [contains, stream?_of_mem_streams hn hm] at this
    simp [show st.attached = true from hat] at this

/-! ## Along a history -/

theorem stream?_play_of_some {st : Stream α} (hs : f.stream? s = some st) (actions : List (Action α)) :
    ∃ st', (f.play actions).stream? s = some st' ∧ (st'.held → st.held) ∧
      (st'.attached → st.attached) := by
  induction actions generalizing f st with
  | nil => exact ⟨st, hs, id, id⟩
  | cons a actions ih =>
    obtain ⟨st', hs', hh, hat⟩ := ih (stream?_act_of_some hs a)
    exact ⟨st', hs', fun h => held_of_onStream (hh h), fun h => attached_of_onStream (hat h)⟩

theorem contains_of_play (actions : List (Action α)) (h : (f.play actions).contains s) :
    f.contains s ∨ s ∈ actions.flatMap Action.made := by
  by_cases hm : s ∈ f.ids
  · obtain ⟨st, hs⟩ := mem_ids_iff.1 hm
    obtain ⟨st', hs', -, hat⟩ := stream?_play_of_some hs actions
    obtain ⟨st'', hs'', hat''⟩ := contains_iff.1 h
    obtain rfl := Option.some.inj (hs'.symm.trans hs'')
    exact Or.inl (contains_iff.2 ⟨st, hs, hat hat''⟩)
  · have := mem_ids_of_contains h
    rw [ids_play, List.mem_append] at this
    exact Or.inr (this.resolve_left hm)

/-- A feed delivers to a subscription until it is evicted, the feed is closed,
    or a publication finds that its reader let it go. -/
theorem attached_onStream {st : Stream α} {a : Action α} (hat : st.attached) (he : a ≠ .evict s)
    (hc : a ≠ .close) (hp : st.held ∨ ∀ x, a ≠ .publish x) : (a.onStream f s st).attached := by
  cases a with
  | publish x =>
    have hh : st.held := hp.resolve_right fun h => h x rfl
    simp only [Action.onStream]; split
    · exact hat
    · simp [Stream.offer, hat, hh]
  | evict t =>
    have ht : s ≠ t := fun e => he (by rw [e])
    simpa [Action.onStream, ht] using hat
  | close => exact absurd rfl hc
  | letGo t => simp only [Action.onStream]; split <;> exact hat
  | receive t => simp only [Action.onStream]; split <;> exact hat
  | subscribe => exact hat

/-- If the feed is closed, it contains nothing. -/
def Ended (f : Feed α) : Prop := f.closed → ∀ s, f.contains s = false

theorem closed_of_act {a : Action α} (hc : (f.act a).closed) : f.closed ∨ a = .close := by
  cases a with
  | publish a => simp only [act, publish] at hc; split at hc <;> exact Or.inl hc
  | receive t => simp only [act, receive] at hc; split at hc <;> exact Or.inl hc
  | close => exact Or.inr rfl
  | subscribe | evict | letGo => exact Or.inl hc

theorem Ended.act (h : f.Ended) (a : Action α) : (f.act a).Ended := by
  intro hc s
  by_contra hs
  obtain ⟨st, hst, hat⟩ := contains_iff.1 (Bool.not_eq_false _ ▸ hs)
  rw [stream?_act] at hst
  cases hf : f.stream? s with
  | some st₀ =>
    simp only [hf, Option.map_some, Option.some_or, Option.some.injEq] at hst
    subst hst
    -- the only action that closes the feed detaches the stream
    by_cases hcl : f.closed
    · have := h hcl s
      rw [contains, hf] at this
      simp [attached_of_onStream hat] at this
    · obtain rfl := (closed_of_act hc).resolve_left hcl
      simp [Action.onStream, Stream.detach] at hat
  | none =>
    simp only [hf, Option.map_none, Option.none_or] at hst
    cases a with
    | subscribe t =>
      simp only [Action.newStream?] at hst; split at hst
      · cases hst; simp only [newStream] at hat
        have : f.closed := hc
        simp [this] at hat
      · cases hst
    | publish | evict | close | letGo | receive => simp [Action.newStream?] at hst

theorem Ended.play (h : f.Ended) (actions : List (Action α)) : (f.play actions).Ended := by
  induction actions generalizing f with
  | nil => exact h
  | cons a actions ih => exact ih (h.act a)

theorem ended_empty (buffer : Nat) : Ended ({ buffer } : Feed α) := fun _ _ => rfl

end Workmeter.Feed
