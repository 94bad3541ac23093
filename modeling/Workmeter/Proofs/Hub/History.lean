/-
  Workmeter — the histories of a hub.

  Every action on a hub is at most one action on one of its feeds, together with
  a change of the registrations.  So what is known of the histories of a feed
  holds for each feed of a hub.

  * `Hub.Action`, `Hub.act`, `Hub.play`: the actions and what they do;
  * `feed?_act`: what an action does to each feed (`Action.onFeed`), the feed
    made by it included (`Action.newFeed?`);
  * `registered_act`: what it does to each registration (`Action.unregisters`,
    `Action.registers?`);
  * `registered_of_play`: a feed that left the registrations never comes back;
  * `stream?_act_of_some`: what it does to the delivery to a subscription
    (`Action.onStream`).
-/
import Mathlib.Data.List.Nodup
import Workmeter.Hub
import Workmeter.Proofs.Feed.Membership

namespace Workmeter

/-- One thing done to a hub. -/
inductive Hub.Action (α : Type) where
  | subscribe (id : WorkloadId)
  | unsubscribe (id : WorkloadId) (s : SubscriptionId)
  | stop (id : WorkloadId)
  | release (id : WorkloadId) (k : FeedId)
  | letGo (s : Subscription)
  | receive (s : Subscription)
  | makeFeed (buffer : Nat)
  | attach (k : FeedId)
  | publish (k : FeedId) (a : α)
  | evict (k : FeedId) (s : SubscriptionId)
  | close (k : FeedId)
  deriving DecidableEq

namespace Hub

variable {α : Type} {h : Hub α} {a : Action α} {id : WorkloadId} {k : FeedId} {t : SubscriptionId}

/-- Carries an action out. -/
def act (h : Hub α) : Action α → Hub α
  | .subscribe id => (h.subscribe id).2
  | .unsubscribe id s => h.unsubscribe id s
  | .stop id => h.stop id
  | .release id k => (h.releaseIfIdle id k).2
  | .letGo s => h.letGo s
  | .receive s => (h.receive s).2
  | .makeFeed buffer => (h.makeFeed buffer).2
  | .attach k => (h.attach k).2
  | .publish k a => (h.publish k a).2
  | .evict k s => h.evict k s
  | .close k => h.close k

/-- Carries the actions out, one after the other. -/
def play (h : Hub α) (actions : List (Action α)) : Hub α := actions.foldl act h

@[simp] theorem play_nil (h : Hub α) : h.play [] = h := rfl

@[simp] theorem play_cons (h : Hub α) (a : Action α) (actions : List (Action α)) :
    h.play (a :: actions) = (h.act a).play actions := rfl

@[simp] theorem play_append (h : Hub α) (xs ys : List (Action α)) :
    h.play (xs ++ ys) = (h.play xs).play ys := List.foldl_append

/-- The feed that is made next. -/
def nextFeed (h : Hub α) : FeedId := ⟨h.feeds.size⟩

/-- The subscription that is made next. -/
def nextId (h : Hub α) : SubscriptionId := ⟨h.made + 1⟩

/-- The delivery to a subscription. -/
def stream? (h : Hub α) (s : Subscription) : Option (Stream α) :=
  (h.feed? s.feed).bind (·.stream? s.id)

/-- The feed delivers to the subscription. -/
def contains (h : Hub α) (k : FeedId) (t : SubscriptionId) : Bool :=
  (h.feed? k).any (·.contains t)

@[simp] theorem contains_unregister (h : Hub α) (id : WorkloadId) (k : FeedId) (t : SubscriptionId) :
    (h.unregister id).contains k t = h.contains k t := rfl

/-! ## What an action does to a feed -/

/-- The feed that an action is about, and what it does to it. -/
def Action.target? (h : Hub α) : Action α → Option (FeedId × Feed.Action α)
  | .subscribe id => some ((h.registered id).getD h.nextFeed, .subscribe h.nextId)
  | .unsubscribe id s => (h.registered id).map (·, .evict s)
  | .stop id => (h.registered id).map (·, .close)
  | .letGo s => some (s.feed, .letGo s.id)
  | .receive s => some (s.feed, .receive s.id)
  | .attach k => some (k, .subscribe h.nextId)
  | .publish k a => some (k, .publish a)
  | .evict k s => some (k, .evict s)
  | .close k => some (k, .close)
  | .release _ _ | .makeFeed _ => none

theorem target?_publish_iff {x : α} : a.target? h = some (k, .publish x) ↔ a = .publish k x := by
  cases a <;> simp [Action.target?]

theorem target?_letGo_iff : a.target? h = some (k, .letGo t) ↔ a = .letGo ⟨k, t⟩ := by
  cases a with
  | letGo s => obtain ⟨l, i⟩ := s; simp [Action.target?]
  | unsubscribe id s | stop id => simp [Action.target?]
  | subscribe | release | receive | makeFeed | attach | publish | evict | close =>
    simp [Action.target?]

theorem target?_receive_iff : a.target? h = some (k, .receive t) ↔ a = .receive ⟨k, t⟩ := by
  cases a with
  | receive s => obtain ⟨l, i⟩ := s; simp [Action.target?]
  | unsubscribe id s | stop id => simp [Action.target?]
  | subscribe | release | letGo | makeFeed | attach | publish | evict | close =>
    simp [Action.target?]

/-- What an action does to the feed `k`. -/
def Action.onFeed (h : Hub α) (k : FeedId) (a : Action α) : List (Feed.Action α) :=
  match a.target? h with
  | some (l, b) => if l = k then [b] else []
  | none => []

/-- The feed that an action makes. -/
def Action.newFeed? (h : Hub α) : Action α → Option (Feed α)
  | .subscribe id => if h.registered id = none then some { buffer := h.buffer } else none
  | .makeFeed buffer => some { buffer }
  | _ => none

theorem feed?_onFeed_act (h : Hub α) (l k : FeedId) (b : Feed.Action α) :
    (h.onFeed l (·.act b)).feed? k = (h.feed? k).map (·.play (if l = k then [b] else [])) := by
  rw [feed?_onFeed]
  by_cases hl : l = k
  · subst hl; rw [if_pos rfl, if_pos rfl]; rfl
  · rw [if_neg (fun e => hl e.symm), if_neg hl]; simp

theorem feed?_nextFeed (h : Hub α) : h.feed? h.nextFeed = none := by simp [feed?, nextFeed]

theorem number_lt_of_feed? {f : Feed α} (hf : h.feed? k = some f) : k.number < h.feeds.size := by
  rw [feed?] at hf
  exact (Array.getElem?_eq_some_iff.1 hf).1

theorem feed?_of_number_lt (hk : k.number < h.feeds.size) : ∃ f, h.feed? k = some f :=
  ⟨_, Array.getElem?_eq_getElem hk⟩

theorem feed?_makeFeed_eq (h : Hub α) (buffer : Nat) (k : FeedId) :
    (h.makeFeed buffer).2.feed? k =
      (h.feed? k).or (if k = h.nextFeed then some { buffer } else none) := by
  rw [feed?_makeFeed]
  show (if k = h.nextFeed then _ else _) = _
  by_cases hk : k = h.nextFeed
  · rw [if_pos hk, if_pos hk, hk, feed?_nextFeed]; rfl
  · rw [if_neg hk, if_neg hk, Option.or_none]

/-- **What becomes of each feed.** -/
theorem feed?_act (h : Hub α) (a : Action α) (k : FeedId) :
    (h.act a).feed? k =
      ((h.feed? k).or (if k = h.nextFeed then a.newFeed? h else none)).map (·.play (a.onFeed h k)) := by
  cases a with
  | subscribe id =>
    simp only [act, subscribe, Action.newFeed?, Action.onFeed, Action.target?]
    cases hr : h.registered id with
    | some l =>
      simp only [reduceCtorEq, if_false, ite_self, Option.or_none]
      exact feed?_onFeed_act h l k (.subscribe h.nextId)
    | none =>
      refine (feed?_onFeed_act (h.register id).2 h.nextFeed k (.subscribe h.nextId)).trans ?_
      exact congrArg (Option.map _) (feed?_makeFeed_eq h h.buffer k)
  | unsubscribe id s =>
    simp only [act, unsubscribe, Action.newFeed?, Action.onFeed, Action.target?, ite_self,
      Option.or_none]
    cases hr : h.registered id with
    | some l =>
      simp only [Option.map_some]
      rw [← feed?_onFeed_act]; split <;> rfl
    | none => simp
  | stop id =>
    simp only [act, stop, Action.newFeed?, Action.onFeed, Action.target?, ite_self, Option.or_none]
    cases hr : h.registered id with
    | some l => exact feed?_onFeed_act (h.unregister id) l k .close
    | none => simp
  | release id l =>
    simp only [act, releaseIfIdle, Action.newFeed?, Action.onFeed, Action.target?, ite_self,
      Option.or_none]
    split <;> simp [unregister, feed?]
  | makeFeed buffer =>
    refine (feed?_makeFeed_eq h buffer k).trans ?_
    simp [Action.newFeed?, Action.onFeed, Action.target?]
  | receive s =>
    simp only [act, receive, Action.newFeed?, Action.onFeed, Action.target?, ite_self, Option.or_none]
    rw [← feed?_onFeed_act]
    cases hf : h.feed? s.feed with
    | some f => simp only [feed?_onFeed, hf]; rfl
    | none => rw [feed?_onFeed, hf]; split <;> simp_all
  | publish l a =>
    simp only [act, publish, Action.newFeed?, Action.onFeed, Action.target?, ite_self, Option.or_none]
    rw [← feed?_onFeed_act]
    cases hf : h.feed? l with
    | some f => simp only [feed?_onFeed, hf]; rfl
    | none => rw [feed?_onFeed, hf]; split <;> simp_all
  | letGo s =>
    simp only [Action.newFeed?, ite_self, Option.or_none]
    exact feed?_onFeed_act h s.feed k (.letGo s.id)
  | attach l =>
    simp only [Action.newFeed?, ite_self, Option.or_none]
    exact feed?_onFeed_act h l k (.subscribe h.nextId)
  | evict l s =>
    simp only [Action.newFeed?, ite_self, Option.or_none]
    exact feed?_onFeed_act h l k (.evict s)
  | close l =>
    simp only [Action.newFeed?, ite_self, Option.or_none]
    exact feed?_onFeed_act h l k .close

/-- A feed after an action was there before, or is new and had no stream. -/
theorem exists_feed?_of_act {f : Feed α} (hf : (h.act a).feed? k = some f) :
    ∃ g, (h.feed? k = some g ∨ k = h.nextFeed ∧ a.newFeed? h = some g) ∧
      f = g.play (a.onFeed h k) := by
  rw [feed?_act, Option.map_eq_some_iff] at hf
  obtain ⟨g, hg, rfl⟩ := hf
  refine ⟨g, ?_, rfl⟩
  rcases Option.or_eq_some_iff.1 hg with hg | ⟨-, hg⟩
  · exact Or.inl hg
  · by_cases hk : k = h.nextFeed
    · rw [if_pos hk] at hg; exact Or.inr ⟨hk, hg⟩
    · rw [if_neg hk] at hg; cases hg

theorem feed?_act_of_some {f : Feed α} (hf : h.feed? k = some f) (a : Action α) :
    (h.act a).feed? k = some (f.play (a.onFeed h k)) := by
  rw [feed?_act, hf]; rfl

theorem exists_buffer_of_newFeed? {f : Feed α} (hf : a.newFeed? h = some f) :
    ∃ buffer, f = { buffer } := by
  cases a with
  | subscribe id =>
    simp only [Action.newFeed?] at hf; split at hf
    · exact ⟨_, (Option.some.inj hf).symm⟩
    · cases hf
  | makeFeed buffer => exact ⟨_, (Option.some.inj hf).symm⟩
  | unsubscribe | stop | release | letGo | receive | attach | publish | evict | close => cases hf

theorem number_lt_act (hk : k.number < h.feeds.size) (a : Action α) :
    k.number < (h.act a).feeds.size := by
  obtain ⟨f, hf⟩ := feed?_of_number_lt hk
  exact number_lt_of_feed? (feed?_act_of_some hf a)

theorem number_lt_play (hk : k.number < h.feeds.size) (actions : List (Action α)) :
    k.number < (h.play actions).feeds.size := by
  induction actions generalizing h with
  | nil => exact hk
  | cons a actions ih => exact ih (number_lt_act hk a)

/-! ## What an action does to a registration -/

/-- The action unregisters the workload. -/
def Action.unregisters (h : Hub α) (id : WorkloadId) : Action α → Bool
  | .unsubscribe other s =>
    decide (other = id) && (h.registered id).any fun k => (h.evict k s).isIdle k
  | .stop other => decide (other = id)
  | .release other k => decide (other = id) && decide (h.registered id = some k) && h.isIdle k
  | _ => false

/-- The feed that the action registers the workload with, if it has none. -/
def Action.registers? (h : Hub α) (id : WorkloadId) : Action α → Option FeedId
  | .subscribe other => if other = id then some h.nextFeed else none
  | _ => none

@[simp] theorem registered_onFeed (h : Hub α) (k : FeedId) (change : Feed α → Feed α) :
    (h.onFeed k change).registered id = h.registered id := rfl

/-- **What becomes of each registration.** -/
theorem registered_act (h : Hub α) (a : Action α) (id : WorkloadId) :
    (h.act a).registered id =
      if a.unregisters h id then none else (h.registered id).or (a.registers? h id) := by
  cases a with
  | subscribe other =>
    simp only [act, subscribe, Action.unregisters, Action.registers?]
    cases hr : h.registered other with
    | some k =>
      show h.registered id = _
      by_cases ho : other = id
      · subst ho; simp [hr]
      · simp [ho]
    | none =>
      refine (registered_register h other id).trans ?_
      by_cases ho : other = id
      · subst ho; simp [hr]; rfl
      · simp [ho, Ne.symm ho]
  | unsubscribe other s =>
    simp only [act, unsubscribe, Action.unregisters, Action.registers?, Option.or_none]
    by_cases ho : other = id
    · subst ho
      cases hr : h.registered other with
      | none => simp [hr]
      | some k =>
        by_cases hi : (h.evict k s).isIdle k
        · simp [hi, registered_unregister]
        · simpa [hi] using (show (h.evict k s).registered other = some k from hr)
    · cases hr : h.registered other with
      | none => simp [ho]
      | some k =>
        simp only [ho, decide_false, Bool.false_and, Bool.false_eq_true, if_false]
        split
        · rw [registered_unregister, if_neg (Ne.symm ho)]; rfl
        · rfl
  | stop other =>
    simp only [act, stop, Action.unregisters, Action.registers?, Option.or_none]
    by_cases ho : other = id
    · subst ho
      cases hr : h.registered other with
      | none => simp [hr]
      | some k => simpa [close] using registered_unregister h other other
    · cases hr : h.registered other with
      | none => simp [ho]
      | some k => simpa [close, ho, Ne.symm ho] using registered_unregister h other id
  | release other k =>
    simp only [act, releaseIfIdle, Action.unregisters, Action.registers?, Option.or_none]
    by_cases ho : other = id
    · subst ho
      split
      · rename_i hc; simp [hc.1, hc.2, registered_unregister]
      · rename_i hc
        have : ¬ (h.registered other = some k ∧ h.isIdle k = true) := hc
        by_cases hr : h.registered other = some k
        · simp [hr, show h.isIdle k = false by simpa [hr] using this]
        · simp [hr]
    · simp only [ho, decide_false, Bool.false_and, Bool.false_eq_true, if_false]
      split
      · rw [registered_unregister, if_neg (Ne.symm ho)]
      · rfl
  | receive s =>
    simp only [act, receive, Action.unregisters, Action.registers?, Option.or_none]
    cases h.feed? s.feed <;> simp
  | publish k a =>
    simp only [act, publish, Action.unregisters, Action.registers?, Option.or_none]
    cases h.feed? k <;> simp
  | letGo | makeFeed | attach | evict | close => exact (Option.or_none ..).symm

theorem registered_of_act (hr : (h.act a).registered id = some k) :
    h.registered id = some k ∨ h.registered id = none ∧ a = .subscribe id ∧ k = h.nextFeed := by
  rw [registered_act] at hr
  split at hr
  · cases hr
  · rcases Option.or_eq_some_iff.1 hr with hold | ⟨hn, hnew⟩
    · exact Or.inl hold
    · cases a with
      | subscribe other =>
        simp only [Action.registers?] at hnew; split at hnew
        · rename_i ho; subst ho; exact Or.inr ⟨hn, rfl, (Option.some.inj hnew).symm⟩
        · cases hnew
      | unsubscribe | stop | release | letGo | receive | makeFeed | attach | publish | evict | close =>
        cases hnew

/-- **A feed that left the registrations never comes back**, for a new
    registration makes a feed of its own. -/
theorem registered_of_play (hk : k.number < h.feeds.size) (actions : List (Action α))
    (hr : (h.play actions).registered id = some k) : h.registered id = some k := by
  induction actions generalizing h with
  | nil => exact hr
  | cons a actions ih =>
    rcases registered_of_act (ih (number_lt_act hk a) hr) with hr | ⟨-, -, rfl⟩
    · exact hr
    · exact absurd hk (Nat.lt_irrefl _)

/-! ## One subscription -/

theorem contains_iff : h.contains k t ↔ ∃ st, h.stream? ⟨k, t⟩ = some st ∧ st.attached := by
  unfold contains stream?
  cases h.feed? k with
  | none => simp
  | some f => simpa using Feed.contains_iff

/-- What an action does to the delivery to a subscription. -/
def Action.onStream (h : Hub α) (s : Subscription) (a : Action α) (st : Stream α) : Stream α :=
  match a.target? h, h.feed? s.feed with
  | some (l, b), some f => if l = s.feed then b.onStream f s.id st else st
  | _, _ => st

theorem stream?_act_of_some {s : Subscription} {st : Stream α} (hs : h.stream? s = some st)
    (a : Action α) : (h.act a).stream? s = some (a.onStream h s st) := by
  obtain ⟨f, hf, hst⟩ := Option.bind_eq_some_iff.1 hs
  rw [stream?, feed?_act_of_some hf, Option.bind_some]
  unfold Action.onFeed Action.onStream
  cases a.target? h with
  | none => exact hst
  | some p =>
    obtain ⟨l, b⟩ := p
    simp only [hf]
    by_cases hl : l = s.feed
    · rw [if_pos hl, if_pos hl]; exact Feed.stream?_act_of_some hst b
    · rw [if_neg hl, if_neg hl]; exact hst

/-- A feed delivers to a subscription until it is evicted, the feed is closed,
    or a publication finds that its reader let it go. -/
theorem attached_onStream {s : Subscription} {st : Stream α} (hat : st.attached)
    (he : a.target? h ≠ some (s.feed, .evict s.id)) (hc : a.target? h ≠ some (s.feed, .close))
    (hp : st.held ∨ ∀ x, a.target? h ≠ some (s.feed, .publish x)) :
    (a.onStream h s st).attached := by
  unfold Action.onStream
  split
  · rename_i l b f ht hf
    split
    · rename_i hl; subst hl
      exact Feed.attached_onStream hat (fun e => he (by rw [ht, e])) (fun e => hc (by rw [ht, e]))
        (hp.imp id fun hp x e => hp x (by rw [ht, e]))
    · exact hat
  · exact hat

theorem attached_of_onStream {s : Subscription} {st : Stream α}
    (hat : (a.onStream h s st).attached) : st.attached := by
  unfold Action.onStream at hat
  split at hat
  · split at hat
    · exact Feed.attached_of_onStream hat
    · exact hat
  · exact hat

theorem subscribe_fst (h : Hub α) (id : WorkloadId) :
    (h.subscribe id).1 = ⟨(h.registered id).getD h.nextFeed, h.nextId⟩ := by
  unfold subscribe
  cases h.registered id <;> rfl

theorem registered_subscribe (h : Hub α) (id : WorkloadId) :
    (h.act (.subscribe id)).registered id = some (h.subscribe id).1.feed := by
  rw [registered_act, subscribe_fst]
  cases h.registered id <;> simp [Action.unregisters, Action.registers?]

end Hub

end Workmeter
