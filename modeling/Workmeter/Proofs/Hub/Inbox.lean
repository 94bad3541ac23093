/-
  Workmeter — what the subscriptions of a hub have not read.

  * `Hub.inbox`, `Hub.holds`: what a subscription has not read, and whether its
    reader keeps it;
  * `inbox_act_of_isQuiet`, `inbox_publish`: only a publication puts an item into
    an inbox, and only into those of the held subscriptions that the feed
    delivers to;
  * `contains_publish`: and it ends the others;
  * `inbox_receive`: a receipt takes the oldest item from the inbox of its reader.
-/
import Workmeter.Proofs.Feed.Delivery
import Workmeter.Proofs.Hub.Coherence

namespace Workmeter

/-! ## Inboxes -/

/-- The inbox of a subscription; before it is made, the one that it will get. -/
def Feed.inbox {α : Type} (f : Feed α) (t : SubscriptionId) : Inbox α :=
  ((f.stream? t).getD f.newStream).inbox

namespace Hub

/-- The inbox of a subscription; a feed that is not made yet is empty. -/
def inbox {α : Type} (h : Hub α) (s : Subscription) : Inbox α :=
  ((h.feed? s.feed).getD { buffer := h.buffer }).inbox s.id

/-- The subscription was made and its reader has not let it go. -/
def holds {α : Type} (h : Hub α) (s : Subscription) : Bool := (h.stream? s).any (·.held)

/-- What happens in a round apart from publications. -/
def Action.isQuiet {α : Type} : Action α → Bool
  | .subscribe _ | .unsubscribe _ _ | .stop _ | .release _ _ | .letGo _ => true
  | _ => false

end Hub

namespace Feed

variable {α : Type}

/-- Only publications and receipts change an inbox. -/
theorem inbox_act (f : Feed α) (t : SubscriptionId) {a : Action α} (hp : ∀ x, a ≠ .publish x)
    (hr : ∀ s, a ≠ .receive s) : (f.act a).inbox t = f.inbox t := by
  have hnew : (f.act a).newStream.inbox = f.newStream.inbox := by
    simp only [newStream, buffer_act]
  unfold inbox
  rw [stream?_act]
  cases hs : f.stream? t with
  | some st =>
    simp only [Option.map_some, Option.some_or, Option.getD_some]
    cases a with
    | publish x => exact absurd rfl (hp x)
    | receive s => exact absurd rfl (hr s)
    | evict s => simp only [Action.onStream]; split <;> rfl
    | letGo s => simp only [Action.onStream]; split <;> rfl
    | subscribe | close => rfl
  | none =>
    simp only [Option.map_none, Option.none_or, Option.getD_none]
    cases hn : a.newStream? f t with
    | none => exact hnew
    | some st =>
      cases a with
      | subscribe s =>
        simp only [Action.newStream?] at hn; split at hn
        · cases hn; rfl
        · cases hn
      | publish | evict | close | letGo | receive => cases hn

/-- A publication puts the item into the inboxes of the held subscriptions that
    the feed delivers to. -/
theorem inbox_publish {f : Feed α} (he : f.Ended) (x : α) (t : SubscriptionId) :
    (f.publish x).2.inbox t =
      if f.contains t ∧ f.holds t then (f.inbox t).put x else f.inbox t := by
  have hnew : (f.publish x).2.newStream.inbox = f.newStream.inbox := by
    simp only [newStream, show (f.publish x).2.buffer = f.buffer from buffer_act f (.publish x)]
  unfold inbox
  rw [stream?_publish]
  cases hs : f.stream? t with
  | none => simpa [contains, holds, hs] using hnew
  | some st =>
    by_cases hcl : f.closed
    · simp [he hcl t, hcl]
    · cases hat : st.attached <;> cases hh : st.held <;>
        simp [contains, holds, hs, hcl, Stream.offer, hat, hh]

/-- A publication finds the subscriptions that were let go. -/
theorem contains_publish {f : Feed α} (he : f.Ended) (x : α) (t : SubscriptionId) :
    (f.publish x).2.contains t = (f.contains t && f.holds t) := by
  by_cases hcl : f.closed
  · have hnot : f.contains t = false := he hcl t
    have hsame : (f.publish x).2 = f := by simp [publish, hcl]
    rw [hsame, hnot, Bool.false_and]
  · rw [contains, stream?_publish, if_neg hcl, contains, holds]
    cases f.stream? t with
    | none => rfl
    | some st => cases hat : st.attached <;> cases hh : st.held <;> simp [Stream.offer, hat, hh]

/-- A receipt takes from the inbox of its reader; there is nothing to take before
    the subscription is made. -/
theorem inbox_receive (f : Feed α) (s t : SubscriptionId) :
    (f.receive s).2.inbox t = if t = s then (f.inbox t).taken else f.inbox t := by
  have hnew : (f.receive s).2.newStream.inbox = f.newStream.inbox := by
    simp only [newStream, show (f.receive s).2.buffer = f.buffer from buffer_act f (.receive s)]
  unfold inbox
  rw [stream?_receive]
  by_cases ht : t = s
  · rw [if_pos ht, if_pos ht]
    cases hs : f.stream? t with
    | none => exact hnew
    | some st => simp [Stream.receive_eq]
  · rw [if_neg ht, if_neg ht]
    cases hs : f.stream? t with
    | none => exact hnew
    | some st => rfl

end Feed

namespace Hub

variable {α : Type} {h : Hub α} {a : Action α}

theorem buffer_act_of_isQuiet (ha : a.isQuiet) : (h.act a).buffer = h.buffer := by
  cases a with
  | subscribe id => simp only [act, subscribe]; split <;> rfl
  | unsubscribe id s =>
    simp only [act, unsubscribe]; split
    · split <;> rfl
    · rfl
  | stop id => simp only [act, stop]; split <;> rfl
  | release id k => simp only [act, releaseIfIdle]; split <;> rfl
  | letGo s => rfl
  | receive | makeFeed | attach | publish | evict | close => cases ha

/-- **Nothing but a publication** changes an inbox in a round. -/
theorem inbox_act_of_isQuiet (ha : a.isQuiet) (s : Subscription) :
    (h.act a).inbox s = h.inbox s := by
  have hplay : ∀ f : Feed α, (f.play (a.onFeed h s.feed)).inbox s.id = f.inbox s.id := by
    intro f
    unfold Action.onFeed
    cases ht : a.target? h with
    | none => rfl
    | some p =>
      obtain ⟨l, b⟩ := p
      by_cases hl : l = s.feed
      · simp only [if_pos hl]
        refine f.inbox_act s.id ?_ ?_
        · rintro x rfl
          rw [target?_publish_iff.1 ht] at ha; cases ha
        · rintro t rfl
          rw [target?_receive_iff.1 ht] at ha; cases ha
      · simp only [if_neg hl]; rfl
  unfold inbox
  rw [feed?_act, buffer_act_of_isQuiet ha]
  cases hf : h.feed? s.feed with
  | some f => exact hplay f
  | none =>
    rw [Option.none_or, Option.getD_none]
    by_cases hk : s.feed = h.nextFeed
    · rw [if_pos hk]
      cases hn : a.newFeed? h with
      | none => rfl
      | some f =>
        have : f = { buffer := h.buffer } := by
          cases a with
          | subscribe id =>
            simp only [Action.newFeed?] at hn; split at hn
            · exact (Option.some.inj hn).symm
            · cases hn
          | makeFeed => cases ha
          | unsubscribe | stop | release | letGo | receive | attach | publish | evict | close => cases hn
        rw [this]; exact hplay _
    · rw [if_neg hk]; rfl

theorem inbox_play_of_isQuiet {actions : List (Action α)} (ha : ∀ a ∈ actions, a.isQuiet)
    (s : Subscription) : (h.play actions).inbox s = h.inbox s := by
  induction actions generalizing h with
  | nil => rfl
  | cons a actions ih =>
    rw [play_cons, ih fun b hb => ha b (by simp [hb]), inbox_act_of_isQuiet (ha a (by simp))]

/-- **A publication** reaches the held subscriptions that the feed delivers to. -/
theorem inbox_publish (hc : h.Coherent) (k : FeedId) (x : α) (t : SubscriptionId) :
    (h.publish k x).2.inbox ⟨k, t⟩ =
      if h.contains k t ∧ h.holds ⟨k, t⟩ then (h.inbox ⟨k, t⟩).put x else h.inbox ⟨k, t⟩ := by
  unfold publish
  cases hf : h.feed? k with
  | none => simp [contains, hf]
  | some f =>
    have hcontains : h.contains k t = f.contains t := by simp [contains, hf]
    have hholds : h.holds ⟨k, t⟩ = f.holds t := by simp [holds, stream?, hf, Feed.holds]
    have hinbox : h.inbox ⟨k, t⟩ = f.inbox t := by simp [inbox, hf]
    rw [hcontains, hholds, hinbox, ← Feed.inbox_publish (hc.ended k f hf)]
    simp [inbox, feed?_onFeed, hf]

theorem inbox_publish_of_ne {k : FeedId} {s : Subscription} (hk : s.feed ≠ k) (x : α) :
    (h.publish k x).2.inbox s = h.inbox s := by
  unfold publish
  cases h.feed? k with
  | none => rfl
  | some f => simp only [inbox, feed?_onFeed, if_neg hk]; rfl

/-- A publication finds the subscriptions of the feed that were let go. -/
theorem contains_publish (hc : h.Coherent) (k : FeedId) (x : α) (t : SubscriptionId) :
    (h.publish k x).2.contains k t = (h.contains k t && h.holds ⟨k, t⟩) := by
  unfold publish
  cases hf : h.feed? k with
  | none => simp [contains, hf]
  | some f =>
    have hcontains : h.contains k t = f.contains t := by simp [contains, hf]
    have hholds : h.holds ⟨k, t⟩ = f.holds t := by simp [holds, stream?, hf, Feed.holds]
    rw [hcontains, hholds, ← Feed.contains_publish (hc.ended k f hf) x]
    simp [contains, feed?_onFeed, hf]

/-- **A receipt** takes from the inbox of its reader and from no other. -/
theorem inbox_receive (h : Hub α) (s t : Subscription) :
    (h.receive s).2.inbox t = if t = s then (h.inbox t).taken else h.inbox t := by
  have hbuffer : (h.receive s).2.buffer = h.buffer := by unfold receive; split <;> rfl
  have hfeed : (h.receive s).2.feed? t.feed =
      (h.feed? t.feed).map (·.play (if s.feed = t.feed then [.receive s.id] else [])) := by
    have := feed?_act h (.receive s) t.feed
    simp only [Action.newFeed?, ite_self, Option.or_none] at this
    exact this
  unfold inbox
  rw [hfeed, hbuffer]
  cases hf : h.feed? t.feed with
  | none => rw [Option.map_none]; split <;> rfl
  | some f =>
    simp only [Option.map_some, Option.getD_some]
    by_cases hk : s.feed = t.feed
    · rw [if_pos hk]
      refine (f.inbox_receive s.id t.id).trans ?_
      have : t.id = s.id ↔ t = s :=
        ⟨fun hi => by cases s; cases t; simp_all, fun he => by rw [he]⟩
      simp only [this]
    · rw [if_neg hk, if_neg fun he => hk (by rw [he])]; rfl

end Hub

end Workmeter
