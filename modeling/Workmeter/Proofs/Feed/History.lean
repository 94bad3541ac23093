/-
  Workmeter — the histories of a feed, and what they say about one reader.

  A history is a list of actions, carried out one after the other.  What a
  reader is due, and how far it has come, is told from the history alone,
  without a look into its inbox.

  * `Feed.Action`, `Feed.act`, `Feed.play`: the actions and what they do;
  * `stream?_act`: an action changes each stream by itself (`Action.onStream`),
    and never attaches a stream again or lets a reader hold one it let go;
  * `Feed.receipts`, `Feed.received`: what the receipts of one reader gave;
  * `Reader`, `Feed.reader`: the items published while the feed delivered to the
    subscription, and the place from which its reader reads on;
  * `Reader.Sound`: the places read increase, and a place that was passed over
    lies too far behind the newest item to be kept (`sound_reader`).
-/
import Mathlib.Data.List.Basic
import Mathlib.Order.Bounds.Basic
import Workmeter.Feed.Basic

namespace Workmeter

/-! ## Histories -/

/-- One thing done to a feed. -/
inductive Feed.Action (α : Type) where
  | subscribe (s : SubscriptionId)
  | publish (a : α)
  | evict (s : SubscriptionId)
  | close
  | letGo (s : SubscriptionId)
  | receive (s : SubscriptionId)

/-- The item that a reader found, if any. -/
def Reading.item? {α : Type} : Reading α → Option α
  | item a => some a
  | waiting | ended => none

theorem Stream.held_offer {α : Type} (st : Stream α) (x : α) : (st.offer x).held = st.held := by
  unfold offer
  split
  · split <;> rfl
  · rfl

namespace Feed

variable {α : Type}

/-- Carries an action out. -/
def act (f : Feed α) : Action α → Feed α
  | .subscribe s => f.subscribe s
  | .publish a => (f.publish a).2
  | .evict s => f.evict s
  | .close => f.close
  | .letGo s => f.letGo s
  | .receive s => (f.receive s).2

/-- Carries the actions out, one after the other. -/
def play (f : Feed α) (actions : List (Action α)) : Feed α := actions.foldl act f

/-- The subscription was made here and its reader has not let it go. -/
def holds (f : Feed α) (s : SubscriptionId) : Bool := (f.stream? s).any (·.held)

/-- What an action gives to the reader of a subscription. -/
def receipt (s : SubscriptionId) (f : Feed α) : Action α → List (List Nat × Reading α)
  | .receive t => if t = s then (f.receive t).1.toList else []
  | _ => []

/-- What the receipts on a subscription give along a history. -/
def receipts (s : SubscriptionId) : Feed α → List (Action α) → List (List Nat × Reading α)
  | _, [] => []
  | f, a :: actions => f.receipt s a ++ receipts s (f.act a) actions

/-- The items received on a subscription along a history. -/
def received (s : SubscriptionId) (f : Feed α) (actions : List (Action α)) : List α :=
  (f.receipts s actions).filterMap (·.2.item?)

@[simp] theorem play_nil (f : Feed α) : f.play [] = f := rfl

@[simp] theorem play_cons (f : Feed α) (a : Action α) (actions : List (Action α)) :
    f.play (a :: actions) = (f.act a).play actions := rfl

@[simp] theorem play_append (f : Feed α) (xs ys : List (Action α)) :
    f.play (xs ++ ys) = (f.play xs).play ys := List.foldl_append

@[simp] theorem buffer_act (f : Feed α) (a : Action α) : (f.act a).buffer = f.buffer := by
  cases a with
  | publish a => simp only [act, publish]; split <;> rfl
  | receive s => simp only [act, receive]; split <;> rfl
  | subscribe | evict | close | letGo => rfl

@[simp] theorem buffer_play (f : Feed α) (actions : List (Action α)) :
    (f.play actions).buffer = f.buffer := by
  induction actions generalizing f with
  | nil => rfl
  | cons a actions ih => rw [play_cons, ih, buffer_act]

/-- What an action does to the stream of `s`, if there is one. -/
def Action.onStream (f : Feed α) (s : SubscriptionId) : Action α → Stream α → Stream α
  | .publish a => if f.closed then id else Stream.offer a
  | .evict t => if s = t then Stream.detach else id
  | .close => Stream.detach
  | .letGo t => if s = t then Stream.letGo else id
  | .receive t => if s = t then fun st => st.receive.2 else id
  | .subscribe _ => id

/-- The stream that an action makes for `s`, if there is none yet. -/
def Action.newStream? (f : Feed α) (s : SubscriptionId) : Action α → Option (Stream α)
  | .subscribe t => if s = t then some f.newStream else none
  | _ => none

theorem stream?_act (f : Feed α) (a : Action α) (s : SubscriptionId) :
    (f.act a).stream? s = ((f.stream? s).map (a.onStream f s)).or (a.newStream? f s) := by
  cases a with
  | subscribe t => simp [act, stream?_subscribe, Action.newStream?, Action.onStream]
  | publish a =>
    simp only [act, stream?_publish, Action.onStream, Action.newStream?, Option.or_none]
    split <;> simp
  | evict t =>
    simp only [act, stream?_evict, Action.onStream, Action.newStream?, Option.or_none]
    split <;> simp
  | close => simp [act, stream?_close, Action.newStream?, Action.onStream]
  | letGo t =>
    simp only [act, stream?_letGo, Action.onStream, Action.newStream?, Option.or_none]
    split <;> simp
  | receive t =>
    simp only [act, stream?_receive, Action.onStream, Action.newStream?, Option.or_none]
    split <;> simp

theorem stream?_act_of_some {f : Feed α} {s : SubscriptionId} {st : Stream α}
    (hs : f.stream? s = some st) (a : Action α) :
    (f.act a).stream? s = some (a.onStream f s st) := by
  simp [stream?_act, hs]

theorem held_onStream {f : Feed α} {s : SubscriptionId} {a : Action α} {st : Stream α}
    (hne : a ≠ .letGo s) : (a.onStream f s st).held = st.held := by
  cases a with
  | publish x =>
    simp only [Action.onStream]; split
    · rfl
    · exact st.held_offer x
  | letGo t =>
    have ht : s ≠ t := fun e => hne (by rw [e])
    simp [Action.onStream, ht]
  | evict t | receive t => simp only [Action.onStream]; split <;> rfl
  | subscribe | close => rfl

theorem held_of_onStream {f : Feed α} {s : SubscriptionId} {a : Action α} {st : Stream α}
    (h : (a.onStream f s st).held) : st.held := by
  by_cases ha : a = .letGo s
  · subst ha
    simp [Action.onStream, Stream.letGo] at h
  · rwa [held_onStream ha] at h

theorem attached_of_onStream {f : Feed α} {s : SubscriptionId} {a : Action α} {st : Stream α}
    (h : (a.onStream f s st).attached) : st.attached := by
  cases a with
  | publish a =>
    simp only [Action.onStream] at h; split at h
    · exact h
    · simp only [Stream.offer] at h
      split_ifs at h with hat <;> first | exact hat | exact h
  | evict t =>
    simp only [Action.onStream] at h; split at h
    · simp [Stream.detach] at h
    · exact h
  | close => simp [Action.onStream, Stream.detach] at h
  | letGo t => simp only [Action.onStream] at h; split at h <;> exact h
  | receive t => simp only [Action.onStream] at h; split at h <;> exact h
  | subscribe => exact h

theorem held_of_play {f : Feed α} {s : SubscriptionId} {st : Stream α}
    (hs : f.stream? s = some st) (actions : List (Action α)) (h : (f.play actions).holds s) :
    st.held := by
  induction actions generalizing f st with
  | nil => simpa [holds, hs] using h
  | cons a actions ih => exact held_of_onStream (ih (stream?_act_of_some hs a) h)

theorem received_cons (s : SubscriptionId) (f : Feed α) (a : Action α) (actions : List (Action α)) :
    f.received s (a :: actions) =
      (f.receipt s a).filterMap (·.2.item?) ++ (f.act a).received s actions := by
  simp [received, receipts]

end Feed

/-! ## The reference for one reader -/

/-- How a reader stands after a history. -/
structure Reader (α : Type) where
  /-- The items published while the feed was open and delivered to its subscription. -/
  due : List α := []
  /-- The place in `due` from which it reads on. -/
  position : Nat := 0
  /-- The places it has read. -/
  taken : List Nat := []

namespace Reader

variable {α : Type}

/-- The place that the next receipt reads: of the last `capacity` items the
    oldest one that is not behind the position. -/
def next (capacity : Nat) (r : Reader α) : Nat := max r.position (r.due.length - capacity)

/-- What an action on the feed changes for the reader of `s`. -/
def act (s : SubscriptionId) (f : Feed α) (r : Reader α) : Feed.Action α → Reader α
  | .publish a => if f.closed = false ∧ f.contains s then { r with due := r.due ++ [a] } else r
  | .receive t =>
    if t = s ∧ r.position < r.due.length then
      let place := r.next (capacityFor f.buffer)
      { r with position := place + 1, taken := r.taken ++ [place] }
    else r
  | .subscribe _ | .evict _ | .close | .letGo _ => r

/-- What the next receipt gives: the number of items driven out since the last
    one, if any, and the oldest item that is left. -/
def answer (capacity : Nat) (attached : Bool) (r : Reader α) : List Nat × Reading α :=
  (if r.position < r.next capacity then [r.next capacity - r.position] else [],
    match r.due[r.next capacity]? with
    | some a => .item a
    | none => if attached then .waiting else .ended)

end Reader

/-- How the reader of `s` stands after a history. -/
def Feed.reader {α : Type} (s : SubscriptionId) : Feed α → Reader α → List (Feed.Action α) → Reader α
  | _, r, [] => r
  | f, r, a :: actions => Feed.reader s (f.act a) (r.act s f a) actions

theorem Feed.reader_append {α : Type} (s : SubscriptionId) (f : Feed α) (r : Reader α)
    (xs ys : List (Feed.Action α)) :
    f.reader s r (xs ++ ys) = (f.play xs).reader s (f.reader s r xs) ys := by
  induction xs generalizing f r with
  | nil => rfl
  | cons a xs ih => simp [Feed.reader, ih]

namespace Reader

variable {α : Type}

/-- The places read increase, and a place behind the position was read or lies
    at least `capacity` items behind the newest one. -/
structure Sound (capacity : Nat) (r : Reader α) : Prop where
  position_le : r.position ≤ r.due.length
  increasing : r.taken.Pairwise (· < ·)
  taken_lt : ∀ i ∈ r.taken, i < r.position
  passed : ∀ i < r.position, i ∈ r.taken ∨ i + capacity < r.due.length

theorem position_le_next (capacity : Nat) (r : Reader α) : r.position ≤ r.next capacity :=
  Nat.le_max_left ..

theorem next_lt {capacity : Nat} {r : Reader α} (hc : 0 < capacity)
    (h : r.position < r.due.length) : r.next capacity < r.due.length := by
  unfold next; omega

/-- No reader reads behind what the ring keeps, so a place it skips is lost for good. -/
theorem Sound.act {f : Feed α} {r : Reader α} (h : r.Sound (capacityFor f.buffer))
    (hc : 0 < capacityFor f.buffer) (s : SubscriptionId) (a : Feed.Action α) :
    (r.act s f a).Sound (capacityFor f.buffer) := by
  cases a with
  | publish a =>
    simp only [Reader.act]
    split
    · have hl : (r.due ++ [a]).length = r.due.length + 1 := by simp
      have hp := h.position_le
      refine ⟨by simp only [hl]; omega, h.increasing, h.taken_lt, fun i hi => ?_⟩
      rcases h.passed i hi with ht | hlt
      · exact Or.inl ht
      · exact Or.inr (by simp only [hl]; omega)
    · exact h
  | receive t =>
    simp only [Reader.act]
    split
    · rename_i ht
      have hn := next_lt hc ht.2
      have hpn := r.position_le_next (capacityFor f.buffer)
      refine ⟨hn, ?_, fun i hi => ?_, fun i hi => ?_⟩
      · refine List.pairwise_append.2 ⟨h.increasing, by simp, fun i hi j hj => ?_⟩
        rw [List.mem_singleton.1 hj]
        exact (h.taken_lt i hi).trans_le hpn
      · rcases List.mem_append.1 hi with hi | hi
        · exact ((h.taken_lt i hi).trans_le hpn).trans (Nat.lt_succ_self _)
        · rw [List.mem_singleton.1 hi]; exact Nat.lt_succ_self _
      · by_cases hir : i < r.position
        · rcases h.passed i hir with hm | hlt
          · exact Or.inl (List.mem_append_left _ hm)
          · exact Or.inr hlt
        · by_cases hin : i = r.next (capacityFor f.buffer)
          · exact Or.inl (by simp [hin])
          · -- a place between the position and the one read was driven out
            have hi' : i < r.next (capacityFor f.buffer) + 1 := hi
            exact Or.inr (by unfold next at hin hi'; simp only; omega)
    · exact h
  | subscribe | evict | close | letGo => exact h

theorem sound_empty (capacity : Nat) : ({} : Reader α).Sound capacity :=
  ⟨le_rfl, .nil, by simp, by simp⟩

end Reader

theorem Feed.sound_reader {α : Type} {f : Feed α} {r : Reader α} (s : SubscriptionId)
    (h : r.Sound (capacityFor f.buffer)) (hc : 0 < capacityFor f.buffer)
    (actions : List (Feed.Action α)) :
    (f.reader s r actions).Sound (capacityFor f.buffer) := by
  induction actions generalizing f r with
  | nil => exact h
  | cons a actions ih =>
    have := ih (f := f.act a) (by rw [f.buffer_act]; exact h.act hc s a) (by rwa [f.buffer_act])
    rwa [f.buffer_act] at this

/-- Items are only ever added to what a reader is due. -/
theorem Feed.due_reader {α : Type} (s : SubscriptionId) (f : Feed α) (r : Reader α)
    (actions : List (Feed.Action α)) : r.due <+: (f.reader s r actions).due := by
  induction actions generalizing f r with
  | nil => exact List.prefix_rfl
  | cons a actions ih =>
    refine List.IsPrefix.trans ?_ (ih (f.act a) (r.act s f a))
    cases a with
    | publish a =>
      simp only [Reader.act]; split
      · exact List.prefix_append ..
      · exact List.prefix_rfl
    | receive t => simp only [Reader.act]; split <;> exact List.prefix_rfl
    | subscribe | evict | close | letGo => exact List.prefix_rfl

end Workmeter
