/-
  Workmeter — what the readers of a hub receive.

  * `Hub.readings`, `Hub.received`: what the receipts on a subscription give along
    a history, and the items among it;
  * `received_receipt`: a receipt gives the oldest unread item, so what was
    received and what is unread are together what was unread before
    (`received_append_unread`);
  * `received_of_no_receipt`: nothing else gives an item to a reader;
  * `await_eq`: a reader who waits finds what a receipt gives;
  * `receiveAll_congr`: all that a reader can receive is in the feed;
  * `receiveAll_eq`: who reads until nothing is left gets all that was unread, and takes
    nothing from anybody else.
-/
import Workmeter.Proofs.Hub.Inbox

namespace Workmeter.Hub

variable {α : Type} {h : Hub α} {a : Action α} {s : Subscription}

/-- What an action gives to the reader of a subscription. -/
def reading (s : Subscription) (h : Hub α) : Action α → List (Reading α)
  | .receive t => if t = s then ((h.receive t).1.map (·.2)).toList else []
  | _ => []

/-- What the receipts on a subscription give along a history. -/
def readings (s : Subscription) : Hub α → List (Action α) → List (Reading α)
  | _, [] => []
  | h, a :: actions => h.reading s a ++ (h.act a).readings s actions

/-- The items received on a subscription along a history. -/
def received (s : Subscription) (h : Hub α) (actions : List (Action α)) : List α :=
  (h.readings s actions).filterMap Reading.item?

/-- The items that a subscription has not read, the oldest first. -/
def unreadItems (h : Hub α) (s : Subscription) : List α := (h.inbox s).unread.toList

theorem readings_append (s : Subscription) (h : Hub α) (xs ys : List (Action α)) :
    h.readings s (xs ++ ys) = h.readings s xs ++ (h.play xs).readings s ys := by
  induction xs generalizing h with
  | nil => rfl
  | cons a xs ih => simp [readings, ih]

theorem received_append (s : Subscription) (h : Hub α) (xs ys : List (Action α)) :
    h.received s (xs ++ ys) = h.received s xs ++ (h.play xs).received s ys := by
  simp [received, readings_append]

theorem reading_of_ne (ha : a ≠ .receive s) : h.reading s a = [] := by
  cases a with
  | receive t => exact if_neg fun ht => ha (by rw [ht])
  | subscribe | unsubscribe | stop | release | letGo | makeFeed | attach | publish | evict | close =>
    rfl

theorem received_of_no_receipt {actions : List (Action α)} (ha : .receive s ∉ actions) :
    h.received s actions = [] := by
  induction actions generalizing h with
  | nil => rfl
  | cons a actions ih =>
    rw [List.mem_cons, not_or] at ha
    have hrest : (h.act a).received s actions = [] := ih ha.2
    simp only [received, readings, reading_of_ne fun e => ha.1 e.symm, List.nil_append]
    exact hrest

/-! ## One receipt -/

theorem inbox_of_some {st : Stream α} (hs : h.stream? s = some st) : h.inbox s = st.inbox := by
  obtain ⟨f, hf, hst⟩ := Option.bind_eq_some_iff.1 hs
  simp [inbox, hf, Feed.inbox, hst]

theorem unreadItems_of_none (hs : h.stream? s = none) : h.unreadItems s = [] := by
  unfold unreadItems inbox
  cases hf : h.feed? s.feed with
  | none => rfl
  | some f =>
    have : f.stream? s.id = none := by simpa [stream?, hf] using hs
    simp [Feed.inbox, this, Feed.newStream]

theorem receive_fst (h : Hub α) (s : Subscription) :
    (h.receive s).1 = (h.stream? s).map (·.receive.1) := by
  unfold receive stream?
  cases h.feed? s.feed with
  | none => rfl
  | some f =>
    simp only [Option.bind_some, Feed.receive]
    cases f.stream? s.id <;> rfl

/-- A reader of the hub who waits finds what a receipt gives, and leaves the same. -/
theorem await_eq (h : Hub α) (s : Subscription) :
    (h.await s).1 = (h.receive s).1.map (fun p => (p.1, p.2.awaited)) ∧
      (h.await s).2 = (h.receive s).2 := by
  unfold await receive
  cases h.feed? s.feed with
  | none => exact ⟨rfl, rfl⟩
  | some f => simp only [f.await_eq, and_self]

/-- What a receipt on a subscription finds that was made. -/
theorem reading_receive {st : Stream α} (hs : h.stream? s = some st) :
    h.reading s (.receive s) =
      [match (h.unreadItems s).head? with
        | some x => .item x
        | none => if st.attached then .waiting else .ended] := by
  have hx : h.unreadItems s = st.inbox.unread.toList := by rw [unreadItems, inbox_of_some hs]
  rw [hx]
  cases hi : st.inbox.unread.toList.head? <;>
    simp [reading, receive_fst, hs, Stream.receive_eq, hi]

/-- A receipt gives the oldest unread item. -/
theorem received_receipt (h : Hub α) (s : Subscription) :
    h.received s [.receive s] = (h.unreadItems s).head?.toList := by
  simp only [received, readings, List.append_nil]
  cases hs : h.stream? s with
  | none => simp [reading, receive_fst, hs, unreadItems_of_none hs]
  | some st =>
    rw [reading_receive hs]
    cases (h.unreadItems s).head? with
    | some x => rfl
    | none => cases st.attached <;> rfl

theorem unreadItems_receive (h : Hub α) (s t : Subscription) :
    (h.receive s).2.unreadItems t =
      if t = s then (h.unreadItems t).tail else h.unreadItems t := by
  rw [unreadItems, inbox_receive]
  split
  · exact Backlog.toList_tail _
  · rfl

theorem received_append_unread (h : Hub α) (s : Subscription) :
    h.received s [.receive s] ++ (h.receive s).2.unreadItems s = h.unreadItems s := by
  rw [received_receipt, unreadItems_receive, if_pos rfl]
  cases h.unreadItems s <;> rfl

/-! ## All receipts -/

/-- What a receipt finds and leaves depends on the feed alone. -/
theorem receive_congr {h' : Hub α} (hf : h.feed? s.feed = h'.feed? s.feed) :
    (h.receive s).1 = (h'.receive s).1 ∧
      (h.receive s).2.feed? s.feed = (h'.receive s).2.feed? s.feed := by
  unfold receive
  rw [hf]
  cases hf' : h'.feed? s.feed with
  | none => exact ⟨rfl, hf.trans rfl⟩
  | some f => simp only [feed?_onFeed, hf, if_pos, true_and]

theorem receiveUpTo_congr {h' : Hub α} (hf : h.feed? s.feed = h'.feed? s.feed) (most : Nat) :
    (h.receiveUpTo s most).1 = (h'.receiveUpTo s most).1 := by
  induction most generalizing h h' with
  | zero => rfl
  | succ most ih =>
    obtain ⟨hone, hfeed⟩ := receive_congr hf
    rw [receiveUpTo, receiveUpTo]
    generalize h.receive s = p at hone hfeed
    generalize h'.receive s = q at hone hfeed
    obtain ⟨found, g⟩ := p
    obtain ⟨found', g'⟩ := q
    obtain rfl : found = found' := hone
    rcases found with _ | ⟨skipped, _ | _ | _⟩
    · rfl
    · simp only [ih hfeed]
    · rfl
    · rfl

/-- **What a reader can receive** depends on the feed alone. -/
theorem receiveAll_congr {h' : Hub α} (hf : h.feed? s.feed = h'.feed? s.feed) :
    (h.receiveAll s).1 = (h'.receiveAll s).1 := by
  have hunread : h.unread s = h'.unread s := by unfold unread; rw [hf]
  rw [receiveAll, receiveAll, hunread]
  exact receiveUpTo_congr hf _

/-- A receipt finds the oldest unread item, if there is one. -/
theorem item?_receive (h : Hub α) (s : Subscription) :
    ((h.receive s).1.bind fun found => found.2.item?) = (h.unreadItems s).head? := by
  have hone : h.received s [.receive s] =
      ((h.receive s).1.bind fun found => found.2.item?).toList := by
    simp only [received, readings, reading, if_pos, List.append_nil]
    rcases (h.receive s).1 with _ | ⟨skipped, _ | _ | _⟩ <;> rfl
  rw [received_receipt] at hone
  generalize (h.receive s).1.bind _ = found at hone ⊢
  cases found <;> cases hhead : (h.unreadItems s).head? <;> simp_all

/-- Several receipts take as many of the oldest items, and end if there is none. -/
theorem receiveUpTo_eq (h : Hub α) (s : Subscription) (most : Nat) :
    (h.receiveUpTo s most).1.items = (h.unreadItems s).take most ∧
      ∃ n, min most (h.unreadItems s).length ≤ n ∧
        (h.receiveUpTo s most).2 = h.play (List.replicate n (.receive s)) := by
  induction most generalizing h with
  | zero => exact ⟨rfl, 0, Nat.le_of_eq (Nat.zero_min _), rfl⟩
  | succ most ih =>
    have hitem := item?_receive h s
    have hafter : (h.receive s).2.unreadItems s = (h.unreadItems s).tail := by
      rw [unreadItems_receive, if_pos rfl]
    have hact : h.act (.receive s) = (h.receive s).2 := rfl
    -- without an item nothing is unread, and this look was the last
    have hlast : ∀ unread : List α, none = unread.head? →
        [] = unread.take (most + 1) ∧ ∃ n, min (most + 1) unread.length ≤ n ∧
          (h.receive s).2 = h.play (List.replicate n (.receive s)) := by
      rintro unread hnone
      obtain rfl := List.head?_eq_none_iff.1 hnone.symm
      exact ⟨rfl, 1, Nat.zero_le _, rfl⟩
    rw [receiveUpTo]
    generalize h.receive s = p at hitem hafter hact hlast ⊢
    obtain ⟨found, g⟩ := p
    rcases found with _ | ⟨skipped, x | _ | _⟩
    · exact hlast _ hitem
    · obtain ⟨hitems, n, hn, hplay⟩ := ih g
      obtain ⟨rest, hunread⟩ := List.head?_eq_some_iff.1 hitem.symm
      rw [hunread, List.tail_cons] at hafter
      rw [hafter] at hitems hn
      refine ⟨?_, n + 1, ?_, ?_⟩
      · rw [hunread, List.take_succ_cons, ← hitems]
      · rw [hunread, List.length_cons]; omega
      · rw [List.replicate_succ, play_cons, hact]
        exact hplay
    · exact hlast _ hitem
    · exact hlast _ hitem

theorem unreadItems_play_receive (h : Hub α) (s t : Subscription) (n : Nat) :
    (h.play (List.replicate n (.receive s))).unreadItems t =
      if t = s then (h.unreadItems t).drop n else h.unreadItems t := by
  induction n generalizing h with
  | zero => rw [List.replicate_zero, List.drop_zero, ite_self]; rfl
  | succ n ih =>
    have hone : (h.act (.receive s)).unreadItems t =
        if t = s then (h.unreadItems t).tail else h.unreadItems t := unreadItems_receive h s t
    rw [List.replicate_succ, play_cons, ih, hone]
    by_cases ht : t = s
    · rw [if_pos ht, if_pos ht, if_pos ht, List.drop_tail]
    · rw [if_neg ht, if_neg ht, if_neg ht]

theorem unread_eq_length (h : Hub α) (s : Subscription) :
    h.unread s = (h.unreadItems s).length := by
  have hstream : (h.feed? s.feed).bind (fun f => f.stream? s.id) = h.stream? s := rfl
  rw [unread, hstream]
  cases hs : h.stream? s with
  | none => rw [unreadItems_of_none hs]; rfl
  | some st => rw [unreadItems, inbox_of_some hs, ← Backlog.size_eq_length]

/-- **Who reads until nothing is left** gets all that was unread, by receipts of its own. -/
theorem receiveAll_eq (h : Hub α) (s : Subscription) :
    (h.receiveAll s).1.items = h.unreadItems s ∧
      ∃ n, (h.receiveAll s).2 = h.play (List.replicate n (.receive s)) ∧
        ∀ t, (h.receiveAll s).2.unreadItems t = if t = s then [] else h.unreadItems t := by
  obtain ⟨hitems, n, hn, hplay⟩ := receiveUpTo_eq h s (h.unread s + 1)
  rw [unread_eq_length] at hitems hn hplay
  rw [receiveAll, unread_eq_length]
  refine ⟨?_, n, hplay, fun t => ?_⟩
  · rw [hitems, List.take_of_length_le (by omega)]
  · rw [hplay, unreadItems_play_receive]
    by_cases ht : t = s
    · subst ht
      rw [if_pos rfl, if_pos rfl, List.drop_of_length_le (by omega)]
    · rw [if_neg ht, if_neg ht]

end Workmeter.Hub
