/-
  Workmeter — the readers of a feed do not influence each other.

  What a reader receives depends on what is done with its own subscription and with
  the feed as a whole.  The other subscriptions might as well not be there: one whose
  reader never reads, lets go or is ended costs nobody else an item.

  * `Action.concerns`: the action is about the subscription, or about the whole feed;
  * `Feed.Same`: two feeds are the same for one reader; so they are after the same
    action on both (`Same.act`), and after an action that is about another
    subscription on one of them (`same_act`);
  * `Same.play`: so a history comes to the same as the part of it that concerns the
    reader;
  * `others_make_no_difference`: all receipts of a reader, along any history.
-/
import Workmeter.Proofs.Feed.History

namespace Workmeter.Feed

variable {α : Type} {f g : Feed α} {s : SubscriptionId} {a : Action α}

/-! ## One action -/

/-- The action is about the subscription `s`, or about the whole feed. -/
def Action.concerns (s : SubscriptionId) : Action α → Bool
  | .subscribe t | .evict t | .letGo t | .receive t => t = s
  | .publish _ | .close => true

/-- The action closes the feed. -/
def Action.closes : Action α → Bool
  | .close => true
  | _ => false

theorem closed_act (f : Feed α) (a : Action α) : (f.act a).closed = (f.closed || a.closes) := by
  cases a with
  | publish a => simp only [act, publish, Action.closes, Bool.or_false]; split <;> rfl
  | receive t => simp only [act, receive, Action.closes, Bool.or_false]; split <;> rfl
  | close => exact (Bool.or_true _).symm
  | subscribe | evict | letGo => exact (Bool.or_false _).symm

theorem receive_fst (f : Feed α) (s : SubscriptionId) :
    (f.receive s).1 = (f.stream? s).map (·.receive.1) := by
  unfold receive
  cases f.stream? s <;> rfl

/-- The feeds are the same for the reader of `s`. -/
structure Same (s : SubscriptionId) (f g : Feed α) : Prop where
  buffer : f.buffer = g.buffer
  closed : f.closed = g.closed
  stream : f.stream? s = g.stream? s

theorem Same.refl (s : SubscriptionId) (f : Feed α) : Same s f f := ⟨rfl, rfl, rfl⟩

theorem Same.trans {h : Feed α} (hfg : Same s f g) (hgh : Same s g h) : Same s f h :=
  ⟨hfg.buffer.trans hgh.buffer, hfg.closed.trans hgh.closed, hfg.stream.trans hgh.stream⟩

/-- **The same action** does the same for the reader. -/
theorem Same.act (h : Same s f g) (a : Action α) : Same s (f.act a) (g.act a) where
  buffer := by rw [buffer_act, buffer_act, h.buffer]
  closed := by rw [closed_act, closed_act, h.closed]
  stream := by
    have hon : a.onStream f s = a.onStream g s := by
      cases a with
      | publish x => simp only [Action.onStream, h.closed]
      | subscribe | evict | close | letGo | receive => rfl
    have hnew : a.newStream? f s = a.newStream? g s := by
      cases a with
      | subscribe t => simp only [Action.newStream?, newStream, h.buffer, h.closed]
      | publish | evict | close | letGo | receive => rfl
    rw [stream?_act, stream?_act, h.stream, hon, hnew]

/-- **An action on another subscription** makes no difference. -/
theorem same_act (f : Feed α) (ha : a.concerns s = false) : Same s (f.act a) f where
  buffer := f.buffer_act a
  closed := by
    rw [closed_act]
    cases a with
    | close => cases ha
    | subscribe | publish | evict | letGo | receive => exact Bool.or_false _
  stream := by
    rw [stream?_act]
    cases a with
    | subscribe t =>
      have ht : s ≠ t := Ne.symm (of_decide_eq_false ha)
      simp [Action.onStream, Action.newStream?, ht]
    | evict t | letGo t | receive t =>
      have ht : s ≠ t := Ne.symm (of_decide_eq_false ha)
      simp [Action.onStream, Action.newStream?, ht]
    | publish | close => cases ha

theorem Same.receipt (h : Same s f g) (a : Action α) : f.receipt s a = g.receipt s a := by
  cases a with
  | receive t =>
    by_cases ht : t = s
    · subst ht
      simp only [Feed.receipt, receive_fst, h.stream]
    · simp only [Feed.receipt, if_neg ht]
  | subscribe | publish | evict | close | letGo => rfl

theorem receipt_of_not_concerns (f : Feed α) (ha : a.concerns s = false) : f.receipt s a = [] := by
  cases a with
  | receive t => exact if_neg (of_decide_eq_false ha)
  | subscribe | publish | evict | close | letGo => rfl

/-! ## Histories -/

/-- **A history** comes to the same as the part of it that concerns the reader. -/
theorem Same.play (h : Same s f g) (actions : List (Action α)) :
    f.receipts s actions = g.receipts s (actions.filter (·.concerns s)) ∧
      Same s (f.play actions) (g.play (actions.filter (·.concerns s))) := by
  induction actions generalizing f g with
  | nil => exact ⟨rfl, h⟩
  | cons a actions ih =>
    cases ha : a.concerns s with
    | true =>
      obtain ⟨hreceipts, hsame⟩ := ih (h.act a)
      rw [List.filter_cons_of_pos ha, receipts, receipts, h.receipt, hreceipts]
      exact ⟨rfl, hsame⟩
    | false =>
      obtain ⟨hreceipts, hsame⟩ := ih ((same_act f ha).trans h)
      rw [List.filter_cons_of_neg (by simp [ha]), receipts, receipt_of_not_concerns f ha, hreceipts]
      exact ⟨rfl, hsame⟩

/-- **The readers of a feed do not influence each other**: a reader finds what the part of the
    history gives that concerns its own subscription or the whole feed. -/
theorem others_make_no_difference (f : Feed α) (actions : List (Action α)) (s : SubscriptionId) :
    let own := actions.filter (·.concerns s)
    f.receipts s actions = f.receipts s own ∧
    (f.play actions).stream? s = (f.play own).stream? s ∧
    ∀ others : List (Action α), others.filter (·.concerns s) = own →
      f.receipts s others = f.receipts s actions ∧
      (f.play others).stream? s = (f.play actions).stream? s := by
  intro own
  obtain ⟨hreceipts, hsame⟩ := (Same.refl s f).play actions
  refine ⟨hreceipts, hsame.stream, fun others ho => ?_⟩
  obtain ⟨hreceipts', hsame'⟩ := (Same.refl s f).play others
  rw [ho] at hreceipts' hsame'
  exact ⟨hreceipts'.trans hreceipts.symm, hsame'.stream.trans hsame.stream.symm⟩

/-- The second reader never reads and lets go, or it reads and is ended and a third one comes;
    the first one misses the same item and finds the same end. -/
theorem others_make_no_difference_of_slow_reader :
    let first : SubscriptionId := ⟨1⟩
    let actions : List (Action Nat) :=
      [.subscribe first, .subscribe ⟨2⟩, .publish 1, .publish 2, .publish 3, .letGo ⟨2⟩,
        .receive first, .publish 4, .close, .receive first, .receive first, .receive first]
    let others : List (Action Nat) :=
      [.subscribe ⟨2⟩, .subscribe first, .publish 1, .receive ⟨2⟩, .publish 2, .publish 3,
        .evict ⟨2⟩, .receive first, .subscribe ⟨3⟩, .publish 4, .receive ⟨3⟩, .close,
        .receive first, .receive first, .letGo ⟨3⟩, .receive first]
    let f : Feed Nat := { buffer := 2 }
    others.filter (·.concerns first) = actions.filter (·.concerns first) ∧
      f.receipts first others = f.receipts first actions ∧
      (f.receipts first actions).map (fun p => (p.1, p.2.item?)) =
        [([1], some 2), ([], some 3), ([], some 4), ([], none)] := by
  intro first actions others f
  have ho : others.filter (·.concerns first) = actions.filter (·.concerns first) := rfl
  obtain ⟨-, -, hsame⟩ := others_make_no_difference f actions first
  exact ⟨ho, (hsame others ho).1, by decide +kernel⟩

end Workmeter.Feed
