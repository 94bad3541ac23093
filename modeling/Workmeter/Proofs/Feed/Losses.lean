/-
  Workmeter — the losses that a reader is told.

  What a reader is due is received, told to be lost, or still before it.  A loss is told by the
  next receipt, once, and with the exact number of items.

  * `Inbox.Looks`, `Inbox.looks_iff`: a receipt takes one look, and one more if it tells a loss;
  * `Feed.told`, `position_reader`: the reader moves on by the items that it receives and by
    those that it is told to have lost;
  * `due_length_eq`: so the items due are those received, told, to be told and unread;
  * `Reader.lost`, `card_lost`: the items lost since the last receipt, and their number;
  * `losses_told_once`: all of it, at any point of any history.
-/
import Mathlib.Algebra.Ring.Nat
import Mathlib.Order.Interval.Finset.Nat
import Workmeter.Proofs.Feed.Independence
import Workmeter.Proofs.Hub.Inbox

namespace Workmeter

variable {α : Type}

/-! ## Looks -/

/-- This many looks into the inbox give the receipt, and leave the second inbox. -/
inductive Inbox.Looks : Inbox α → Nat → Receipt α → Inbox α → Prop where
  | item {i j : Inbox α} {a : α} : i.poll = (.item a, j) → Looks i 1 { item := some a } j
  | nothing {i j : Inbox α} : i.poll = (.nothing, j) → Looks i 1 { item := none } j
  | lagged {i j k : Inbox α} {count n : Nat} {receipt : Receipt α} :
    i.poll = (.lagged count, j) → Looks j n receipt k →
    Looks i (n + 1) { receipt with skipped := count :: receipt.skipped } k

namespace Inbox

variable {i j : Inbox α} {n : Nat} {receipt : Receipt α}

theorem exists_looks (i : Inbox α) : ∃ n, i.Looks n i.receive.1 i.receive.2 := by
  induction i using receive.induct with
  | case1 i a j h => exact ⟨1, by rw [receive_of_item h]; exact .item h⟩
  | case2 i j h => exact ⟨1, by rw [receive_of_nothing h]; exact .nothing h⟩
  | case3 i n j h receipt k heq ih =>
    obtain ⟨m, hm⟩ := ih
    exact ⟨m + 1, by rw [receive_of_lagged h]; exact .lagged h hm⟩

theorem Looks.eq_receive (h : i.Looks n receipt j) :
    i.receive = (receipt, j) ∧ n = receipt.skipped.length + 1 := by
  induction h with
  | item h => exact ⟨receive_of_item h, rfl⟩
  | nothing h => exact ⟨receive_of_nothing h, rfl⟩
  | lagged h _ ih =>
    obtain ⟨hreceive, hn⟩ := ih
    rw [receive_of_lagged h, hreceive, hn]
    exact ⟨rfl, rfl⟩

/-- **The looks of a receipt** are one for each loss that it tells, and one that ends it. -/
theorem looks_iff :
    i.Looks n receipt j ↔ i.receive = (receipt, j) ∧ n = receipt.skipped.length + 1 := by
  refine ⟨Looks.eq_receive, fun ⟨hreceive, hn⟩ => ?_⟩
  obtain ⟨m, hm⟩ := exists_looks i
  obtain ⟨-, hm'⟩ := hm.eq_receive
  rw [hreceive] at hm hm'
  rwa [hn, ← hm']

theorem skipped_length_le (i : Inbox α) : i.receive.1.skipped.length ≤ 1 := by
  rw [receive_eq]
  show (if 0 < i.missed then [i.missed] else []).length ≤ 1
  split <;> simp

end Inbox

/-! ## What has been lost -/

namespace Reader

variable {capacity seen : Nat} {r r' : Reader α}

/-- The places not received whose items have been driven out since `seen` items were due.  The
    item at place `i` is driven out by the one at place `i + capacity`. -/
def lost (capacity seen : Nat) (r : Reader α) : Finset Nat :=
  {i ∈ Finset.range r.due.length | i ∉ r.taken ∧ seen ≤ i + capacity ∧ i + capacity < r.due.length}

/-- **The items lost** since the reader stood as `r'` lie before the place that it reads next. -/
theorem lost_eq (h : r'.Sound capacity) (hposition : r.position = r'.position)
    (htaken : r.taken = r'.taken) (hreach : r'.due.length ≤ r.position + capacity) :
    r.lost capacity r'.due.length = Finset.Ico r.position (r.next capacity) := by
  ext i
  simp only [lost, Finset.mem_filter, Finset.mem_range, Finset.mem_Ico, next]
  constructor
  · rintro ⟨-, hnot, hseen, hlost⟩
    -- what lay before the position then was received, or was out of reach then already
    have hbehind : r.position ≤ i := by
      by_contra hlt
      rcases h.passed i (by omega) with hmem | hpassed
      · exact hnot (htaken ▸ hmem)
      · omega
    omega
  · rintro ⟨hposition', hnext⟩
    refine ⟨by omega, fun hmem => ?_, by omega, by omega⟩
    have hlt := h.taken_lt i (htaken ▸ hmem)
    omega

/-- **The loss told** next is that of the places up to the one that is read next. -/
theorem loss_eq (capacity : Nat) (r : Reader α) :
    r.loss capacity =
      if Finset.Ico r.position (r.next capacity) = ∅ then []
      else [(Finset.Ico r.position (r.next capacity)).card] := by
  rw [loss, Nat.card_Ico]
  by_cases hlt : r.position < r.next capacity
  · rw [if_pos hlt, if_neg (Finset.nonempty_iff_ne_empty.1 (Finset.nonempty_Ico.2 hlt))]
  · rw [if_neg hlt, if_pos (Finset.Ico_eq_empty hlt)]

theorem sum_loss (capacity : Nat) (r : Reader α) :
    (r.loss capacity).sum = r.next capacity - r.position := by
  unfold loss
  split
  · exact List.sum_singleton
  · rw [List.sum_nil]; omega

/-- A receipt that finds nothing comes when all items due are behind the reader. -/
theorem position_eq_of_nothing (hc : 0 < capacity) (hr : r.position ≤ r.due.length)
    {attached : Bool} (h : (r.answer capacity attached).2.item? = none) :
    r.position = r.due.length := by
  refine (Nat.lt_or_eq_of_le hr).resolve_left fun hlt => ?_
  obtain ⟨x, -, hx⟩ := answer_of_lt hc hlt attached
  rw [hx] at h
  cases h

end Reader

namespace Feed

variable {f : Feed α} {s : SubscriptionId} {r : Reader α} {actions : List (Action α)}

theorem reader_of_not_receive (h : .receive s ∉ actions) :
    (f.reader s r actions).position = r.position ∧ (f.reader s r actions).taken = r.taken := by
  induction actions generalizing f r with
  | nil => exact ⟨rfl, rfl⟩
  | cons a actions ih =>
    rw [List.mem_cons, not_or] at h
    obtain ⟨hposition, htaken⟩ := ih (f := f.act a) (r := r.act s f a) h.2
    have hact : (r.act s f a).position = r.position ∧ (r.act s f a).taken = r.taken := by
      cases a with
      | publish x => simp only [Reader.act]; split <;> exact ⟨rfl, rfl⟩
      | receive t =>
        have ht : t ≠ s := fun e => h.1 (by rw [e])
        simp [Reader.act, ht]
      | subscribe | evict | close | letGo => exact ⟨rfl, rfl⟩
    exact ⟨hposition.trans hact.1, htaken.trans hact.2⟩

/-- After a receipt the reader stands behind all that is out of reach. -/
theorem reach_of_receive (hr : r.position ≤ r.due.length) :
    (r.act s f (.receive s)).due.length ≤
      (r.act s f (.receive s)).position + capacityFor f.buffer := by
  simp only [Reader.act, true_and]
  split
  · simp only [Reader.next]
    omega
  · omega

/-- The losses that the receipts on a subscription tell along a history, in items. -/
def told (s : SubscriptionId) (f : Feed α) (actions : List (Action α)) : Nat :=
  ((f.receipts s actions).flatMap (·.1)).sum

theorem told_cons (s : SubscriptionId) (f : Feed α) (a : Action α) (actions : List (Action α)) :
    f.told s (a :: actions) = ((f.receipt s a).flatMap (·.1)).sum + (f.act a).told s actions := by
  simp [told, receipts]

/-- **One action** takes the reader past the items that it receives or is told to have lost. -/
theorem Fits.position_act (h : f.Fits s r) (hr : r.position ≤ r.due.length)
    (hheld : ∀ st, f.stream? s = some st → st.held) (a : Action α) :
    (r.act s f a).position = r.position + ((f.receipt s a).filterMap (·.2.item?)).length +
      ((f.receipt s a).flatMap (·.1)).sum := by
  rcases h.receipt_cases hr hheld a with ⟨hnone, hposition, -⟩ | ⟨x, -, hreceipt, hact⟩
  · have hitems : (f.receipt s a).filterMap (·.2.item?) = [] :=
      List.filterMap_eq_nil_iff.2 fun p hmem => (hnone p hmem).2
    have hskipped : (f.receipt s a).flatMap (·.1) = [] :=
      List.flatMap_eq_nil_iff.2 fun p hmem => (hnone p hmem).1
    rw [hitems, hskipped, hposition]
    rfl
  · have hone : ∀ skipped : List Nat,
        [(skipped, Reading.item x)].filterMap (·.2.item?) = [x] := fun _ => rfl
    have hle := r.position_le_next (capacityFor f.buffer)
    rw [hreceipt, hact, hone, List.flatMap_singleton, Reader.sum_loss, List.length_singleton]
    show r.next (capacityFor f.buffer) + 1 = _
    omega

/-- **Along a history** the reader moves on by what it receives and what it is told. -/
theorem position_reader (h : f.Fits s r) (hr : r.Sound (capacityFor f.buffer))
    (actions : List (Action α)) (hheld : (f.play actions).holds s) :
    (f.reader s r actions).position =
      r.position + (f.received s actions).length + f.told s actions := by
  induction actions generalizing f r with
  | nil => rfl
  | cons a actions ih =>
    have hr' : (r.act s f a).Sound (capacityFor (f.act a).buffer) := by
      rw [f.buffer_act]; exact hr.act (capacityFor_pos _) s a
    have hnow : ∀ st, f.stream? s = some st → st.held :=
      fun st hst => held_of_play hst (a :: actions) hheld
    rw [reader, ih (h.act hr.position_le a) hr' hheld, h.position_act hr.position_le hnow,
      received_cons, List.length_append, told_cons]
    omega

theorem position_of_history (buffer : Nat) (hheld : (play { buffer } actions).holds s) :
    (reader s ({ buffer } : Feed α) {} actions).position =
      (received s { buffer } actions).length + told s { buffer } actions := by
  have hposition := position_reader (fits_empty (α := α) buffer s) (Reader.sound_empty _)
    actions hheld
  rwa [Nat.zero_add] at hposition

/-- **The items due** are those received, told to be lost, to be told, and unread. -/
theorem due_length_eq (buffer : Nat) (hheld : (play { buffer } actions).holds s) :
    (reader s ({ buffer } : Feed α) {} actions).due.length =
      (received s { buffer } actions).length + told s { buffer } actions +
        ((play { buffer } actions).inbox s).missed +
        ((play { buffer } actions).inbox s).unread.size := by
  have hposition := position_of_history buffer hheld
  have hle := (sound_of_history (α := α) buffer s actions).position_le
  obtain ⟨st, hs, hh⟩ := Option.any_eq_true _ _ |>.1 hheld
  have hm := (fits_of_history buffer s actions).made st hs hh
  have hinbox : (play { buffer } actions).inbox s = st.inbox := by simp [inbox, hs]
  rw [buffer_play] at hm
  rw [hinbox, hm.missed, Backlog.size_eq_length, hm.unread, List.length_drop]
  simp only [Reader.next]
  omega

/-- The receipt of a reader is the one of its inbox. -/
theorem receive_eq_inbox {st : Stream α} (hs : f.stream? s = some st) :
    ∃ skipped found, (f.receive s).1 = some (skipped, found) ∧
      (f.inbox s).receive = ({ skipped, item := found.item? }, (f.receive s).2.inbox s) := by
  have hinbox : f.inbox s = st.inbox := by simp [inbox, hs]
  refine ⟨_, _, by rw [receive_fst, hs, Option.map_some], ?_⟩
  rw [inbox_receive, if_pos rfl, hinbox, Inbox.receive_eq, Stream.receive_eq]
  cases st.inbox.unread.toList.head? <;> cases st.attached <;> rfl

theorem receipts_concat_receive {skipped : List Nat} {found : Reading α}
    (h : ((f.play actions).receive s).1 = some (skipped, found)) :
    f.receipts s (actions ++ [.receive s]) = f.receipts s actions ++ [(skipped, found)] := by
  induction actions generalizing f with
  | nil => simpa [receipts, receipt] using h
  | cons a actions ih => rw [List.cons_append, receipts, receipts, ih h, List.append_assoc]

/-- The history is cut behind the last receipt of `s`, or before its first action if there is
    no receipt. -/
structure LastReceipt (s : SubscriptionId) (earlier since : List (Action α)) : Prop where
  ends : earlier = [] ∨ ∃ older, earlier = older ++ [.receive s]
  quiet : .receive s ∉ since

/-- **What is lost** since the last receipt are the items before the place read next. -/
theorem lost_of_lastReceipt {buffer : Nat} {earlier since : List (Action α)}
    (h : LastReceipt s earlier since) :
    let r := reader s ({ buffer } : Feed α) {} (earlier ++ since)
    r.lost (capacityFor buffer) (reader s ({ buffer } : Feed α) {} earlier).due.length =
      Finset.Ico r.position (r.next (capacityFor buffer)) := by
  intro r
  obtain ⟨hposition, htaken⟩ := reader_of_not_receive (f := play { buffer } earlier)
    (r := reader s { buffer } {} earlier) h.quiet
  rw [← reader_append] at hposition htaken
  refine Reader.lost_eq (sound_of_history buffer s earlier) hposition htaken ?_
  rw [hposition]
  rcases h.ends with rfl | ⟨older, rfl⟩
  · exact Nat.zero_le _
  · have hle := (sound_of_history (α := α) buffer s older).position_le
    have hreach := reach_of_receive (f := play { buffer } older) (s := s) hle
    rw [buffer_play] at hreach
    rw [reader_append]
    exact hreach

/-- **Losses are told once, and in full.**  A receipt is one step here: nothing is published
    between its two looks into the inbox. -/
theorem losses_told_once (buffer : Nat) (actions : List (Action α)) (s : SubscriptionId)
    (hs : (play { buffer } actions).holds s) :
    let start : Feed α := { buffer }
    let f := start.play actions
    let r := start.reader s {} actions
    (start.received s actions).length + start.told s actions + (f.inbox s).missed +
      (f.inbox s).unread.size = r.due.length ∧
    ∃ skipped found, (f.receive s).1 = some (skipped, found) ∧
      (∃ n ≤ 2, (f.inbox s).Looks n { skipped, item := found.item? } ((f.receive s).2.inbox s)) ∧
      (∀ earlier since, actions = earlier ++ since → LastReceipt s earlier since →
        let lost := r.lost (capacityFor buffer) (start.reader s {} earlier).due.length
        skipped = if lost = ∅ then [] else [lost.card]) ∧
      (found.item? = none →
        let after := actions ++ [.receive s]
        skipped = [] ∧
          (start.received s after).length + start.told s after = r.due.length) := by
  intro start f r
  have hledger := due_length_eq buffer hs
  obtain ⟨st, hst, hh⟩ := Option.any_eq_true _ _ |>.1 hs
  have hsound : r.Sound (capacityFor buffer) := sound_of_history buffer s actions
  have hfits : f.Fits s r := fits_of_history buffer s actions
  have hanswer := hfits.receive_eq_answer hst hh
  rw [show f.buffer = buffer from buffer_play _ _] at hanswer
  obtain ⟨skipped, found, hreceive, hinbox⟩ := receive_eq_inbox hst
  have hpair : (skipped, found) = r.answer (capacityFor buffer) (f.contains s) :=
    Option.some.inj (hreceive.symm.trans hanswer)
  refine ⟨hledger.symm, skipped, found, hreceive, ?_, ?_, fun hnone => ?_⟩
  · have hlooks := Inbox.looks_iff.2 ⟨hinbox, rfl⟩
    have hone := Inbox.skipped_length_le (f.inbox s)
    rw [hinbox] at hone
    exact ⟨_, Nat.succ_le_succ hone, hlooks⟩
  · rintro earlier since rfl hlast
    intro lost
    have hlost : lost = Finset.Ico r.position (r.next (capacityFor buffer)) :=
      lost_of_lastReceipt hlast
    have hskipped : skipped = r.loss (capacityFor buffer) := congrArg Prod.fst hpair
    rw [hskipped, hlost, Reader.loss_eq]
  · intro after
    have hfound : found = (r.answer (capacityFor buffer) (f.contains s)).2 :=
      congrArg Prod.snd hpair
    have hend : r.position = r.due.length :=
      Reader.position_eq_of_nothing (capacityFor_pos buffer) hsound.position_le (hfound ▸ hnone)
    have hnothing : skipped = [] :=
      congrArg Prod.fst (hpair.trans (Reader.answer_of_eq hend _ _))
    have hreceipts := receipts_concat_receive (f := start) hreceive
    have hposition : r.position = (start.received s actions).length + start.told s actions :=
      position_of_history buffer hs
    -- this receipt adds neither an item nor a loss to those of `actions`
    refine ⟨hnothing, ?_⟩
    rw [← hend, hposition, received, told, hreceipts, hnothing]
    simp [received, told, hnone]

/-- Of five items the first was told to be lost, the second was received and the third was
    driven out; then the feed was closed. -/
theorem losses_told_once_of_closed_feed :
    let start : Feed Nat := { buffer := 2 }
    let earlier : List (Action Nat) :=
      [.subscribe ⟨1⟩, .publish 1, .publish 2, .publish 3, .receive ⟨1⟩]
    let since : List (Action Nat) := [.publish 4, .publish 5, .close]
    let rest : List (Action Nat) := earlier ++ since ++ [.receive ⟨1⟩, .receive ⟨1⟩]
    (start.play (earlier ++ since)).holds ⟨1⟩ ∧ LastReceipt ⟨1⟩ earlier since ∧
      ((start.play (earlier ++ since)).receive ⟨1⟩).1.map (·.1) = some [1] ∧
      (start.play rest).holds ⟨1⟩ ∧
      (start.received ⟨1⟩ (rest ++ [.receive ⟨1⟩])).length +
        start.told ⟨1⟩ (rest ++ [.receive ⟨1⟩]) = 5 := by
  intro start earlier since rest
  have hs : (start.play (earlier ++ since)).holds ⟨1⟩ := by decide
  have hs' : (start.play rest).holds ⟨1⟩ := by decide
  have hlast : LastReceipt ⟨1⟩ earlier since :=
    ⟨.inr ⟨[.subscribe ⟨1⟩, .publish 1, .publish 2, .publish 3], rfl⟩, by simp [since]⟩
  obtain ⟨-, skipped, found, hreceive, -, hlost, -⟩ := losses_told_once 2 _ ⟨1⟩ hs
  obtain ⟨-, skipped', found', hreceive', -, -, hend⟩ := losses_told_once 2 _ ⟨1⟩ hs'
  have hthird : (start.reader ⟨1⟩ {} (earlier ++ since)).lost (capacityFor 2)
      (start.reader ⟨1⟩ {} earlier).due.length = {2} := by decide
  have hskipped : skipped = [1] := by
    rw [hlost earlier since rfl hlast, hthird]
    rfl
  have hnone : found'.item? = none := by
    have hfound : ((start.play rest).receive ⟨1⟩).1.map (·.2.item?) = some none := by
      decide +kernel
    rw [hreceive'] at hfound
    exact Option.some.inj hfound
  refine ⟨hs, hlast, ?_, hs', (hend hnone).2.trans (by decide)⟩
  rw [hreceive, hskipped]
  rfl

end Feed

end Workmeter
