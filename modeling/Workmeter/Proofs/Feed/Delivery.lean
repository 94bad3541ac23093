/-
  Workmeter — delivery is a bounded queue of the newest items.

  Whatever happens to a feed and its other subscriptions, the inbox of a held
  subscription shows the items that its reader is due from the place where the
  reader reads on, as far as the capacity reaches back.

  * `capacityFor_isLeast`: the capacity is the least power of two that holds the
    wanted number of items;
  * `Stream.await_eq`, `Feed.await_eq`: a reader who waits finds what a receipt gives;
  * `Reader.Matches`: the inbox shows what the reader is due; it is kept when an
    item arrives (`Matches.put`) and when one is received (`Matches.taken`);
  * `fits_reader`: so it is along every history;
  * `Fits.receipt_cases`: what one action gives to the reader;
  * `received_eq_taken`: the items received are those at the places read;
  * `bounded_queue_of_newest`: every receipt, at any point of any history.
-/
import Mathlib.Algebra.Group.Nat.Defs
import Mathlib.Data.List.Pairwise
import Workmeter.Proofs.Feed.History

namespace Workmeter

variable {α : Type}

/-! ## The capacity -/

theorem roundUp_eq_two_pow (n : Nat) : ∃ k, roundUp n = 2 ^ k := by
  unfold roundUp
  split
  · exact ⟨0, rfl⟩
  · exact ⟨_, Nat.one_shiftLeft _⟩

theorem le_roundUp (n : Nat) : n ≤ roundUp n := by
  unfold roundUp
  split
  · assumption
  · rw [Nat.one_shiftLeft]
    have : n - 1 < 2 ^ ((n - 1).log2 + 1) := Nat.lt_log2_self
    omega

theorem roundUp_le_of_le {n k : Nat} (h : n ≤ 2 ^ k) : roundUp n ≤ 2 ^ k := by
  unfold roundUp
  split
  · exact Nat.one_le_two_pow
  · rw [Nat.one_shiftLeft]
    have : (n - 1).log2 < k := (Nat.log2_lt (by omega)).2 (by omega)
    exact Nat.pow_le_pow_right (by decide) this

/-- **The capacity** is the least power of two that is at least the buffer,
    once the buffer is brought within its bounds. -/
theorem capacityFor_isLeast (buffer : Nat) :
    IsLeast {n | (∃ k, n = 2 ^ k) ∧ min (max buffer 1) largestBuffer ≤ n} (capacityFor buffer) := by
  refine ⟨⟨roundUp_eq_two_pow _, le_roundUp _⟩, ?_⟩
  rintro n ⟨⟨k, rfl⟩, hk⟩
  exact roundUp_le_of_le hk

theorem capacityFor_pos (buffer : Nat) : 0 < capacityFor buffer := by
  obtain ⟨k, hk⟩ := roundUp_eq_two_pow (min (max buffer 1) largestBuffer)
  rw [capacityFor, hk]
  exact Nat.two_pow_pos k

/-! ## One inbox -/

namespace Inbox

variable {i j : Inbox α}

theorem receive_of_item {a : α} (h : i.poll = (.item a, j)) :
    i.receive = ({ item := some a }, j) := by
  rw [receive]
  split <;> simp_all

theorem receive_of_nothing (h : i.poll = (.nothing, j)) : i.receive = ({ item := none }, j) := by
  rw [receive]
  split <;> simp_all

theorem receive_of_lagged {count : Nat} (h : i.poll = (.lagged count, j)) :
    i.receive = ({ j.receive.1 with skipped := count :: j.receive.1.skipped }, j.receive.2) := by
  rw [receive]
  split <;> simp_all

end Inbox

theorem Stream.receive_eq (st : Stream α) :
    st.receive =
      ((if 0 < st.inbox.missed then [st.inbox.missed] else [],
        match st.inbox.unread.toList.head? with
        | some a => .item a
        | none => if st.attached then .waiting else .ended),
      { st with inbox := st.inbox.taken }) := by
  cases hi : st.inbox.unread.toList.head? <;> simp [receive, Inbox.receive_eq, hi]

/-- What a reader who waits makes of a reading. -/
def Reading.awaited : Reading α → Awaited α
  | item a => .item a
  | waiting => .pending
  | ended => .ended

/-- **A reader who waits** finds what a receipt gives, and takes the same. -/
theorem Stream.await_eq (st : Stream α) :
    st.await = ((st.receive.1.1, st.receive.1.2.awaited), st.receive.2) := by
  induction st using await.induct with
  | case1 st a i h =>
    have hawait : st.await = (([], .item a), { st with inbox := i }) := by
      rw [await]; split <;> simp_all
    rw [hawait, receive, Inbox.receive_of_item h]
    rfl
  | case2 st i h =>
    have hawait : st.await =
        (([], if st.attached then .pending else .ended), { st with inbox := i }) := by
      rw [await]; split <;> simp_all
    rw [hawait, receive, Inbox.receive_of_nothing h]
    cases st.attached <;> rfl
  | case3 st n i h skipped found after hlater ih =>
    -- both tell the loss and look again
    let again : Stream α := { st with inbox := i }
    have hawait : st.await = ((n :: again.await.1.1, again.await.1.2), again.await.2) := by
      rw [await]; split <;> simp_all [again]
    have hreceive : st.receive = ((n :: again.receive.1.1, again.receive.1.2), again.receive.2) := by
      rw [receive, Inbox.receive_of_lagged h]
      rfl
    rw [hawait, hreceive, show again.await = _ from ih]

namespace Reader

/-- The inbox shows what the reader is due and has not read, the newest
    `capacity` items of it, and has counted those driven out before. -/
structure Matches (capacity : Nat) (r : Reader α) (i : Inbox α) : Prop where
  capacity_eq : i.capacity = capacity
  unread : i.unread.toList = r.due.drop (r.next capacity)
  missed : i.missed = r.next capacity - r.position

variable {capacity : Nat} {r : Reader α} {i : Inbox α}

theorem matches_empty (capacity : Nat) :
    Matches capacity ({} : Reader α) ({ capacity } : Inbox α) :=
  ⟨rfl, by simp, by simp [next]⟩

theorem Matches.put (h : r.Matches capacity i) (hr : r.position ≤ r.due.length)
    (hc : 0 < capacity) (a : α) :
    Matches capacity { r with due := r.due ++ [a] } (i.put a) := by
  have hnext : r.next capacity ≤ r.due.length := by unfold next; omega
  have hsize : i.unread.size = r.due.length - r.next capacity := by
    rw [Backlog.size_eq_length, h.unread, List.length_drop]
  unfold Inbox.put
  split
  · -- there is room: the window only grows at its end
    rename_i hroom
    rw [hsize, h.capacity_eq] at hroom
    have hsame : next capacity { r with due := r.due ++ [a] } = r.next capacity := by
      simp only [next, List.length_append, List.length_singleton] at hroom ⊢
      omega
    refine ⟨h.capacity_eq, ?_, ?_⟩
    · rw [Backlog.toList_push, h.unread, hsame, List.drop_append_of_le_length hnext]
    · rw [hsame]; exact h.missed
  · -- the inbox is full: the window moves on by one place
    rename_i hfull
    rw [hsize, h.capacity_eq] at hfull
    have hmove : next capacity { r with due := r.due ++ [a] } = r.next capacity + 1 := by
      simp only [next, List.length_append, List.length_singleton] at hfull ⊢
      omega
    refine ⟨h.capacity_eq, ?_, ?_⟩
    · rw [Backlog.toList_push, Backlog.toList_tail, h.unread, List.tail_drop, hmove,
        List.drop_append_of_le_length (by omega)]
    · have := r.position_le_next capacity
      simp only [h.missed, hmove]; omega

theorem Matches.head? (h : r.Matches capacity i) :
    i.unread.toList.head? = r.due[r.next capacity]? := by
  rw [h.unread, List.head?_drop]

/-- A receipt that finds an item moves the reader behind it. -/
theorem Matches.taken (h : r.Matches capacity i) (places : List Nat) :
    Matches capacity { r with position := r.next capacity + 1, taken := places } i.taken := by
  have hnext : next capacity { r with position := r.next capacity + 1, taken := places } =
      r.next capacity + 1 := by
    simp only [next]; omega
  refine ⟨h.capacity_eq, ?_, ?_⟩
  · rw [hnext, Inbox.taken, Backlog.toList_tail, h.unread, List.tail_drop]
  · rw [hnext]; exact (Nat.sub_self _).symm

theorem next_of_position_eq (capacity : Nat) (hr : r.position = r.due.length) :
    r.next capacity = r.due.length := by
  unfold next; omega

/-- What the next receipt tells of the items driven out since the last one. -/
def loss (capacity : Nat) (r : Reader α) : List Nat :=
  if r.position < r.next capacity then [r.next capacity - r.position] else []

theorem answer_of_lt (hc : 0 < capacity) (hlt : r.position < r.due.length) (attached : Bool) :
    ∃ x, r.due[r.next capacity]? = some x ∧ r.answer capacity attached = (r.loss capacity, .item x) := by
  have hnext := next_lt hc hlt
  have hitem : r.due[r.next capacity]? = some r.due[r.next capacity] := List.getElem?_eq_getElem hnext
  exact ⟨r.due[r.next capacity], hitem, by rw [answer, hitem]; rfl⟩

theorem answer_of_eq (h : r.position = r.due.length) (capacity : Nat) (attached : Bool) :
    r.answer capacity attached = ([], if attached then .waiting else .ended) := by
  have hnext := next_of_position_eq capacity h
  have hnone : r.due[r.next capacity]? = none := by rw [hnext, List.getElem?_eq_none le_rfl]
  rw [answer, hnone, hnext, h, if_neg (Nat.lt_irrefl _)]

/-- A receipt that finds nothing leaves the reader where it is. -/
theorem Matches.taken_of_end (h : r.Matches capacity i) (hr : r.position = r.due.length) :
    r.Matches capacity i.taken := by
  have hnext := next_of_position_eq capacity hr
  refine ⟨h.capacity_eq, ?_, ?_⟩
  · rw [Inbox.taken, Backlog.toList_tail, h.unread, hnext]; simp
  · rw [hnext, hr]; exact (Nat.sub_self _).symm

end Reader

/-! ## Histories -/

namespace Feed

/-- The feed holds for the reader of `s` what the reader is due. -/
structure Fits (f : Feed α) (s : SubscriptionId) (r : Reader α) : Prop where
  unmade : f.stream? s = none → r = {}
  made : ∀ st, f.stream? s = some st → st.held → r.Matches (capacityFor f.buffer) st.inbox

variable {f : Feed α} {s : SubscriptionId} {r : Reader α}

theorem contains_of_some {st : Stream α} (hs : f.stream? s = some st) :
    f.contains s = st.attached := by simp [contains, hs]

theorem contains_of_none (hs : f.stream? s = none) : f.contains s = false := by
  simp [contains, hs]

theorem fits_empty (buffer : Nat) (s : SubscriptionId) : Fits ({ buffer } : Feed α) s {} :=
  ⟨fun _ => rfl, fun st hst => by simp [stream?] at hst⟩

/-- Nothing is due before the subscription is made, and it starts with an
    empty inbox. -/
theorem Fits.act_of_none (h : f.Fits s r) (hs : f.stream? s = none) (a : Action α) :
    (f.act a).Fits s (r.act s f a) := by
  have hr : r.act s f a = {} := by
    obtain rfl := h.unmade hs
    cases a <;> simp [Reader.act, contains_of_none hs]
  refine ⟨fun _ => hr, fun st hst _ => ?_⟩
  rw [hr, f.buffer_act]
  cases a with
  | subscribe t =>
    simp only [stream?_act, hs, Action.newStream?, Option.map_none, Option.none_or] at hst
    split at hst
    · cases hst; exact Reader.matches_empty _
    · cases hst
  | publish | evict | close | letGo | receive =>
    simp [stream?_act, hs, Action.newStream?] at hst

/-- **Every action** keeps the inbox of a held stream and its reader together. -/
theorem Fits.matches_act {st : Stream α} (h : r.Matches (capacityFor f.buffer) st.inbox)
    (hr : r.position ≤ r.due.length) (hs : f.stream? s = some st) (a : Action α)
    (hheld : (a.onStream f s st).held) :
    (r.act s f a).Matches (capacityFor f.buffer) (a.onStream f s st).inbox := by
  cases a with
  | publish a =>
    simp only [Reader.act, contains_of_some hs, Action.onStream] at hheld ⊢
    cases hcl : f.closed with
    | true => simpa [hcl] using h
    | false =>
      cases hat : st.attached with
      | false => simpa [hcl, hat, Stream.offer] using h
      | true =>
        have hh : st.held := by
          by_contra hh
          simp [hcl, Stream.offer, hat, hh] at hheld
        simpa [hcl, hat, hh, Stream.offer] using h.put hr (capacityFor_pos _) a
  | receive t =>
    by_cases ht : t = s
    · subst ht
      simp only [Action.onStream, if_true, Stream.receive_eq, Reader.act, true_and]
      split
      · exact h.taken _
      · exact h.taken_of_end (by omega)
    · have ht' : ¬ s = t := fun e => ht e.symm
      simpa [Reader.act, Action.onStream, ht, ht'] using h
  | evict t => simp only [Action.onStream]; split <;> exact h
  | letGo t => simp only [Action.onStream]; split <;> exact h
  | subscribe | close => exact h

theorem Fits.act (h : f.Fits s r) (hr : r.position ≤ r.due.length) (a : Action α) :
    (f.act a).Fits s (r.act s f a) := by
  cases hs : f.stream? s with
  | none => exact h.act_of_none hs a
  | some st =>
    have hs' := stream?_act_of_some hs a
    refine ⟨fun hn => absurd (hs'.symm.trans hn) (by simp), fun st' hst' hheld => ?_⟩
    obtain rfl := Option.some.inj (hs'.symm.trans hst')
    rw [f.buffer_act]
    exact Fits.matches_act (h.made st hs (held_of_onStream hheld)) hr hs a hheld

theorem fits_reader (h : f.Fits s r) (hr : r.Sound (capacityFor f.buffer))
    (actions : List (Action α)) : (f.play actions).Fits s (f.reader s r actions) := by
  induction actions generalizing f r with
  | nil => exact h
  | cons a actions ih =>
    refine ih (h.act hr.position_le a) ?_
    rw [f.buffer_act]; exact hr.act (capacityFor_pos _) s a

theorem sound_of_history (buffer : Nat) (s : SubscriptionId) (actions : List (Action α)) :
    (reader s ({ buffer } : Feed α) {} actions).Sound (capacityFor buffer) :=
  sound_reader (f := { buffer }) s (Reader.sound_empty _) (capacityFor_pos buffer) actions

theorem fits_of_history (buffer : Nat) (s : SubscriptionId) (actions : List (Action α)) :
    (play { buffer } actions).Fits s (reader s ({ buffer } : Feed α) {} actions) :=
  fits_reader (fits_empty buffer s) (Reader.sound_empty _) actions

/-! ## What a reader receives -/

/-- **One receipt** on a held stream gives what the reader is to be answered. -/
theorem Fits.receive_eq_answer (h : f.Fits s r) {st : Stream α} (hs : f.stream? s = some st)
    (hh : st.held) : (f.receive s).1 = some (r.answer (capacityFor f.buffer) (f.contains s)) := by
  have hm := h.made st hs hh
  cases hd : r.due[r.next (capacityFor f.buffer)]? <;>
    simp only [receive, hs, Stream.receive_eq, hm.head?, hm.missed, Reader.answer,
      contains_of_some hs, Nat.sub_pos_iff_lt, hd]

/-- A reader of the feed who waits finds what a receipt gives, and leaves the same. -/
theorem await_eq (f : Feed α) (s : SubscriptionId) :
    (f.await s).1 = (f.receive s).1.map (fun p => (p.1, p.2.awaited)) ∧
      (f.await s).2 = (f.receive s).2 := by
  unfold await receive
  cases f.stream? s with
  | none => exact ⟨rfl, rfl⟩
  | some st => simp only [st.await_eq, Option.map_some, and_self]

/-- **One action** gives the reader nothing and leaves it where it is, or gives it the item at
    the place that it reads, with the loss before it, and takes it behind this place. -/
theorem Fits.receipt_cases (h : f.Fits s r) (hr : r.position ≤ r.due.length)
    (hheld : ∀ st, f.stream? s = some st → st.held) (a : Action α) :
    (∀ p ∈ f.receipt s a, p.1 = [] ∧ p.2.item? = none) ∧
        (r.act s f a).position = r.position ∧ (r.act s f a).taken = r.taken ∨
      ∃ x, r.due[r.next (capacityFor f.buffer)]? = some x ∧
        f.receipt s a = [(r.loss (capacityFor f.buffer), .item x)] ∧
        r.act s f a = { r with
          position := r.next (capacityFor f.buffer) + 1
          taken := r.taken ++ [r.next (capacityFor f.buffer)] } := by
  have hnothing : ∀ p ∈ ([] : List (List Nat × Reading α)), p.1 = [] ∧ p.2.item? = none :=
    fun p hmem => absurd hmem List.not_mem_nil
  cases a with
  | publish a => left; simp only [Reader.act]; split <;> exact ⟨hnothing, rfl, rfl⟩
  | subscribe | evict | close | letGo => exact Or.inl ⟨hnothing, rfl, rfl⟩
  | receive t =>
    by_cases ht : t = s
    · subst ht
      cases hs : f.stream? t with
      | none =>
        obtain rfl := h.unmade hs
        left; simp [receipt, receive, hs, Reader.act]
      | some st =>
        have hanswer := h.receive_eq_answer hs (hheld st hs)
        have hreceipt : f.receipt t (.receive t) =
            [r.answer (capacityFor f.buffer) (f.contains t)] := by
          simp [receipt, hanswer]
        rw [hreceipt]
        rcases Nat.lt_or_eq_of_le hr with hlt | heq
        · obtain ⟨x, hx, hanswer⟩ :=
            Reader.answer_of_lt (capacityFor_pos f.buffer) hlt (f.contains t)
          exact .inr ⟨x, hx, by rw [hanswer], by simp [Reader.act, hlt]⟩
        · left
          rw [Reader.answer_of_eq heq]
          cases f.contains t <;> simp [Reader.act, heq, Reading.item?]
    · left; simp [receipt, Reader.act, ht]

/-- The items received are those at the places read, in this order. -/
theorem received_eq_taken (h : f.Fits s r) (hr : r.Sound (capacityFor f.buffer))
    (actions : List (Action α)) (hheld : (f.play actions).holds s) :
    ∃ places, (f.reader s r actions).taken = r.taken ++ places ∧
      (f.received s actions).map some = places.map ((f.reader s r actions).due[·]?) := by
  induction actions generalizing f r with
  | nil => exact ⟨[], by simp [reader], rfl⟩
  | cons a actions ih =>
    have hr' : (r.act s f a).Sound (capacityFor (f.act a).buffer) := by
      rw [f.buffer_act]; exact hr.act (capacityFor_pos _) s a
    obtain ⟨places, htaken, hitems⟩ := ih (h.act hr.position_le a) hr' hheld
    have hall : ∀ st, f.stream? s = some st → st.held :=
      fun st hst => held_of_play hst (a :: actions) hheld
    rw [reader, received_cons, List.map_append, hitems]
    rcases h.receipt_cases hr.position_le hall a with ⟨hnone, -, ht⟩ | ⟨x, hp, hx, hact⟩
    · have hx : (f.receipt s a).filterMap (·.2.item?) = [] :=
        List.filterMap_eq_nil_iff.2 fun p hmem => (hnone p hmem).2
      exact ⟨places, by rw [htaken, ht], by rw [hx]; rfl⟩
    · refine ⟨r.next (capacityFor f.buffer) :: places, by rw [htaken, hact]; simp, ?_⟩
      obtain ⟨later, hdue⟩ := due_reader s f r (a :: actions)
      have hlast : (reader s f r (a :: actions)).due[r.next (capacityFor f.buffer)]? = some x := by
        rw [← hdue, List.getElem?_append_left (List.getElem?_eq_some_iff.1 hp).1, hp]
      rw [hx, ← reader]
      simp only [List.map_cons, hlast]; rfl

/-! ## The newest item stays in reach -/

/-- As many receipts as items are left bring the reader to the end. -/
theorem position_reader_replicate (hr : r.Sound (capacityFor f.buffer)) (n : Nat)
    (hn : r.next (capacityFor f.buffer) + n = r.due.length) :
    (f.reader s r (List.replicate n (.receive s))).due = r.due ∧
      (f.reader s r (List.replicate n (.receive s))).position = r.due.length := by
  induction n generalizing f r with
  | zero =>
    have hc := capacityFor_pos f.buffer
    have hp := hr.position_le
    refine ⟨rfl, ?_⟩
    show r.position = r.due.length
    unfold Reader.next at hn; omega
  | succ n ih =>
    have hlt : r.position < r.due.length := by
      have := r.position_le_next (capacityFor f.buffer); omega
    have hact : r.act s f (.receive s) = { r with
        position := r.next (capacityFor f.buffer) + 1
        taken := r.taken ++ [r.next (capacityFor f.buffer)] } := by simp [Reader.act, hlt]
    have hsound := hr.act (capacityFor_pos _) s (.receive s)
    have hnext : (r.act s f (.receive s)).next (capacityFor f.buffer) + n = r.due.length := by
      rw [hact]; simp only [Reader.next] at hn ⊢; omega
    have hrest := ih (f := f.act (.receive s)) (r := r.act s f (.receive s))
    rw [f.buffer_act, show (r.act s f (.receive s)).due = r.due by rw [hact]] at hrest
    exact hrest hsound hnext

/-- A reader that has come to the end read the newest item last. -/
theorem getLast?_of_position_eq {capacity : Nat} (hr : r.Sound capacity) (hc : 0 < capacity)
    (hp : r.position = r.due.length) {items : List α}
    (hitems : items.map some = r.taken.map (r.due[·]?)) : items.getLast? = r.due.getLast? := by
  rcases List.eq_nil_or_concat r.due with hnil | ⟨older, newest, hdue⟩
  · have : r.taken = [] := List.eq_nil_iff_forall_not_mem.2 fun i hi => by
      have := hr.taken_lt i hi; rw [hp, hnil] at this; exact Nat.not_lt_zero i this
    rw [this, List.map_nil, List.map_eq_nil_iff] at hitems
    rw [hitems, hnil]
  · rw [List.concat_eq_append] at hdue
    have hlen : r.due.length = older.length + 1 := by simp [hdue]
    have hmem : older.length ∈ r.taken := by
      rcases hr.passed older.length (by omega) with h | h
      · exact h
      · omega
    obtain ⟨before, after, htaken⟩ := List.append_of_mem hmem
    have hafter : after = [] := List.eq_nil_iff_forall_not_mem.2 fun i hi => by
      have hi₁ : older.length < i := by
        have := hr.increasing
        rw [htaken] at this
        exact (List.pairwise_cons.1 (List.pairwise_append.1 this).2.1).1 i hi
      have hi₂ := hr.taken_lt i (by rw [htaken]; simp [hi])
      omega
    have hlast := congrArg List.getLast? hitems
    rw [htaken, hafter, List.getLast?_map, List.getLast?_map, List.getLast?_concat, hdue] at hlast
    simp only [Option.map_some, List.getElem?_concat_length] at hlast
    rw [hdue, List.getLast?_concat]
    exact Option.map_injective (Option.some_injective α) (by simpa using hlast)

theorem holds_replicate_receive (hs : f.holds s) (n : Nat) :
    (f.play (List.replicate n (.receive s))).holds s := by
  induction n generalizing f with
  | zero => exact hs
  | succ n ih =>
    rw [List.replicate_succ, play_cons]
    refine ih ?_
    obtain ⟨st, hst, hh⟩ := Option.any_eq_true _ _ |>.1 hs
    rw [holds, stream?_act_of_some hst (.receive s)]
    simpa [Action.onStream, Stream.receive_eq] using hh

/-- **Delivery is a bounded queue**: a held subscription receives the newest `capacity` of the
    items it is due and has not read, in order, whether its reader asks once or waits. -/
theorem bounded_queue_of_newest (buffer : Nat) (actions : List (Action α)) (s : SubscriptionId)
    (hs : (play { buffer } actions).holds s) :
    let capacity := capacityFor buffer
    let f : Feed α := play { buffer } actions
    let r : Reader α := reader s { buffer } {} actions
    IsLeast {n | (∃ k, n = 2 ^ k) ∧ min (max buffer 1) largestBuffer ≤ n} capacity ∧
    r.position ≤ r.due.length ∧
    (r.position < r.due.length → ∃ a, r.due[max r.position (r.due.length - capacity)]? = some a ∧
      (f.receive s).1.map (·.2) = some (.item a)) ∧
    (r.position = r.due.length →
      (f.receive s).1.map (·.2) = some (if f.contains s then .waiting else .ended)) ∧
    ((f.await s).1 = (f.receive s).1.map (fun p => (p.1, p.2.awaited)) ∧
      (f.await s).2 = (f.receive s).2) ∧
    (received s { buffer } actions).map some = r.taken.map (r.due[·]?) ∧
    r.taken.Pairwise (· < ·) ∧
    (∀ i < r.position, i ∈ r.taken ∨ i + capacity < r.due.length) ∧
    ∃ n ≤ capacity, (received s { buffer } (actions ++ List.replicate n (.receive s))).getLast? =
      r.due.getLast? := by
  intro capacity f r
  have hc : 0 < capacity := capacityFor_pos buffer
  have hfits₀ := fits_empty (α := α) buffer s
  have hsound₀ := Reader.sound_empty (α := α) capacity
  have hsound : r.Sound capacity := sound_reader (f := ({ buffer } : Feed α)) s hsound₀ hc actions
  have hfits : f.Fits s r := fits_reader hfits₀ hsound₀ actions
  have hbuffer : f.buffer = buffer := buffer_play _ actions
  obtain ⟨st, hst, hh⟩ := Option.any_eq_true _ _ |>.1 hs
  have hanswer := hfits.receive_eq_answer hst hh
  rw [hbuffer] at hanswer
  obtain ⟨places, htaken, hitems⟩ := received_eq_taken hfits₀ hsound₀ actions hs
  refine ⟨capacityFor_isLeast buffer, hsound.position_le, fun hlt => ?_, fun heq => ?_,
    f.await_eq s, ?_, hsound.increasing, hsound.passed, ?_⟩
  · have hn := Reader.next_lt hc hlt
    have hat : r.due[r.next capacity]? = some r.due[r.next capacity] := List.getElem?_eq_getElem hn
    exact ⟨_, hat, by rw [hanswer]; simp [Reader.answer, hat, capacity]⟩
  · have hat : r.due[r.next capacity]? = none := by
      rw [Reader.next_of_position_eq _ heq, List.getElem?_eq_none le_rfl]
    rw [hanswer]; simp [Reader.answer, hat, capacity]
  · have : r.taken = places := by simpa using htaken
    rw [this]; exact hitems
  · -- the receipts that are left, all in a row
    have hle : r.next capacity ≤ r.due.length := by
      have := hsound.position_le
      unfold Reader.next; omega
    obtain ⟨n, hn⟩ := Nat.exists_eq_add_of_le hle
    have hncap : n ≤ capacity := by unfold Reader.next at hn; omega
    have hr := position_reader_replicate (f := f) (s := s) (by rwa [hbuffer]) n
      (by rw [hbuffer]; exact hn.symm)
    have hheld : (play { buffer } (actions ++ List.replicate n (.receive s))).holds s := by
      rw [play_append]; exact holds_replicate_receive hs n
    obtain ⟨more, hmore, hall⟩ := received_eq_taken hfits₀ hsound₀ _ hheld
    have hlast := sound_reader (f := ({ buffer } : Feed α)) s hsound₀ hc
      (actions ++ List.replicate n (.receive s))
    rw [reader_append] at hmore hall hlast
    refine ⟨n, hncap, ?_⟩
    rw [getLast?_of_position_eq hlast hc (hr.2.trans (congrArg _ hr.1.symm))
      (by rw [hmore]; simpa using hall)]
    rw [hr.1]

/-- Of seven items the reader took the third, after two were driven out; the feed
    is closed, and the fourth is the oldest one left. -/
theorem bounded_queue_of_closed_feed :
    let actions : List (Action Nat) :=
      [.subscribe ⟨1⟩, .subscribe ⟨2⟩, .publish 1, .publish 2, .publish 3, .publish 4, .publish 5,
        .publish 6, .receive ⟨1⟩, .letGo ⟨2⟩, .publish 7, .close, .subscribe ⟨3⟩]
    let f : Feed Nat := play { buffer := 3 } actions
    let r : Reader Nat := reader ⟨1⟩ { buffer := 3 } {} actions
    f.holds ⟨1⟩ ∧ r.due = [1, 2, 3, 4, 5, 6, 7] ∧ r.position = 3 ∧
      (f.receive ⟨1⟩).1.map (·.2) = some (.item 4) ∧
      (f.await ⟨1⟩).1.map (·.2) = some (.item 4) ∧
      (received ⟨1⟩ { buffer := 3 } actions).map some = [some 3] := by
  intro actions f r
  have hs : f.holds ⟨1⟩ := by decide
  obtain ⟨-, -, hitem, -, ⟨hawait, -⟩, hreceived, -⟩ := bounded_queue_of_newest 3 actions ⟨1⟩ hs
  obtain ⟨a, ha, hr⟩ := hitem (by decide)
  obtain rfl : a = 4 := Option.some.inj (ha.symm.trans (by decide))
  have hwaits : (f.await ⟨1⟩).1.map (·.2) = ((f.receive ⟨1⟩).1.map (·.2)).map Reading.awaited := by
    rw [hawait, Option.map_map, Option.map_map]
    rfl
  exact ⟨hs, by decide, by decide, hr, by rw [hwaits, hr]; rfl, hreceived.trans (by decide)⟩

end Feed

end Workmeter
