/-
  Workmeter — who belongs to a feed, told from its history.

  A subscription belongs to a feed from when it is made there until it is evicted, the feed
  is closed, or a publication finds that its reader let it go.  Nothing else counts, and
  whoever else subscribes makes no difference.

  * `closed_play_iff`: a feed is closed if it was closed once;
  * `Lasting`, `contains_play_iff`: what must not happen to a subscription that is contained;
  * `Belongs`, `contains_iff_belongs`: the whole history of one that is contained;
  * `members`, `size_eq_length`: the subscriptions contained, each once, and their number;
  * `members_publish`: a publication keeps those that are held;
  * `AtEnd`, `receive_of_atEnd`: a subscription made at a closed feed finds the end, always;
  * `belonging_by_history`: all of it, at any point of any history.
-/
import Workmeter.Proofs.Feed.Independence
import Workmeter.Proofs.FirstFailure
import Workmeter.Proofs.Hub.Publication
import Workmeter.Proofs.Since

namespace Workmeter.Feed

variable {α : Type} {f : Feed α} {s : SubscriptionId} {st : Stream α} {a : Action α}
  {actions : List (Action α)}

/-! ## Closed feeds -/

theorem closes_iff : a.closes ↔ a = .close := by
  cases a <;> simp [Action.closes]

theorem closed_play (f : Feed α) (actions : List (Action α)) :
    (f.play actions).closed = (f.closed || actions.any Action.closes) := by
  induction actions generalizing f with
  | nil => exact (Bool.or_false _).symm
  | cons a actions ih => rw [play_cons, ih, closed_act, List.any_cons, Bool.or_assoc]

/-- **A feed is closed** if it was closed once. -/
theorem closed_play_iff (buffer : Nat) (actions : List (Action α)) :
    (play { buffer } actions).closed ↔ .close ∈ actions := by
  rw [closed_play, Bool.false_or, List.any_eq_true]
  constructor
  · rintro ⟨a, hmem, ha⟩
    rwa [← closes_iff.1 ha]
  · intro hmem
    exact ⟨.close, hmem, rfl⟩

theorem publish_of_closed (hcl : f.closed) (x : α) : f.publish x = ({ delivered := 0 }, f) :=
  if_pos hcl

/-! ## One subscription -/

/-- The action ends the subscription, if `past` is what happened since it was made at the open
    feed. -/
inductive Ends (s : SubscriptionId) (past : List (Action α)) : Action α → Prop where
  | close : Ends s past .close
  | evict : Ends s past (.evict s)
  /-- The reader let the subscription go, and this is found out. -/
  | publish {x : α} : .letGo s ∈ past → Ends s past (.publish x)

/-- None of the actions ends the subscription. -/
def Lasting (s : SubscriptionId) (actions : List (Action α)) : Prop :=
  Clean (fun past a (_ : Unit) => Ends s past a) actions

theorem lasting_concat_iff :
    Lasting s (actions ++ [a]) ↔ Lasting s actions ∧ ¬ Ends s actions a := by
  unfold Lasting
  rw [clean_concat_iff, forall_const]

theorem holds_of_some (hs : f.stream? s = some st) : f.holds s = st.held := by simp [holds, hs]

theorem holds_act_iff (hs : f.stream? s = some st) :
    (f.act a).holds s ↔ f.holds s ∧ a ≠ .letGo s := by
  rw [holds_of_some (stream?_act_of_some hs a), holds_of_some hs]
  constructor
  · intro h
    refine ⟨held_of_onStream h, ?_⟩
    rintro rfl
    simp [Action.onStream, Stream.letGo] at h
  · rintro ⟨hheld, hne⟩
    rwa [held_onStream hne]

/-- A reader holds its subscription until it lets it go. -/
theorem holds_play_iff (hs : f.stream? s = some st) (hheld : st.held) (actions : List (Action α)) :
    (f.play actions).holds s ↔ .letGo s ∉ actions := by
  induction actions using List.reverseRecOn with
  | nil => simp [holds_of_some hs, hheld]
  | append_singleton actions a ih =>
    obtain ⟨st', hs', -⟩ := stream?_play_of_some hs actions
    rw [play_append, play_cons, play_nil, holds_act_iff hs', ih, List.mem_append,
      List.mem_singleton, not_or, ne_comm]

/-- **One action** more, and whether the feed still delivers. -/
theorem contains_act_iff (he : f.Ended) (hs : f.stream? s = some st) {past : List (Action α)}
    (hpast : f.holds s ↔ .letGo s ∉ past) :
    (f.act a).contains s ↔ f.contains s ∧ ¬ Ends s past a := by
  rw [contains_of_some (stream?_act_of_some hs a), contains_of_some hs]
  refine ⟨fun h => ⟨attached_of_onStream h, fun hends => ?_⟩, fun ⟨hat, hends⟩ => ?_⟩
  · cases hends with
    | close => simp [Action.onStream, Stream.detach] at h
    | evict => simp [Action.onStream, Stream.detach] at h
    | @publish x hgone =>
      have hnot : st.held = false := by
        rw [← holds_of_some hs, ← Bool.not_eq_true, hpast]
        exact fun hmem => hmem hgone
      have hat : st.attached := attached_of_onStream h
      have hopen : f.closed = false := by
        by_contra hcl
        have hempty := he (Bool.not_eq_false _ ▸ hcl) s
        rw [contains_of_some hs, hat] at hempty
        cases hempty
      simp [Action.onStream, hopen, Stream.offer, hat, hnot] at h
  · refine attached_onStream hat ?_ ?_ ?_
    · rintro rfl; exact hends .evict
    · rintro rfl; exact hends .close
    · by_cases hheld : st.held
      · exact .inl hheld
      · refine .inr ?_
        rintro x rfl
        refine hends (.publish (Classical.not_not.1 fun hmem => hheld ?_))
        rw [← holds_of_some hs]
        exact hpast.2 hmem

/-- **A feed delivers** to a subscription until it is ended. -/
theorem contains_play_iff (he : f.Ended) (hs : f.stream? s = some st) (hheld : st.held)
    (hat : st.attached) (actions : List (Action α)) :
    (f.play actions).contains s ↔ Lasting s actions := by
  induction actions using List.reverseRecOn with
  | nil => simp [contains_of_some hs, hat, Lasting, clean_nil]
  | append_singleton actions a ih =>
    obtain ⟨st', hs', -⟩ := stream?_play_of_some hs actions
    rw [play_append, play_cons, play_nil,
      contains_act_iff (he.play actions) hs' (holds_play_iff hs hheld actions), ih,
      lasting_concat_iff]

/-- The subscription was made at the open feed, and nothing has ended it since. -/
def Belongs (s : SubscriptionId) (actions : List (Action α)) : Prop :=
  ∃ before after, actions = before ++ .subscribe s :: after ∧ .close ∉ before ∧ Lasting s after

theorem mem_ids_play_iff (buffer : Nat) (actions : List (Action α)) :
    s ∈ (play { buffer } actions).ids ↔ .subscribe s ∈ actions := by
  rw [ids_play, List.mem_append, List.mem_flatMap]
  constructor
  · rintro (hmem | ⟨a, hmem, ha⟩)
    · cases hmem
    · cases a with
      | subscribe t => rwa [List.mem_singleton.1 ha]
      | publish | evict | close | letGo | receive => cases ha
  · intro hmem
    exact .inr ⟨_, hmem, List.mem_singleton.2 rfl⟩

section
variable {buffer : Nat} {before after : List (Action α)}

/-- A subscription is made once, so at that time it is new. -/
theorem stream?_subscribe_of_nodup
    (hn : ((before ++ .subscribe s :: after).flatMap Action.made).Nodup) :
    (play { buffer } (before ++ [.subscribe s])).stream? s =
      some (play ({ buffer } : Feed α) before).newStream := by
  have hnone : (play ({ buffer } : Feed α) before).stream? s = none := by
    rw [stream?_eq_none_iff, mem_ids_play_iff]
    intro hmem
    rw [List.flatMap_append, List.flatMap_cons] at hn
    exact (List.nodup_append.1 hn).2.2 s (List.mem_flatMap.2 ⟨_, hmem, List.mem_singleton.2 rfl⟩)
      s (List.mem_append_left _ (List.mem_singleton.2 rfl)) rfl
  rw [play_append, play_cons, play_nil, stream?_act, hnone]
  simp [Action.newStream?]

theorem play_split : play ({ buffer } : Feed α) (before ++ .subscribe s :: after) =
    (play { buffer } (before ++ [.subscribe s])).play after := by
  rw [← play_append, List.append_assoc, List.singleton_append]

/-- **Who is held** is told by the history. -/
theorem holds_iff_since (hn : (actions.flatMap Action.made).Nodup) :
    (play { buffer } actions).holds s ↔ Since (· = .subscribe s) (· ≠ .letGo s) actions := by
  have hsplit : ∀ before after, actions = before ++ .subscribe s :: after →
      ((play { buffer } actions).holds s ↔ .letGo s ∉ after) := by
    rintro before after rfl
    rw [play_split]
    exact holds_play_iff (stream?_subscribe_of_nodup hn) rfl after
  constructor
  · intro h
    have hmade : .subscribe s ∈ actions := by
      obtain ⟨st, hs, -⟩ := Option.any_eq_true _ _ |>.1 h
      exact (mem_ids_play_iff buffer actions).1 (mem_ids_iff.2 ⟨st, hs⟩)
    obtain ⟨before, after, he⟩ := List.append_of_mem hmade
    exact ⟨before, _, after, he, rfl, fun b hb hgone =>
      (hsplit before after he).1 h (hgone ▸ hb)⟩
  · rintro ⟨before, _, after, he, rfl, hkept⟩
    exact (hsplit before after he).2 fun hgone => hkept _ hgone rfl

/-- **Who is contained** is told by the history. -/
theorem contains_iff_belongs (hn : (actions.flatMap Action.made).Nodup) :
    (play { buffer } actions).contains s ↔ Belongs s actions := by
  have hsplit : ∀ before after, actions = before ++ .subscribe s :: after →
      ((play { buffer } actions).contains s ↔ .close ∉ before ∧ Lasting s after) := by
    rintro before after rfl
    have hended : ∀ actions, (play ({ buffer } : Feed α) actions).Ended :=
      (ended_empty buffer).play
    by_cases hcl : .close ∈ before
    · have hclosed := (closed_play_iff (α := α) buffer (before ++ .subscribe s :: after)).2
        (List.mem_append_left _ hcl)
      rw [hended _ hclosed s]
      exact iff_of_false Bool.false_ne_true fun h => h.1 hcl
    · have hopen : (play ({ buffer } : Feed α) before).newStream.attached := by
        rw [newStream, Bool.not_eq_true', ← Bool.not_eq_true, closed_play_iff]
        exact hcl
      rw [play_split,
        contains_play_iff (hended _) (stream?_subscribe_of_nodup hn) rfl hopen after]
      exact (and_iff_right hcl).symm
  constructor
  · intro h
    have hmade := (mem_ids_play_iff buffer actions).1 (mem_ids_of_contains h)
    obtain ⟨before, after, he⟩ := List.append_of_mem hmade
    exact ⟨before, after, he, (hsplit before after he).1 h⟩
  · rintro ⟨before, after, he, h⟩
    exact (hsplit before after he).2 h

end

/-! ## All subscriptions -/

/-- The subscriptions that the feed delivers to, the oldest first. -/
def members (f : Feed α) : List SubscriptionId :=
  (f.streams.filter fun (_, stream) => stream.attached).map (·.1)

theorem mem_members_iff (hn : f.ids.Nodup) : s ∈ f.members ↔ f.contains s :=
  (mem_map_filter_streams_iff hn (p := (·.attached))).trans contains_iff.symm

theorem members_nodup (hn : f.ids.Nodup) : f.members.Nodup :=
  hn.sublist (List.filter_sublist.map _)

theorem size_eq_length (f : Feed α) : f.size = f.members.length := by
  rw [size, members, List.length_map, List.countP_eq_length_filter]

theorem attached_offer (st : Stream α) (x : α) :
    (st.offer x).attached = (st.attached && st.held) := by
  cases hat : st.attached <;> cases hheld : st.held <;> simp [Stream.offer, hat, hheld]

/-- **A publication** keeps the subscriptions that are held. -/
theorem members_publish (hn : f.ids.Nodup) (hopen : f.closed = false) (x : α) :
    (f.publish x).2.members = f.members.filter f.holds := by
  have hpublish : (f.publish x).2 = f.onStreams (Stream.offer x) := by
    simp [publish, hopen]
  rw [hpublish, members, onStreams, members, List.filter_map, List.map_map, List.filter_map,
    List.filter_filter]
  refine congrArg (List.map _) (List.filter_congr ?_)
  rintro ⟨t, st⟩ hmem
  have hs : f.stream? t = some st := stream?_of_mem_streams hn hmem
  show (st.offer x).attached = (f.holds t && st.attached)
  rw [attached_offer, holds_of_some hs, Bool.and_comm]

theorem delivered_publish (hopen : f.closed = false) (x : α) :
    (f.publish x).1.delivered = (f.publish x).2.size := by
  simp [publish, hopen]

/-! ## Streams at their end -/

/-- Nothing is left in the stream, and nothing will come. -/
structure AtEnd (st : Stream α) : Prop where
  detached : st.attached = false
  read : st.inbox.unread.toList = []
  told : st.inbox.missed = 0

theorem AtEnd.onStream (h : AtEnd st) (a : Action α) : AtEnd (a.onStream f s st) := by
  have hdetach : AtEnd st.detach := ⟨rfl, h.read, h.told⟩
  have hletGo : AtEnd st.letGo := ⟨h.detached, h.read, h.told⟩
  have hreceive : AtEnd st.receive.2 := by
    rw [Stream.receive_eq]
    refine ⟨h.detached, ?_, rfl⟩
    rw [Inbox.taken, Backlog.toList_tail, h.read, List.tail_nil]
  cases a with
  | publish x =>
    simp only [Action.onStream]
    split
    · exact h
    · simpa [Stream.offer, h.detached] using h
  | evict t => simp only [Action.onStream]; split <;> assumption
  | letGo t => simp only [Action.onStream]; split <;> assumption
  | receive t => simp only [Action.onStream]; split <;> assumption
  | close => exact hdetach
  | subscribe => exact h

/-- **A stream at its end** stays there, and every receipt finds the end. -/
theorem receive_of_atEnd (hs : f.stream? s = some st) (h : AtEnd st) (actions : List (Action α)) :
    ((f.play actions).receive s).1 = some ([], .ended) := by
  induction actions generalizing f st with
  | nil =>
    rw [play_nil, receive_fst, hs, Option.map_some, Stream.receive_eq, h.read, h.told, h.detached]
    rfl
  | cons a actions ih => exact ih (stream?_act_of_some hs a) (h.onStream a)

theorem receive_of_closed (hcl : f.closed) (hnew : s ∉ f.ids) (actions : List (Action α)) :
    (((f.subscribe s).play actions).receive s).1 = some ([], .ended) := by
  have hnone : f.stream? s = none := stream?_eq_none_iff.2 hnew
  have hs : (f.subscribe s).stream? s = some f.newStream := by
    rw [stream?_subscribe, hnone, if_pos rfl, Option.none_or]
  exact receive_of_atEnd hs ⟨by simp [newStream, hcl], rfl, rfl⟩ actions

/-! ## Histories -/

/-- **Who belongs to a feed is told by its history**: those who subscribed while it was open and
    have lasted since. -/
theorem belonging_by_history (buffer : Nat) (actions : List (Action α))
    (hn : (actions.flatMap Action.made).Nodup) :
    let f : Feed α := play { buffer } actions
    (∀ s, f.contains s ↔ Belongs s actions) ∧
    (∀ s, f.holds s ↔ Since (· = .subscribe s) (· ≠ .letGo s) actions) ∧
    (f.members.Nodup ∧ (∀ s, s ∈ f.members ↔ Belongs s actions) ∧ f.size = f.members.length) ∧
    (.close ∉ actions → f.closed = false ∧ ∀ x,
      let readers := f.members.filter f.holds
      (f.publish x).1.delivered = readers.length ∧
      (∀ s, (f.publish x).2.inbox s = if s ∈ readers then (f.inbox s).put x else f.inbox s) ∧
      (f.publish x).2.members = readers ∧ (f.publish x).2.size = readers.length) ∧
    (.close ∈ actions → f.closed ∧ f.size = 0 ∧ (∀ s, f.contains s = false) ∧
      (∀ x, f.publish x = ({ delivered := 0 }, f)) ∧
      ∀ s ∉ f.ids, ∀ more, (((f.subscribe s).play more).receive s).1 = some ([], .ended)) := by
  intro f
  have hids : f.ids.Nodup := by
    show (play { buffer } actions).ids.Nodup
    rw [ids_play]
    exact hn
  have hended : f.Ended := (ended_empty buffer).play actions
  have hclosed : f.closed ↔ .close ∈ actions := closed_play_iff buffer actions
  refine ⟨fun s => contains_iff_belongs hn, fun s => holds_iff_since hn,
    ⟨members_nodup hids, fun s => (mem_members_iff hids).trans (contains_iff_belongs hn),
      size_eq_length f⟩, fun hnever => ?_, fun honce => ?_⟩
  · have hopen : f.closed = false := by rwa [← Bool.not_eq_true, hclosed]
    refine ⟨hopen, fun x => ?_⟩
    intro readers
    have hmembers : (f.publish x).2.members = readers := members_publish hids hopen x
    have hsize : (f.publish x).2.size = readers.length := by rw [size_eq_length, hmembers]
    refine ⟨(delivered_publish hopen x).trans hsize, fun s => ?_, hmembers, hsize⟩
    have hreads : s ∈ readers ↔ f.contains s ∧ f.holds s := by
      rw [List.mem_filter, mem_members_iff hids]
    rw [inbox_publish hended]
    exact if_congr hreads.symm rfl rfl
  · have hcl : f.closed := hclosed.2 honce
    have hempty : f.isEmpty := (isEmpty_iff hids).2 (hended hcl)
    exact ⟨hcl, of_decide_eq_true hempty, hended hcl, publish_of_closed hcl,
      fun s hnew more => receive_of_closed hcl hnew more⟩

/-- The second reader let go and still belongs, as nothing was published since; the third one
    was evicted.  The next item is delivered to the first one only. -/
theorem belonging_by_history_of_late_prune :
    let actions : List (Action Nat) :=
      [.subscribe ⟨1⟩, .subscribe ⟨2⟩, .subscribe ⟨3⟩, .publish 6, .letGo ⟨2⟩, .evict ⟨3⟩,
        .receive ⟨1⟩]
    let f : Feed Nat := play { buffer := 3 } actions
    (actions.flatMap Action.made).Nodup ∧ Belongs ⟨2⟩ actions ∧ ¬ Belongs ⟨3⟩ actions ∧
      f.size = 2 ∧ (f.publish 7).1.delivered = 1 ∧ (f.publish 7).2.members = [⟨1⟩] := by
  intro actions f
  have hn : (actions.flatMap Action.made).Nodup := by decide
  obtain ⟨hcontains, -, ⟨-, -, hsize⟩, hopen, -⟩ := belonging_by_history 3 actions hn
  obtain ⟨-, hpublish⟩ := hopen (by simp [actions])
  obtain ⟨hdelivered, -, hmembers, -⟩ := hpublish 7
  refine ⟨hn, (hcontains ⟨2⟩).1 (by decide), fun h => ?_, hsize.trans (by decide),
    hdelivered.trans (by decide), hmembers.trans (by decide)⟩
  have hthird := (hcontains ⟨3⟩).2 h
  revert hthird
  decide

end Workmeter.Feed
