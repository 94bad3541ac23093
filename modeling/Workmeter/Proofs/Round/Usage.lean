/-
  Workmeter — the usage of the host in the samples.

  A round asks the host once, and all its samples carry the answer.  No inbox gets
  more than one of them, so what a reader receives follows the answers of the host
  in their order, whatever was skipped in between.

  * `inbox_runWith`: an inbox gets one sample of a round, or none;
  * `Hub.hostUsages`: the answers of the host along the operations;
  * `received_append_unread_sublist`: the samples received and unread carry some of
    these answers, in the same order;
  * `usages_in_order`: what this means for every reader.
-/
import Workmeter.Proofs.Hub.Receipts
import Workmeter.Proofs.Round.Calls
import Workmeter.Proofs.Round.Delivery
import Workmeter.Proofs.Round.Registration

namespace Workmeter

theorem Inbox.unread_put_sublist {α : Type} (i : Inbox α) (a : α) :
    (i.put a).unread.toList.Sublist (i.unread.toList ++ [a]) := by
  unfold Inbox.put
  split
  · rw [Backlog.toList_push]
  · rw [Backlog.toList_push, Backlog.toList_tail]
    exact (List.tail_sublist _).append_right _

namespace Round

variable {σ : Type} {sources : Sources σ} {usage : UInt64} {state : σ} {hub : Hub Sample}

/-! ## One round -/

/-- A measurement that gives a sample publishes it. -/
theorem publish_mem_actions {r : Round σ} {before : List Move} {id : WorkloadId} {x : Sample}
    (hs : (r.play sources usage before).sample? sources usage id = some x) (k : FeedId)
    (rest : List Move) :
    .publish k x ∈ r.actions sources usage (before ++ .measure (id, k) :: rest) := by
  induction before generalizing r with
  | nil =>
    have hs' : r.sample? sources usage id = some x := hs
    simp [actions, actionsOf, hs']
  | cons m before ih =>
    rw [List.cons_append, actions, List.mem_append]
    exact Or.inr (ih hs)

theorem inbox_play_moves (hc : hub.Coherent) (order : Order) (s : Subscription) :
    let moves := order.moves hub.entries
    ((begun sources state hub).play sources usage moves).hub.inbox s = hub.inbox s ∨
      ∃ x, .publish s.feed x ∈ (begun sources state hub).actions sources usage moves ∧
        ((begun sources state hub).play sources usage moves).hub.inbox s = (hub.inbox s).put x := by
  intro moves
  by_cases hid : ∃ id, hub.registered id = some s.feed
  · obtain ⟨id, hid⟩ := hid
    have hmem := (Hub.mem_entries_iff hc.names_nodup).2 hid
    obtain ⟨before, rest, he, hother⟩ := order.exists_split hc.names_nodup hmem
    have hne : ∀ other, .measure other ∈ before ++ rest → s.feed ≠ other.2 := by
      intro other ho hk
      obtain ⟨hin, hname⟩ := hother other ho
      refine hname (hc.registered_inj _ _ s.feed ?_ hid)
      rw [hk]; exact (Hub.mem_entries_iff hc.names_nodup).1 hin
    have hstart : (begun sources state hub).hub.Coherent := by rw [hub_begun]; exact hc.play _
    have hfinal : ((begun sources state hub).play sources usage
        (before ++ .measure (id, s.feed) :: rest)).hub.inbox s = _ :=
      inbox_play_of_split hstart hne s.id
    rw [show moves = _ from he]
    cases hs : ((begun sources state hub).play sources usage before).sample? sources usage id with
    | none =>
      simp only [hs, inbox_begun] at hfinal
      exact Or.inl hfinal
    | some x =>
      simp only [hs, inbox_begun] at hfinal
      split_ifs at hfinal
      · exact Or.inr ⟨x, publish_mem_actions hs s.feed rest, hfinal⟩
      · exact Or.inl hfinal
  · -- no workload was registered with the feed when the round started
    left
    rw [inbox_play_of_ne, inbox_begun]
    intro task hm hk
    refine hid ⟨task.1, ?_⟩
    rw [hk]
    exact (Hub.mem_entries_iff hc.names_nodup).1 ((measure_mem_iff order _ task).1 hm)

/-- **An inbox gets one sample of a round, or none.** -/
theorem inbox_runWith (hc : hub.Coherent) (order : Order) (sources : Sources σ) (state : σ)
    (s : Subscription) :
    (runWith order.moves sources state hub).hub.inbox s = hub.inbox s ∨
      ∃ x, .publish s.feed x ∈ history order sources state hub ∧
        (runWith order.moves sources state hub).hub.inbox s = (hub.inbox s).put x := by
  by_cases hn : hub.entries = []
  · left; rw [runWith_of_nil hn]
  · cases hv : hostAnswer sources state hub with
    | value usage =>
      rw [hub_runWith_of_value hn hv]
      refine (inbox_play_moves hc order s).imp id ?_
      rintro ⟨x, hx, hput⟩
      refine ⟨x, ?_, hput⟩
      rw [history, if_neg (by simpa using hn), hv]
      exact List.mem_append_right _ hx
    | failure cause => left; rw [runWith_of_failure hn hv]; exact inbox_begun ..
    | crash text => left; rw [runWith_of_crash hn hv]; exact inbox_begun ..

theorem hostAnswer_of_publish {order : Order} {k : FeedId} {x : Sample}
    (hx : .publish k x ∈ history order sources state hub) :
    hostAnswer sources state hub = .value x.hostUsage := by
  rcases quiet_or_publish_of_mem_history hx with hq | ⟨l, y, he, hv⟩
  · cases hq
  · cases he; exact hv

theorem received_history (order : Order) (sources : Sources σ) (state : σ) (hub : Hub Sample)
    (s : Subscription) : hub.received s (history order sources state hub) = [] := by
  refine Hub.received_of_no_receipt fun hm => ?_
  rcases quiet_or_publish_of_mem_history hm with hq | ⟨k, x, he, -⟩
  · cases hq
  · cases he

end Round

/-! ## Any operations -/

/-- What the host tells in an operation. -/
def Operation.hostUsage? (hub : Hub Sample) : Operation → Option UInt64
  | act _ => none
  | round _ sources state =>
    if hub.entries.isEmpty then none else
      match Round.hostAnswer sources state hub with
      | .value usage => some usage
      | .failure _ | .crash _ => none

namespace Hub

variable {hub : Hub Sample}

/-- What the host tells along the operations. -/
def hostUsages : Hub Sample → List Operation → List UInt64
  | _, [] => []
  | hub, o :: operations => (o.hostUsage? hub).toList ++ (o.perform hub).hostUsages operations

/-- The usages of the host in the samples that a subscription has not read. -/
def unreadUsages (hub : Hub Sample) (s : Subscription) : List UInt64 :=
  (hub.unreadItems s).map (·.hostUsage)

/-- The usages of the host in the samples received on a subscription. -/
def receivedUsages (s : Subscription) (hub : Hub Sample) (actions : List (Action Sample)) :
    List UInt64 :=
  (hub.received s actions).map (·.hostUsage)

theorem usages_act {a : Action Sample} (ha : a.ofRegistry) (s : Subscription) :
    hub.receivedUsages s [a] ++ (hub.act a).unreadUsages s = hub.unreadUsages s := by
  by_cases hr : a = .receive s
  · subst hr
    rw [receivedUsages, unreadUsages, ← List.map_append]
    exact congrArg _ (received_append_unread hub s)
  · have hnone : hub.receivedUsages s [a] = [] := by
      rw [receivedUsages, received_of_no_receipt (by simpa using Ne.symm hr)]; rfl
    have hsame : (hub.act a).inbox s = hub.inbox s := by
      cases a with
      | receive t => exact (inbox_receive hub t s).trans (if_neg fun e => hr (by rw [e]))
      | subscribe | unsubscribe | stop | release | letGo => exact inbox_act_of_isQuiet rfl s
      | makeFeed | attach | publish | evict | close => cases ha
    rw [hnone, unreadUsages, unreadItems, hsame]; rfl

/-- What an operation adds to the usages that a reader has received or can still
    receive, is what the host tells in it. -/
theorem usages_perform (hc : hub.Coherent) {o : Operation} (ho : o.ofRegistry) (s : Subscription) :
    (hub.receivedUsages s (o.actions hub) ++ (o.perform hub).unreadUsages s).Sublist
      (hub.unreadUsages s ++ (o.hostUsage? hub).toList) := by
  cases o with
  | act a =>
    rw [Operation.actions, Operation.perform, usages_act ho]
    exact List.sublist_append_left _ _
  | round order sources state =>
    have hnone : hub.receivedUsages s (Round.history order sources state hub) = [] := by
      rw [receivedUsages, Round.received_history]; rfl
    rw [Operation.actions, Operation.perform, hnone, List.nil_append]
    rcases Round.inbox_runWith hc order sources state s with hsame | ⟨x, hx, hput⟩
    · rw [unreadUsages, unreadItems, hsame]
      exact List.sublist_append_left _ _
    · have hn : hub.entries.isEmpty = false := by
        by_contra hn
        rw [Bool.not_eq_false] at hn
        rw [Round.history, if_pos hn] at hx; cases hx
      have htold : Operation.hostUsage? hub (.round order sources state) = some x.hostUsage := by
        simp only [Operation.hostUsage?, hn, Round.hostAnswer_of_publish hx]; rfl
      rw [htold, unreadUsages, unreadItems, hput]
      simpa [unreadUsages, unreadItems] using
        ((hub.inbox s).unread_put_sublist x).map (·.hostUsage)

/-- **The samples received and unread** carry some of the answers of the host, in
    their order. -/
theorem received_append_unread_sublist (hc : hub.Coherent) {operations : List Operation}
    (ho : ∀ o ∈ operations, o.ofRegistry) (s : Subscription) :
    (hub.receivedUsages s (hub.history operations) ++
      (hub.after operations).unreadUsages s).Sublist
        (hub.unreadUsages s ++ hub.hostUsages operations) := by
  induction operations generalizing hub with
  | nil => simp [history, receivedUsages, received, readings, after, hostUsages]
  | cons o operations ih =>
    have hnext : (o.perform hub).Coherent := by rw [← o.play_actions]; exact hc.play _
    have hfirst := usages_perform hc (ho o (by simp)) s
    have hrest := ih hnext fun p hp => ho p (by simp [hp])
    have hsplit : hub.receivedUsages s (hub.history (o :: operations)) =
        hub.receivedUsages s (o.actions hub) ++
          (o.perform hub).receivedUsages s ((o.perform hub).history operations) := by
      rw [receivedUsages, history, received_append, o.play_actions, List.map_append]; rfl
    rw [hsplit, hostUsages, List.append_assoc, ← List.append_assoc (hub.unreadUsages s)]
    refine (hrest.append_left _).trans ?_
    rw [← List.append_assoc]
    exact hfirst.append_right _

/-- **One round, at most one sample, and usages in order**: what a reader receives carries some of
    the usages that the host told, in the same order. -/
theorem usages_in_order (buffer : Nat) (operations : List Operation)
    (ho : ∀ o ∈ operations, o.ofRegistry) {σ : Type} (order : Round.Order) (sources : Sources σ)
    (state : σ) (s : Subscription) :
    let start : Hub Sample := { buffer }
    let hub := start.after operations
    let round := Round.runWith order.moves sources state hub
    let history := Round.history order sources state hub
    let received := (start.received s (start.history operations)).map (·.hostUsage)
    let told := start.hostUsages operations
    round.calls.count .hostUsage = (if hub.entries.isEmpty then 0 else 1) ∧
    (∀ k x, .publish k x ∈ history →
      Round.hostAnswer sources state hub = .value x.hostUsage) ∧
    (round.hub.inbox s = hub.inbox s ∨
      ∃ x, .publish s.feed x ∈ history ∧ round.hub.inbox s = (hub.inbox s).put x) ∧
    received.Sublist told ∧
    (told.Pairwise (· < ·) → received.Pairwise (· < ·)) ∧
    (told.Pairwise (· ≤ ·) → received.Pairwise (· ≤ ·)) := by
  intro start hub round history received told
  have hc : hub.Coherent := coherent_after buffer operations
  have hall := received_append_unread_sublist (coherent_empty buffer) ho s
  have hsub : received.Sublist told := (List.sublist_append_left _ _).trans hall
  refine ⟨Round.count_hostUsage_runWith order.moves sources state hub, fun k x hx => ?_, ?_, hsub,
    fun hlt => hlt.sublist hsub, fun hle => hle.sublist hsub⟩
  · exact Round.hostAnswer_of_publish hx
  · exact Round.inbox_runWith hc order sources state s

/-- Of three samples the inbox keeps one at a time; the reader skips the first and
    receives the other two. -/
theorem usages_in_order_of_skipped_sample :
    let web : WorkloadId := ⟨"web", by decide, by decide⟩
    let s : Subscription := ⟨⟨0⟩, ⟨1⟩⟩
    let sources : UInt64 → Sources Unit := fun usage =>
      { hostUsage := fun _ => .answer (.value usage, ())
        stats := fun _ _ => .answer (.value {}, ()), sandbox := fun _ _ => none
        interfaces := fun _ _ => .value [] }
    let operations : List Operation := [.act (.subscribe web), .round .inTurn (sources 1) (),
      .round .inTurn (sources 5) (), .act (.receive s), .round .inTurn (sources 9) (),
      .act (.receive s)]
    let start : Hub Sample := { buffer := 1 }
    let received := (start.received s (start.history operations)).map (·.hostUsage)
    (∀ o ∈ operations, o.ofRegistry) ∧ start.hostUsages operations = [1, 5, 9] ∧
      received = [5, 9] ∧ received.Pairwise (· < ·) := by
  intro web s sources operations start received
  have ho : ∀ o ∈ operations, o.ofRegistry := by decide
  have htold : start.hostUsages operations = [1, 5, 9] := by decide
  obtain ⟨-, -, -, -, hlt, -⟩ := usages_in_order 1 operations ho .inTurn (sources 9) () s
  exact ⟨ho, htold, by decide +kernel, hlt (by rw [htold]; decide)⟩

end Hub

end Workmeter
