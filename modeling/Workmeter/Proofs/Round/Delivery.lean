/-
  Workmeter — who gets the samples of a round.

  A round takes the feeds at its start, and the hub moves on under it.  So it is
  the feed, and not the workload, that decides who gets a sample: those that the
  feed delivers to when the sample is published.

  * `inbox_measure`: a measurement changes the inboxes of its own feed only;
  * `inbox_runWith_of_registered`, `inbox_runWith_of_unregistered`: so a feed that is
    registered at the start gets the sample of its workload, and no other feed gets any;
  * `samples_of_round`: the inboxes after a round, after any history.
-/
import Workmeter.Proofs.Round.History

namespace Workmeter

/-! ## In a round -/

namespace Round

variable {σ : Type} {sources : Sources σ} {usage : UInt64} {r : Round σ} {id : WorkloadId}
  {s : Subscription}

theorem inbox_inquiry {α : Type} (q : Inquiry α) (hub : Hub Sample) (s : Subscription) :
    (q.run hub).2.inbox s = hub.inbox s := by
  rw [← Inquiry.play_actions]
  refine Hub.inbox_play_of_isQuiet (fun a ha => ?_) s
  exact Hub.Action.isQuiet_of_isRequest (Inquiry.isRequest_of_mem ha)

theorem inbox_settle (r : Round σ) (task : Task) (s : Subscription) :
    (r.settle task).hub.inbox s = r.hub.inbox s := by
  rw [hub_settle r task.1 task.2]
  refine Hub.inbox_play_of_isQuiet (fun a ha => ?_) s
  unfold releases at ha
  split at ha
  · rw [List.mem_singleton.1 ha]; rfl
  · cases ha

/-- **A measurement** changes the inboxes of its own feed only. -/
theorem inbox_measure (hc : r.hub.Coherent) (id : WorkloadId) (k : FeedId) (t : SubscriptionId) :
    (r.measure sources usage (id, k)).hub.inbox ⟨k, t⟩ =
      match r.sample? sources usage id with
      | some sample =>
        if (r.ask sources id).2.contains k t ∧ (r.ask sources id).2.holds ⟨k, t⟩ then
          (r.hub.inbox ⟨k, t⟩).put sample
        else r.hub.inbox ⟨k, t⟩
      | none => r.hub.inbox ⟨k, t⟩ := by
  have hask : (r.ask sources id).2.inbox ⟨k, t⟩ = r.hub.inbox ⟨k, t⟩ := inbox_inquiry _ _ _
  cases hs : r.sample? sources usage id with
  | some sample =>
    have hca : (r.ask sources id).2.Coherent := by
      rw [hub_ask]; exact hc.play _
    rw [(measure_of_some hs k).1, Hub.inbox_publish hca, hask]
  | none => rw [(measure_of_none hs k).1, hask]

theorem inbox_measure_of_ne {task : Task} (hk : s.feed ≠ task.2) :
    (r.measure sources usage task).hub.inbox s = r.hub.inbox s := by
  obtain ⟨id, k⟩ := task
  have hask : (r.ask sources id).2.inbox s = r.hub.inbox s := inbox_inquiry _ _ _
  cases hs : r.sample? sources usage id with
  | some sample => rw [(measure_of_some hs k).1, Hub.inbox_publish_of_ne hk, hask]
  | none => rw [(measure_of_none hs k).1, hask]

/-- Where the feed is not measured, the inbox does not change. -/
theorem inbox_play_of_ne {moves : List Move}
    (hm : ∀ task, .measure task ∈ moves → s.feed ≠ task.2) :
    (r.play sources usage moves).hub.inbox s = r.hub.inbox s := by
  induction moves generalizing r with
  | nil => rfl
  | cons m moves ih =>
    show ((r.step sources usage m).play sources usage moves).hub.inbox s = _
    rw [ih fun task ht => hm task (by simp [ht])]
    cases m with
    | measure task => exact inbox_measure_of_ne (hm task (by simp))
    | settle task => exact inbox_settle r task s

/-- Each workload is measured once. -/
theorem Order.exists_split (order : Order) {tasks : List Task} (hn : (tasks.map (·.1)).Nodup)
    {task : Task} (ht : task ∈ tasks) :
    ∃ before rest, order.moves tasks = before ++ .measure task :: rest ∧
      ∀ other, .measure other ∈ before ++ rest → other ∈ tasks ∧ other.1 ≠ task.1 := by
  obtain ⟨before, rest, he⟩ := List.append_of_mem ((measure_mem_iff order tasks task).2 ht)
  have honce : (measured (before ++ .measure task :: rest)).Nodup := by
    rw [← he]; exact (measured_perm order tasks).nodup_iff.2 hn
  have hmid : measured (before ++ .measure task :: rest) =
      measured before ++ task.1 :: measured rest := by simp [measured, List.filterMap_append]
  rw [hmid, List.nodup_middle, List.nodup_cons] at honce
  refine ⟨before, rest, he, fun other ho => ⟨?_, fun heq => honce.1 ?_⟩⟩
  · rw [← measure_mem_iff order, he]
    exact (List.mem_append.1 ho).elim (fun h => by simp [h]) fun h => by simp [h]
  · have hin : other.1 ∈ measured (before ++ rest) := mem_measured_of_mem ho
    rwa [measured, List.filterMap_append, heq] at hin

theorem inbox_begun (sources : Sources σ) (state : σ) (hub : Hub Sample) (s : Subscription) :
    (begun sources state hub).hub.inbox s = hub.inbox s := inbox_inquiry _ _ _

/-- A feed that is measured once gets the sample of this measurement. -/
theorem inbox_play_of_split (hc : r.hub.Coherent) {k : FeedId} {before rest : List Move}
    (hm : ∀ other, .measure other ∈ before ++ rest → k ≠ other.2) (t : SubscriptionId) :
    let asked := ((r.play sources usage before).ask sources id).2
    (r.play sources usage (before ++ .measure (id, k) :: rest)).hub.inbox ⟨k, t⟩ =
      match (r.play sources usage before).sample? sources usage id with
      | some sample =>
        if asked.contains k t ∧ asked.holds ⟨k, t⟩ then (r.hub.inbox ⟨k, t⟩).put sample
        else r.hub.inbox ⟨k, t⟩
      | none => r.hub.inbox ⟨k, t⟩ := by
  intro asked
  have hcb : (r.play sources usage before).hub.Coherent := by
    rw [← play_actions]; exact hc.play _
  have hbefore : (r.play sources usage before).hub.inbox ⟨k, t⟩ = r.hub.inbox ⟨k, t⟩ :=
    inbox_play_of_ne fun other ho => hm other (List.mem_append_left _ ho)
  have hplay : r.play sources usage (before ++ .measure (id, k) :: rest) =
      ((r.play sources usage before).measure sources usage (id, k)).play sources usage rest :=
    play_append r before _
  rw [hplay, inbox_play_of_ne fun other ho => hm other (List.mem_append_right _ ho),
    inbox_measure hcb, hbefore]

section
variable {order : Order} {state : σ} {hub : Hub Sample}

/-- **A feed that is registered when the round starts** gets the sample of its workload, if
    there is one, when the workload is measured. -/
theorem inbox_runWith_of_registered (order : Order) (hc : hub.Coherent)
    (hv : hostAnswer sources state hub = .value usage) {k : FeedId}
    (hid : hub.registered id = some k) :
    ∃ before rest, order.moves hub.entries = before ++ .measure (id, k) :: rest ∧
      .measure (id, k) ∉ before ++ rest ∧
      let r := (begun sources state hub).play sources usage before
      let asked := (r.ask sources id).2
      ∀ t, (runWith order.moves sources state hub).hub.inbox ⟨k, t⟩ =
        match r.sample? sources usage id with
        | some sample =>
          if asked.contains k t ∧ asked.holds ⟨k, t⟩ then (hub.inbox ⟨k, t⟩).put sample
          else hub.inbox ⟨k, t⟩
        | none => hub.inbox ⟨k, t⟩ := by
  have hstart : (begun sources state hub).hub.Coherent := by
    rw [hub_begun]; exact hc.play _
  have hmem := (Hub.mem_entries_iff hc.names_nodup).2 hid
  obtain ⟨before, rest, he, hother⟩ := order.exists_split hc.names_nodup hmem
  have hne : ∀ other, .measure other ∈ before ++ rest → k ≠ other.2 := by
    rintro other ho rfl
    obtain ⟨hin, hname⟩ := hother other ho
    exact hname (hc.registered_inj _ _ _ ((Hub.mem_entries_iff hc.names_nodup).1 hin) hid)
  refine ⟨before, rest, he, fun hm => (hother _ hm).2 rfl, fun t => ?_⟩
  rw [hub_runWith_of_value (List.ne_nil_of_mem hmem) hv, he, inbox_play_of_split hstart hne,
    inbox_begun]

/-- No other feed gets a sample. -/
theorem inbox_runWith_of_unregistered (hc : hub.Coherent)
    (hv : hostAnswer sources state hub = .value usage)
    (hk : ∀ id, hub.registered id ≠ some s.feed) :
    (runWith order.moves sources state hub).hub.inbox s = hub.inbox s := by
  by_cases hn : hub.entries = []
  · rw [runWith_of_nil hn]
  · rw [hub_runWith_of_value hn hv, inbox_play_of_ne, inbox_begun]
    intro task hm hfeed
    have hin := (measure_mem_iff order _ _).1 hm
    exact hk task.1 (hfeed ▸ (Hub.mem_entries_iff hc.names_nodup).1 hin)

/-- Without the usage of the host there are no samples. -/
theorem inbox_runWith_of_no_usage (hn : ∀ usage, hostAnswer sources state hub ≠ .value usage) :
    (runWith order.moves sources state hub).hub.inbox s = hub.inbox s := by
  rw [← play_roundHistory]
  refine Hub.inbox_play_of_isQuiet (fun a ha => ?_) s
  refine (quiet_or_publish_of_mem_history ha).resolve_right ?_
  rintro ⟨k, x, -, hv⟩
  exact hn _ hv

end

end Round

end Workmeter
