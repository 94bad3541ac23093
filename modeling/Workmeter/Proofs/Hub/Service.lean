/-
  Workmeter — what a round does to a hub for one workload.

  It publishes through the feed that the workload had at the start, or releases it;
  no other feed and no other registration feels this.

  * `Action.serves`: an action of a round for one workload;
  * `registered_play_of_serves`, `feed?_play_of_serves`: the other workloads and
    feeds stay as they are;
  * `play_congr_of_serves`: what becomes of the workload and its feed depends on
    these alone;
  * `Hub.services`: the publication of a sample and the release that may follow;
  * `Hub.Within`: the workloads registered are some of those registered before, in
    the same order, and nothing was made (`within_play`);
  * `Within.ext`: two such hubs are equal if every workload and every feed is in
    both as in the other.
-/
import Workmeter.Proofs.Hub.Coherence

namespace Workmeter.Hub

variable {α : Type} {h : Hub α} {a : Action α} {id : WorkloadId} {k : FeedId}
  {task : WorkloadId × FeedId}

/-- The action publishes an item for the workload, or releases it. -/
def Action.serves (task : WorkloadId × FeedId) : Action α → Bool
  | .publish k _ => k = task.2
  | .release id k => (id, k) = task
  | _ => false

theorem registered_act_of_serves (ha : a.serves task) (hid : id ≠ task.1) :
    (h.act a).registered id = h.registered id := by
  rw [registered_act]
  cases a with
  | publish l x => exact Option.or_none ..
  | release other l =>
    obtain rfl : (other, l) = task := of_decide_eq_true ha
    simp [Action.unregisters, Action.registers?, Ne.symm hid]
  | subscribe | unsubscribe | stop | letGo | receive | makeFeed | attach | evict | close => cases ha

theorem feed?_act_of_serves (ha : a.serves task) (hk : k ≠ task.2) :
    (h.act a).feed? k = h.feed? k := by
  rw [feed?_act]
  cases a with
  | publish l x =>
    obtain rfl : l = task.2 := of_decide_eq_true ha
    simp [Action.newFeed?, Action.onFeed, Action.target?, Ne.symm hk]
  | release other l => simp [Action.newFeed?, Action.onFeed, Action.target?]
  | subscribe | unsubscribe | stop | letGo | receive | makeFeed | attach | evict | close => cases ha

theorem registered_play_of_serves {actions : List (Action α)} (ha : ∀ a ∈ actions, a.serves task)
    (hid : id ≠ task.1) : (h.play actions).registered id = h.registered id := by
  induction actions generalizing h with
  | nil => rfl
  | cons a actions ih =>
    rw [play_cons, ih fun b hb => ha b (by simp [hb]), registered_act_of_serves (ha a (by simp)) hid]

theorem feed?_play_of_serves {actions : List (Action α)} (ha : ∀ a ∈ actions, a.serves task)
    (hk : k ≠ task.2) : (h.play actions).feed? k = h.feed? k := by
  induction actions generalizing h with
  | nil => rfl
  | cons a actions ih =>
    rw [play_cons, ih fun b hb => ha b (by simp [hb]), feed?_act_of_serves (ha a (by simp)) hk]

/-- What an action makes of its workload and feed depends on these alone. -/
theorem act_congr_of_serves {h' : Hub α} (ha : a.serves task)
    (hr : h.registered task.1 = h'.registered task.1) (hf : h.feed? task.2 = h'.feed? task.2) :
    (h.act a).registered task.1 = (h'.act a).registered task.1 ∧
      (h.act a).feed? task.2 = (h'.act a).feed? task.2 := by
  rw [registered_act, registered_act, feed?_act, feed?_act, hf, hr]
  cases a with
  | publish l x =>
    exact ⟨rfl, by simp [Action.newFeed?, Action.onFeed, Action.target?]⟩
  | release other l =>
    obtain rfl : (other, l) = task := of_decide_eq_true ha
    have hidle : h.isIdle l = h'.isIdle l := by unfold isIdle; rw [show h.feed? l = _ from hf]
    have hreg : h.registered other = h'.registered other := hr
    simp [Action.unregisters, Action.registers?, Action.newFeed?, Action.onFeed, Action.target?,
      hidle, hreg]
  | subscribe | unsubscribe | stop | letGo | receive | makeFeed | attach | evict | close => cases ha

theorem play_congr_of_serves {h' : Hub α} {actions : List (Action α)}
    (ha : ∀ a ∈ actions, a.serves task) (hr : h.registered task.1 = h'.registered task.1)
    (hf : h.feed? task.2 = h'.feed? task.2) :
    (h.play actions).registered task.1 = (h'.play actions).registered task.1 ∧
      (h.play actions).feed? task.2 = (h'.play actions).feed? task.2 := by
  induction actions generalizing h h' with
  | nil => exact ⟨hr, hf⟩
  | cons a actions ih =>
    obtain ⟨hr, hf⟩ := act_congr_of_serves (ha a (by simp)) hr hf
    exact ih (fun b hb => ha b (by simp [hb])) hr hf

theorem publish_fst_congr {h' : Hub α} (hf : h.feed? k = h'.feed? k) (x : α) :
    (h.publish k x).1 = (h'.publish k x).1 := by
  unfold publish
  rw [hf]
  cases h'.feed? k <;> rfl

/-! ## A sample of a workload -/

/-- What becomes of a sample: it is published, and the workload is released if it
    reached nobody.  Without a sample nothing happens. -/
def services (h : Hub α) (task : WorkloadId × FeedId) : Option α → List (Action α)
  | none => []
  | some x =>
    .publish task.2 x ::
      if (h.publish task.2 x).1.delivered = 0 then [.release task.1 task.2] else []

theorem serves_of_mem_services {x : Option α} (ha : a ∈ h.services task x) : a.serves task := by
  cases x with
  | none => cases ha
  | some x =>
    rcases List.mem_cons.1 ha with rfl | ha
    · exact decide_eq_true rfl
    · split at ha
      · rw [List.mem_singleton.1 ha]; exact decide_eq_true rfl
      · cases ha

/-- What becomes of a sample depends on the workload and its feed alone. -/
theorem play_services_congr {h' : Hub α} (hr : h.registered task.1 = h'.registered task.1)
    (hf : h.feed? task.2 = h'.feed? task.2) (x : Option α) :
    (h.play (h.services task x)).registered task.1 =
        (h'.play (h'.services task x)).registered task.1 ∧
      (h.play (h.services task x)).feed? task.2 =
        (h'.play (h'.services task x)).feed? task.2 := by
  have hservices : h.services task x = h'.services task x := by
    cases x with
    | none => rfl
    | some x => rw [services, services, publish_fst_congr hf]
  rw [hservices]
  exact play_congr_of_serves (fun _ => serves_of_mem_services) hr hf

/-! ## What remains -/

/-- Nothing was made, and the workloads are some of those that were registered. -/
structure Within (h' h : Hub α) : Prop where
  buffer : h'.buffer = h.buffer
  made : h'.made = h.made
  size : h'.feeds.size = h.feeds.size
  entries : h'.entries.Sublist h.entries

theorem Within.refl (h : Hub α) : h.Within h := ⟨rfl, rfl, rfl, List.Sublist.refl _⟩

theorem Within.trans {h₁ h₂ h₃ : Hub α} (h₁₂ : h₁.Within h₂) (h₂₃ : h₂.Within h₃) : h₁.Within h₃ :=
  ⟨h₁₂.buffer.trans h₂₃.buffer, h₁₂.made.trans h₂₃.made, h₁₂.size.trans h₂₃.size,
    h₁₂.entries.trans h₂₃.entries⟩

theorem Within.names_nodup {h' : Hub α} (hw : h'.Within h) (hn : h.names.Nodup) :
    h'.names.Nodup :=
  hn.sublist (hw.entries.map _)

theorem Within.registered {h' : Hub α} (hw : h'.Within h) (hn : h.names.Nodup)
    (hid : h'.registered id = some k) : h.registered id = some k := by
  rw [← mem_entries_iff (hw.names_nodup hn)] at hid
  exact (mem_entries_iff hn).1 (hw.entries.subset hid)

theorem within_act (ha : a.serves task) : (h.act a).Within h := by
  cases a with
  | publish l x =>
    simp only [act, publish]
    split
    · exact ⟨rfl, rfl, Array.size_modify, List.Sublist.refl _⟩
    · exact .refl h
  | release other l =>
    simp only [act, releaseIfIdle]
    split
    · exact ⟨rfl, rfl, rfl, List.filter_sublist⟩
    · exact .refl h
  | subscribe | unsubscribe | stop | letGo | receive | makeFeed | attach | evict | close => cases ha

theorem within_play {actions : List (Action α)} (ha : ∀ a ∈ actions, ∃ task, a.serves task) :
    (h.play actions).Within h := by
  induction actions generalizing h with
  | nil => exact .refl h
  | cons a actions ih =>
    obtain ⟨task, hs⟩ := ha a (by simp)
    exact (ih fun b hb => ha b (by simp [hb])).trans (within_act hs)

theorem sublist_eq_filter {β : Type} [DecidableEq β] {l l' : List β} (hs : l'.Sublist l)
    (hn : l.Nodup) : l' = l.filter (· ∈ l') := by
  induction hs with
  | slnil => rfl
  | @cons l' l b hs ih =>
    rw [List.nodup_cons] at hn
    rw [List.filter_cons_of_neg (by simpa using fun hb => hn.1 (hs.subset hb))]
    exact ih hn.2
  | @cons_cons l' l b hs ih =>
    rw [List.nodup_cons] at hn
    rw [List.filter_cons_of_pos (by simp)]
    refine congrArg _ ((ih hn.2).trans (List.filter_congr fun c hc => ?_))
    have hne : c ≠ b := fun e => hn.1 (e ▸ hc)
    simp [hne]

/-- **Two hubs** that remain of one are equal if every workload and every feed is in
    both as in the other. -/
theorem Within.ext {h₁ h₂ : Hub α} (hn : h.names.Nodup) (h₁h : h₁.Within h) (h₂h : h₂.Within h)
    (hr : ∀ id k, h.registered id = some k → h₁.registered id = h₂.registered id)
    (hf : ∀ k, h₁.feed? k = h₂.feed? k) : h₁ = h₂ := by
  have hentries : h₁.entries = h₂.entries := by
    rw [sublist_eq_filter h₁h.entries hn.of_map, sublist_eq_filter h₂h.entries hn.of_map]
    refine List.filter_congr fun e he => ?_
    rw [decide_eq_decide, mem_entries_iff (h₁h.names_nodup hn), mem_entries_iff (h₂h.names_nodup hn),
      hr e.1 e.2 ((mem_entries_iff hn).1 he)]
  have hfeeds : h₁.feeds = h₂.feeds := Array.ext_getElem? fun i => hf ⟨i⟩
  cases h₁; cases h₂
  simp only [Hub.mk.injEq]
  exact ⟨h₁h.buffer.trans h₂h.buffer.symm, hfeeds, hentries, h₁h.made.trans h₂h.made.symm⟩

end Workmeter.Hub
