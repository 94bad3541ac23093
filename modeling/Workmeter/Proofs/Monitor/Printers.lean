/-
  Workmeter — the printers of the program, through its rounds.

  A printer that has subscribed holds a subscription of its own.  In a round it gets what the
  round publishes of its workload, and it prints all of it before the next one; who
  subscribes in the course of a round may come too late for it.

  * `Served`, `Joined`: the printers hold their subscriptions; more of them have subscribed;
  * `Course.published`: what a round publishes of a workload;
  * `Served.unreadItems_round`: what is waiting for a printer after a round;
  * `Ready`: the printers hold their subscriptions, and nothing is waiting on them;
  * `Ready.subscribe`, `Ready.round`, `Ready.tick`: what a step of the program leaves, and
    what it prints;
  * `Ready.play`: all steps.
-/
import Workmeter.Monitor.Run
import Workmeter.Proofs.Hub.Receipts
import Workmeter.Proofs.Round.Delivery
import Workmeter.Proofs.Round.Invariant
import Workmeter.Proofs.Round.Subscription

namespace Workmeter

namespace Hub

variable {α : Type} {h : Hub α} {name : WorkloadId} {s : Subscription}

theorem Action.keepsReaders_of_serves {a : Action α} {task : WorkloadId × FeedId}
    (ha : a.serves task) : a.keepsReaders := by
  cases a <;> first | rfl | cases ha

theorem made_subscribe (h : Hub α) (name : WorkloadId) :
    (h.subscribe name).2.made = h.made + 1 := by
  unfold subscribe
  split <;> rfl

theorem number_le_of_stream? (hc : h.Coherent) {st : Stream α} (hs : h.stream? s = some st) :
    s.id.number ≤ h.made := by
  obtain ⟨f, hf, hst⟩ := Option.bind_eq_some_iff.1 hs
  exact hc.ids_le s.feed f hf s.id (Feed.mem_ids_iff.2 ⟨st, hst⟩)

theorem Lasts.number_le (hs : h.Lasts name s) (hc : h.Coherent) : s.id.number ≤ h.made := by
  obtain ⟨st, hst, -, -⟩ := hs.delivered
  exact number_le_of_stream? hc hst

/-- On a subscription that is not made yet nothing is waiting. -/
theorem unreadItems_of_made_lt (hc : h.Coherent) (hs : h.made < s.id.number) :
    h.unreadItems s = [] := by
  refine unreadItems_of_none (Option.eq_none_iff_forall_ne_some.2 fun st hst => ?_)
  exact absurd (number_le_of_stream? hc hst) (Nat.not_le.2 hs)

end Hub

theorem Inbox.toList_put_of_empty {α : Type} {i : Inbox α} (hi : i.unread.toList = []) (x : α) :
    (i.put x).unread.toList = [x] := by
  rw [put]
  split <;> simp [hi]

namespace Monitor

variable {ids : List WorkloadId} {hub hub' hub'' : Hub Sample} {p p' p'' : Printers}

/-! ## Printers and their subscriptions -/

/-- The printers that have subscribed are those of the first of these workloads, and each
    holds a subscription of its own. -/
structure Served (ids : List WorkloadId) (hub : Hub Sample) (p : Printers) : Prop where
  coherent : hub.Coherent
  regular : hub.Regular
  entries : p.subscribed.map (·.1) ++ p.waiting = ids
  distinct : (p.subscribed.map (·.2)).Nodup
  lasts : ∀ e ∈ p.subscribed, hub.Lasts e.1 e.2

/-- From one point to a later one, printers have subscribed, with new subscriptions. -/
structure Joined (hub : Hub Sample) (p : Printers) (hub' : Hub Sample) (p' : Printers) : Prop where
  made : hub.made ≤ hub'.made
  subscribed : ∃ more, p'.subscribed = p.subscribed ++ more ∧ ∀ e ∈ more, hub.made < e.2.id.number

theorem Joined.refl (hub : Hub Sample) (p : Printers) : Joined hub p hub p :=
  ⟨le_rfl, [], (List.append_nil _).symm, nofun⟩

theorem Joined.trans (h : Joined hub p hub' p') (h' : Joined hub' p' hub'' p'') :
    Joined hub p hub'' p'' := by
  obtain ⟨more, hmore, hnew⟩ := h.subscribed
  obtain ⟨more', hmore', hnew'⟩ := h'.subscribed
  refine ⟨h.made.trans h'.made, more ++ more', by rw [hmore', hmore, List.append_assoc],
    fun e he => ?_⟩
  exact (List.mem_append.1 he).elim (hnew e) fun he => h.made.trans_lt (hnew' e he)

theorem Joined.mem (h : Joined hub p hub' p') {e : WorkloadId × Subscription}
    (he : e ∈ p.subscribed) : e ∈ p'.subscribed := by
  obtain ⟨more, hmore, -⟩ := h.subscribed
  rw [hmore]
  exact List.mem_append_left more he

theorem Served.play (h : Served ids hub p) {actions : List (Hub.Action Sample)}
    (ha : ∀ a ∈ actions, a.keepsReaders) : Served ids (hub.play actions) p where
  coherent := h.coherent.play actions
  regular := h.regular.play_of_keepsReaders h.coherent ha
  entries := h.entries
  distinct := h.distinct
  lasts e he := (h.lasts e he).play_of_keepsReaders h.coherent ha

theorem Served.act (h : Served ids hub p) {a : Hub.Action Sample} (ha : a.keepsReaders) :
    Served ids (hub.act a) p :=
  h.play (List.forall_mem_singleton.2 ha)

/-- **One more printer** subscribes. -/
theorem Served.join (h : Served ids hub p) {name : WorkloadId} {waiting : List WorkloadId}
    (hw : p.waiting = name :: waiting) :
    let s := (hub.subscribe name).1
    let p' : Printers := { waiting, subscribed := p.subscribed ++ [(name, s)] }
    Served ids (hub.subscribe name).2 p' ∧ Joined hub p (hub.subscribe name).2 p' := by
  intro s p'
  have hnumber : s.id.number = hub.made + 1 := by rw [show s = _ from hub.subscribe_fst name]; rfl
  have hold := h.act (a := .subscribe name) rfl
  refine ⟨⟨hold.coherent, hold.regular, ?_, ?_, fun e he => ?_⟩, ?_, [(name, s)], rfl, ?_⟩
  · rw [← h.entries, hw]
    simp [p']
  · rw [List.map_append, List.map_singleton]
    refine List.nodup_append.2 ⟨h.distinct, List.nodup_singleton s, ?_⟩
    rintro t ht _ hs rfl
    obtain ⟨e, he, rfl⟩ := List.mem_map.1 ht
    have hle := (h.lasts e he).number_le h.coherent
    have hself : e.2 = s := List.mem_singleton.1 hs
    rw [hself] at hle
    omega
  · rcases List.mem_append.1 he with he | he
    · exact hold.lasts e he
    · rw [List.mem_singleton.1 he]
      exact Hub.lasts_subscribe h.coherent h.regular name
  · rw [Hub.made_subscribe]
    exact Nat.le_succ _
  · refine List.forall_mem_singleton.2 ?_
    rw [hnumber]
    exact Nat.lt_succ_self hub.made

theorem run_subscribing {α : Type} (answer : Printers → α) (count : Nat) (p : Printers)
    (hub : Hub Sample) :
    (p.subscribing answer count).run hub =
      (answer ((p.subscribing id count).run hub).1, ((p.subscribing id count).run hub).2) := by
  induction count generalizing p hub with
  | zero => rfl
  | succ count ih =>
    rw [Printers.subscribing, Printers.subscribing]
    cases p.waiting with
    | nil => rfl
    | cons name waiting => exact ih _ _

/-- **The next printers** subscribe. -/
theorem Served.subscribing (h : Served ids hub p) (count : Nat) :
    let after := (p.subscribing id count).run hub
    Served ids after.2 after.1 ∧ Joined hub p after.2 after.1 ∧
      after.1.waiting = p.waiting.drop count := by
  induction count generalizing hub p with
  | zero => exact ⟨h, .refl hub p, rfl⟩
  | succ count ih =>
    rw [Printers.subscribing]
    cases hw : p.waiting with
    | nil => exact ⟨h, .refl hub p, hw⟩
    | cons name waiting =>
      obtain ⟨hone, hjoin⟩ := h.join hw
      obtain ⟨hall, hjoins, hrest⟩ := ih hone
      exact ⟨hall, hjoin.trans hjoins, hrest⟩

end Monitor

/-! ## A round -/

namespace Course

/-- What is said about a workload. -/
def told (c : Course) (a : Answers) (name : WorkloadId) : Told :=
  ⟨a.stats name, (a.sandbox name).map fun s => (s, (a.interfaces s).map (c.listed name))⟩

/-- What a round publishes of a workload. -/
def published (c : Course) (a : Answers) (name : WorkloadId) : List Sample :=
  match a.hostUsage with
  | .value usage => ((c.told a name).sample? usage name).toList
  | .failure _ | .crash _ => []

variable {c : Course} {a : Answers} {hub : Hub Sample}

theorem published_of_no_usage {name : WorkloadId} (hn : ∀ usage, a.hostUsage ≠ .value usage) :
    c.published a name = [] := by
  rw [published]
  split
  · exact absurd ‹_› (hn _)
  · rfl
  · rfl

theorem hostAnswer_sources (c : Course) (a : Answers) (asked : Asked) (hub : Hub Sample) :
    Round.hostAnswer (c.sources a) asked hub = a.hostUsage := by
  rw [Round.hostAnswer, sources, Monitor.run_subscribing]

theorem told_sources (r : Round Asked) (name : WorkloadId) :
    r.told (c.sources a) name = c.told a name := by
  rw [Round.told, Round.ask, sources, Monitor.run_subscribing]
  rfl

end Course

namespace Monitor

variable {ids : List WorkloadId} {hub : Hub Sample} {p : Printers} {c : Course} {a : Answers}

/-- The printers hold their subscriptions, and nothing is waiting on them. -/
structure Ready (ids : List WorkloadId) (hub : Hub Sample) (p : Printers) : Prop where
  served : Served ids hub p
  nothing : ∀ e ∈ p.subscribed, hub.unreadItems e.2 = []

/-- The answers of a round keep the printers served. -/
theorem kept_sources (c : Course) (a : Answers) (ids : List WorkloadId) (hub : Hub Sample)
    (p : Printers) :
    Round.Kept (c.sources a) fun asked hub' =>
      Served ids hub' asked.printers ∧ Joined hub p hub' asked.printers where
  hostUsage := by
    rintro asked hub' ⟨hserved, hjoined⟩
    obtain ⟨hafter, hmore, -⟩ := hserved.subscribing c.amidHost
    rw [Course.sources, run_subscribing]
    exact ⟨hafter, hjoined.trans hmore⟩
  stats name := by
    rintro asked hub' ⟨hserved, hjoined⟩
    obtain ⟨hafter, hmore, -⟩ := hserved.subscribing (c.amid name)
    rw [Course.sources, run_subscribing]
    exact ⟨hafter, hjoined.trans hmore⟩
  act := by
    rintro task action asked hub' hserves ⟨hserved, hjoined⟩
    exact ⟨hserved.act (Hub.Action.keepsReaders_of_serves hserves),
      hjoined.made.trans (Hub.made_le_act hub' action), hjoined.subscribed⟩

section
variable {asked : Asked} {usage : UInt64} {e : WorkloadId × Subscription}

theorem unreadItems_of_inbox_eq {hub' : Hub Sample} {s : Subscription}
    (h : hub'.inbox s = hub.inbox s) : hub'.unreadItems s = hub.unreadItems s :=
  congrArg (·.unread.toList) h

/-- Who has subscribed before a round holds the subscription when its workload is measured. -/
theorem Served.held_when_asked (h : Served ids hub asked.printers)
    (he : e ∈ asked.printers.subscribed) (usage : UInt64) (before : List Move) :
    let r := (Round.begun (c.sources a) asked hub).play (c.sources a) usage before
    (r.ask (c.sources a) e.1).2.contains e.2.feed e.2.id ∧
      (r.ask (c.sources a) e.1).2.holds e.2 := by
  intro r
  have hkept := kept_sources c a ids hub asked.printers
  have hbegun := hkept.begun asked hub ⟨h, .refl hub asked.printers⟩
  obtain ⟨hserved, hjoined⟩ := hkept.ask (hkept.play hbegun before) e.1
  have hheld := hserved.lasts e (hjoined.mem he)
  exact ⟨hheld.contains, hheld.holds⟩

/-- A printer whose feed is registered when the round starts gets what is published of its
    workload, or subscribes too late for it. -/
theorem Served.unread_of_registered (h : Served ids hub asked.printers)
    (hv : a.hostUsage = .value usage) (hread : hub.unreadItems e.2 = [])
    (hreg : hub.registered e.1 = some e.2.feed) :
    (c.round a asked hub).hub.unreadItems e.2 = c.published a e.1 ∨
      e ∉ asked.printers.subscribed ∧ (c.round a asked hub).hub.unreadItems e.2 = [] := by
  have hanswer := (c.hostAnswer_sources a asked hub).trans hv
  obtain ⟨before, rest, -, -, hfinal⟩ :=
    Round.inbox_runWith_of_registered c.order h.coherent hanswer hreg
  have hinbox : (c.round a asked hub).hub.inbox e.2 = _ := hfinal e.2.id
  rw [Round.sample?_eq_told, Course.told_sources] at hinbox
  rw [Course.published, hv]
  simp only
  cases hsample : (c.told a e.1).sample? usage e.1 with
  | none =>
    rw [hsample] at hinbox
    exact .inl ((unreadItems_of_inbox_eq hinbox).trans hread)
  | some x =>
    rw [hsample] at hinbox
    simp only at hinbox
    split at hinbox
    · refine .inl ?_
      rw [Hub.unreadItems, hinbox]
      exact Inbox.toList_put_of_empty hread x
    · rename_i hlate
      exact .inr ⟨fun he => hlate (h.held_when_asked he usage before),
        (unreadItems_of_inbox_eq hinbox).trans hread⟩

/-- Through any other feed a printer gets nothing. -/
theorem Served.inbox_of_unregistered (h : Served ids hub asked.printers)
    (hv : a.hostUsage = .value usage) (hlasts : (c.round a asked hub).hub.Lasts e.1 e.2)
    (hreg : hub.registered e.1 ≠ some e.2.feed) :
    (c.round a asked hub).hub.inbox e.2 = hub.inbox e.2 := by
  have hanswer := (c.hostAnswer_sources a asked hub).trans hv
  refine Round.inbox_runWith_of_unregistered h.coherent hanswer fun other ho => hreg ?_
  -- a feed is registered with one workload at most, in all its time
  have hlater := hlasts.registered
  rw [Course.round, ← Round.play_roundHistory] at hlater
  rw [h.coherent.eq_of_registered_play ho hlater]
  exact ho

/-- What is waiting for a printer after a round. -/
theorem Served.unreadItems_round (h : Served ids hub asked.printers)
    (hread : hub.unreadItems e.2 = []) (hlasts : (c.round a asked hub).hub.Lasts e.1 e.2) :
    (c.round a asked hub).hub.unreadItems e.2 = c.published a e.1 ∨
      e ∉ asked.printers.subscribed ∧ (c.round a asked hub).hub.unreadItems e.2 = [] := by
  by_cases hv : ∃ usage, a.hostUsage = .value usage
  · obtain ⟨usage, hv⟩ := hv
    by_cases hreg : hub.registered e.1 = some e.2.feed
    · exact h.unread_of_registered hv hread hreg
    · exact .inr ⟨fun he => hreg (h.lasts e he).registered,
        (unreadItems_of_inbox_eq (h.inbox_of_unregistered hv hlasts hreg)).trans hread⟩
  · have hsame : (c.round a asked hub).hub.inbox e.2 = hub.inbox e.2 :=
      Round.inbox_runWith_of_no_usage fun usage hu =>
        hv ⟨usage, (c.hostAnswer_sources a asked hub).symm.trans hu⟩
    have hnothing : c.published a e.1 = [] :=
      Course.published_of_no_usage fun usage hu => hv ⟨usage, hu⟩
    rw [hnothing, unreadItems_of_inbox_eq hsame]
    exact .inl hread

end

/-- **A round** leaves with each printer what it published of its workload; who subscribed
    in the course of it got this or nothing. -/
theorem Ready.round (asked : Asked) (h : Ready ids hub asked.printers) (c : Course)
    (a : Answers) :
    let round := c.round a asked hub
    let after := round.state.printers
    Served ids round.hub after ∧
      ∃ more, after.subscribed = asked.printers.subscribed ++ more ∧
        (∀ e ∈ asked.printers.subscribed, round.hub.unreadItems e.2 = c.published a e.1) ∧
        ∀ e ∈ more, round.hub.unreadItems e.2 = c.published a e.1 ∨
          round.hub.unreadItems e.2 = [] := by
  intro round after
  obtain ⟨hserved, hjoined⟩ :
      Served ids round.hub after ∧ Joined hub asked.printers round.hub after :=
    (kept_sources c a ids hub asked.printers).runWith ⟨h.served, .refl hub asked.printers⟩
      c.order.moves
  obtain ⟨more, hmore, hnew⟩ := hjoined.subscribed
  refine ⟨hserved, more, hmore, fun e he => ?_, fun e he => ?_⟩
  · have hlasts := hserved.lasts e (hjoined.mem he)
    exact (h.served.unreadItems_round (h.nothing e he) hlasts).resolve_right fun hn => hn.1 he
  · have hlasts := hserved.lasts e (by rw [hmore]; exact List.mem_append_right _ he)
    have hread := Hub.unreadItems_of_made_lt h.served.coherent (hnew e he)
    exact (h.served.unreadItems_round hread hlasts).imp_right And.right

/-! ## Printing -/

theorem printAll_cons (hub : Hub Sample) (s : Subscription) (rest : List Subscription) :
    (printAll hub (s :: rest)).1 =
        (hub.receiveAll s).1.items ++ (printAll (hub.receiveAll s).2 rest).1 ∧
      (printAll hub (s :: rest)).2.2 = (printAll (hub.receiveAll s).2 rest).2.2 := ⟨rfl, rfl⟩

/-- The printers print what is unread, one after the other, and take nothing from each
    other. -/
theorem printAll_eq {printers : List Subscription} (hub : Hub Sample) (hd : printers.Nodup) :
    (printAll hub printers).1 = printers.flatMap hub.unreadItems ∧
      (∃ actions, (∀ a ∈ actions, a.keepsReaders) ∧
        (printAll hub printers).2.2 = hub.play actions) ∧
      ∀ t, (printAll hub printers).2.2.unreadItems t =
        if t ∈ printers then [] else hub.unreadItems t := by
  induction printers generalizing hub with
  | nil => exact ⟨rfl, ⟨[], nofun, rfl⟩, fun t => (if_neg List.not_mem_nil).symm⟩
  | cons s rest ih =>
    obtain ⟨hs, hrest⟩ := List.nodup_cons.1 hd
    obtain ⟨hitems, n, hplay, hunread⟩ := hub.receiveAll_eq s
    obtain ⟨hprinted, ⟨actions, hkeeps, hlater⟩, hread⟩ := ih (hub.receiveAll s).2 hrest
    obtain ⟨hfirst, hlast⟩ := printAll_cons hub s rest
    rw [hfirst, hlast]
    refine ⟨?_, ⟨List.replicate n (.receive s) ++ actions, ?_, ?_⟩, fun t => ?_⟩
    · have hothers : rest.flatMap (hub.receiveAll s).2.unreadItems = rest.flatMap hub.unreadItems :=
        List.flatMap_congr fun t ht => by
          rw [hunread, if_neg fun he : t = s => hs (he ▸ ht)]
      rw [hitems, hprinted, hothers, List.flatMap_cons]
    · intro a ha
      rcases List.mem_append.1 ha with ha | ha
      · rw [List.eq_of_mem_replicate ha]; rfl
      · exact hkeeps a ha
    · rw [hlater, hplay, Hub.play_append]
    · rw [hread, hunread]
      by_cases ht : t = s
      · simp [ht]
      · simp [ht]

/-- **The printers** print what is waiting, and nothing is waiting then. -/
theorem Served.print (h : Served ids hub p) :
    (printAll hub (p.subscribed.map (·.2))).1 = p.subscribed.flatMap (hub.unreadItems ·.2) ∧
      Ready ids (printAll hub (p.subscribed.map (·.2))).2.2 p := by
  obtain ⟨hprinted, ⟨actions, hkeeps, hplay⟩, hread⟩ := printAll_eq hub h.distinct
  refine ⟨by rw [hprinted, List.flatMap_map], ?_, fun e he => ?_⟩
  · rw [hplay]
    exact h.play hkeeps
  · rw [hread, if_pos (List.mem_map_of_mem he)]

/-- What some give in full, and others in full or not at all. -/
theorem exists_sublist_flatMap_eq {β γ : Type} {f g : β → List γ} {l : List β}
    (h : ∀ e ∈ l, f e = g e ∨ f e = []) :
    ∃ part : List β, part.Sublist l ∧ l.flatMap f = part.flatMap g := by
  induction l with
  | nil => exact ⟨[], .slnil, rfl⟩
  | cons e l ih =>
    obtain ⟨part, hsub, heq⟩ := ih fun b hb => h b (by simp [hb])
    rw [List.flatMap_cons, heq]
    rcases h e (by simp) with he | he
    · exact ⟨e :: part, hsub.cons_cons e, by rw [he, List.flatMap_cons]⟩
    · exact ⟨part, hsub.cons e, by rw [he, List.nil_append]⟩

/-! ## The steps of the program -/

variable {m : Monitor} {files : Files}

/-- The workloads of the printers that have subscribed. -/
def joined (m : Monitor) : List WorkloadId := m.printers.subscribed.map (·.1)

theorem Ready.subscribe (h : Ready ids m.hub m.printers) (count : Nat) :
    Ready ids (m.subscribe count).hub (m.subscribe count).printers ∧
      m.joined <+: (m.subscribe count).joined ∧
      (m.subscribe count).printers.waiting = m.printers.waiting.drop count := by
  obtain ⟨hserved, hjoined, hwaiting⟩ := h.served.subscribing count
  obtain ⟨more, hmore, hnew⟩ := hjoined.subscribed
  have hsame : ∀ s, (m.subscribe count).hub.unreadItems s = m.hub.unreadItems s := fun s =>
    unreadItems_of_inbox_eq (Round.inbox_inquiry (m.printers.subscribing id count) m.hub s)
  refine ⟨⟨hserved, fun e he => ?_⟩, ?_, hwaiting⟩
  · rw [hsame]
    replace he : e ∈ m.printers.subscribed ++ more := hmore ▸ he
    rcases List.mem_append.1 he with he | he
    · exact h.nothing e he
    · exact Hub.unreadItems_of_made_lt h.served.coherent (hnew e he)
  · exact ⟨more.map (·.1), by rw [joined, ← List.map_append, ← hmore]; rfl⟩

/-- **A round of the program** prints what it publishes of the workloads of the printers that
    have subscribed before it, and of some of those that subscribe in the course of it. -/
theorem Ready.tick (h : Ready ids m.hub m.printers) (files : Files) (c : Course) :
    let after := (m.tick files c).monitor
    Ready ids after.hub after.printers ∧
      ∃ told, m.joined <+: told ∧ told.Sublist after.joined ∧ m.joined <+: after.joined ∧
        (m.tick files c).printed = told.flatMap (c.published (m.answers files)) := by
  intro after
  obtain ⟨hserved, more, hmore, hearly, hlate⟩ :=
    Ready.round { printers := m.printers } h c (m.answers files)
  obtain ⟨hprinted, hready⟩ := hserved.print
  obtain ⟨part, hpart, heq⟩ := exists_sublist_flatMap_eq hlate
  have hafter : after.joined = m.joined ++ more.map (·.1) := by
    rw [joined, joined, ← List.map_append, ← hmore]
    rfl
  refine ⟨hready, m.joined ++ part.map (·.1), List.prefix_append .., ?_, ?_, ?_⟩
  · rw [hafter]
    exact (hpart.map _).append_left _
  · rw [hafter]
    exact List.prefix_append ..
  · refine hprinted.trans ?_
    rw [hmore, List.flatMap_append, List.flatMap_congr hearly, heq, joined, List.flatMap_append,
      List.flatMap_map, List.flatMap_map]

theorem play_append (m : Monitor) (files : Files) (xs ys : List Step) :
    m.play files (xs ++ ys) =
      ((m.play files xs).1 ++ ((m.play files xs).2.play files ys).1,
        ((m.play files xs).2.play files ys).2) := by
  induction xs generalizing m with
  | nil => rfl
  | cons step xs ih =>
    cases step with
    | subscribe count => exact ih _
    | round course =>
      rw [List.cons_append, play, ih]
      rfl

/-- **After any steps** of the program its printers are ready, and what it asks is the same. -/
theorem Ready.play (h : Ready ids m.hub m.printers) (steps : List Step) :
    let after := (m.play files steps).2
    Ready ids after.hub after.printers ∧ after.answers files = m.answers files := by
  induction steps generalizing m with
  | nil => exact ⟨h, rfl⟩
  | cons step steps ih =>
    cases step with
    | subscribe count => exact ih (h.subscribe count).1
    | round course => exact ih (h.tick files course).1

end Monitor

end Workmeter
