/-
  Workmeter — the order of the steps of a round.

  The workloads of a round are measured side by side.  If the answers are given at
  once and depend on nothing but the question, it does not matter in which order the
  questions, the publications and the releases of different workloads come: what a
  workload finds and leaves is what it would if it were alone.

  * `Answers.found`: what is found out about a workload before anything is published;
  * `Part`, `Round.part`: the steps of a round, with a measurement taken apart into
    questions and publication (`play_eq_playParts`);
  * `Round.change`: what a part does to the hub and what it notes; it depends on its
    own workload and feed alone (`change_congr`);
  * `log_filter`, `agree_playParts`: the parts of the other workloads might as well not
    have been there;
  * `Schedule`, `Alike`, `alike_of_schedules`: two orders of the parts come to the same;
  * `order_does_not_matter`: two rounds that differ in the order of their steps.
-/
import Workmeter.Proofs.Round.Locality

namespace Workmeter

/-! ## The parts of a round -/

/-- What is found out about a workload: what was asked and reported, and the sample,
    or else how the measurement went. -/
structure Found where
  calls : List Call
  events : List Event := []
  outcome : Except Measured Sample

/-- What is found out about a workload from the answers. -/
def Answers.found (a : Answers) (usage : UInt64) (id : WorkloadId) : Found :=
  match a.stats id with
  | .crash text => { calls := [.stats id], outcome := .error (.crashed text) }
  | .failure (.notRunning _) => { calls := [.stats id], outcome := .error .unavailable }
  | .failure cause =>
    { calls := [.stats id], events := [.statsFailed id cause], outcome := .error .unavailable }
  | .value stats =>
    match a.sandbox id with
    | none => { calls := [.stats id], outcome := .ok ⟨id, stats, usage, []⟩ }
    | some sandbox =>
      let calls := [.stats id, .interfaces sandbox]
      match a.interfaces sandbox with
      | .value interfaces => { calls, outcome := .ok ⟨id, stats, usage, interfaces⟩ }
      | .failure cause =>
        { calls, events := [.interfacesFailed id cause], outcome := .ok ⟨id, stats, usage, []⟩ }
      | .crash text => { calls, outcome := .error (.crashed text) }

/-- A part of a round. -/
inductive Part where
  /-- The questions about a workload are put. -/
  | ask (task : Task)
  /-- Its sample is published, if there is one. -/
  | deliver (task : Task)
  | settle (task : Task)
  deriving DecidableEq

/-- The workload and the feed that a part is about. -/
def Part.task : Part → Task
  | ask task | deliver task | settle task => task

/-- The parts of a step. -/
def Move.parts : Move → List Part
  | measure task => [.ask task, .deliver task]
  | settle task => [.settle task]

/-- What a part does to the hub, and what it notes. -/
structure Change where
  actions : List (Hub.Action Sample) := []
  calls : List Call := []
  events : List Event := []
  results : List (WorkloadId × Measured) := []

namespace Round

variable {a : Answers} {usage : UInt64} {r r' : Round Unit} {task : Task} {p : Part}

/-- Takes one part. -/
def part (a : Answers) (usage : UInt64) (r : Round Unit) : Part → Round Unit
  | .ask (id, _) =>
    { r with calls := r.calls ++ (a.found usage id).calls
             events := r.events ++ (a.found usage id).events }
  | .deliver (id, k) =>
    match (a.found usage id).outcome with
    | .ok sample => r.deliver k sample
    | .error m => r.result id m
  | .settle task => r.settle task

/-- Takes the parts in order. -/
def playParts (a : Answers) (usage : UInt64) (r : Round Unit) (parts : List Part) : Round Unit :=
  parts.foldl (part a usage) r

/-- What a part comes to. -/
def change (a : Answers) (usage : UInt64) (r : Round Unit) : Part → Change
  | .ask (id, _) => { calls := (a.found usage id).calls, events := (a.found usage id).events }
  | .deliver (id, k) =>
    match (a.found usage id).outcome with
    | .ok sample =>
      let delivery := (r.hub.publish k sample).1
      { actions := [.publish k sample], events := delivery.pruned.map .pruned
        results := [(id, .published delivery.delivered)] }
    | .error m => { results := [(id, m)] }
  | .settle (id, k) =>
    match r.results.lookup id with
    | some (.published 0) =>
      { actions := [.release id k]
        events := if (r.hub.releaseIfIdle id k).1 then [.released id] else [] }
    | some (.crashed text) => { events := [.measureCrashed text] }
    | _ => {}

/-- Makes a change. -/
def apply (r : Round Unit) (c : Change) : Round Unit :=
  { r with hub := r.hub.play c.actions, calls := r.calls ++ c.calls
           events := r.events ++ c.events, results := r.results ++ c.results }

theorem workload_of_found {id : WorkloadId} {sample : Sample}
    (hf : (a.found usage id).outcome = .ok sample) : sample.workload = id := by
  unfold Answers.found at hf
  split at hf
  · cases hf
  · cases hf
  · cases hf
  · split at hf
    · cases hf; rfl
    · dsimp only at hf
      split at hf
      · cases hf; rfl
      · cases hf; rfl
      · cases hf

/-- **A measurement** is the questions, and then the publication. -/
theorem measure_eq_parts (r : Round Unit) (task : Task) :
    r.measure a.sources usage task = (r.part a usage (.ask task)).part a usage (.deliver task) := by
  obtain ⟨id, k⟩ := task
  simp only [measure, Answers.sources, Inquiry.run, part, Answers.found]
  cases a.stats id with
  | crash text => simp [result, call]
  | failure cause => cases cause <;> simp [result, report, call]
  | value stats =>
    cases a.sandbox id with
    | none => simp [deliver, result, call]
    | some sandbox =>
      cases hi : a.interfaces sandbox <;> simp [deliver, result, report, call, hi]

theorem play_eq_playParts (r : Round Unit) (moves : List Move) :
    r.play a.sources usage moves = r.playParts a usage (moves.flatMap Move.parts) := by
  induction moves generalizing r with
  | nil => rfl
  | cons m moves ih =>
    rw [List.flatMap_cons, playParts, List.foldl_append]
    refine (ih (r.step a.sources usage m)).trans ?_
    cases m with
    | measure task => rw [step, measure_eq_parts]; rfl
    | settle task => rfl

/-- A part makes its change. -/
theorem part_eq_apply (r : Round Unit) (p : Part) :
    r.part a usage p = r.apply (r.change a usage p) := by
  cases p with
  | ask task => simp [part, change, apply]
  | deliver task =>
    obtain ⟨id, k⟩ := task
    simp only [part, change]
    cases hf : (a.found usage id).outcome with
    | ok sample => simp [deliver, result, apply, Hub.act, workload_of_found hf]
    | error m => simp [result, apply]
  | settle task =>
    obtain ⟨id, k⟩ := task
    simp only [part, settle, change]
    cases r.results.lookup id with
    | none => simp [apply]
    | some m =>
      cases m with
      | published n =>
        cases n with
        | zero => cases (r.hub.releaseIfIdle id k).1 <;> simp [apply, report, Hub.act]
        | succ n => simp [apply]
      | unavailable => simp [apply]
      | crashed text => simp [apply, report]

/-! ## One workload -/

theorem serves_of_mem_change {x : Hub.Action Sample} (hx : x ∈ (r.change a usage p).actions) :
    x.serves p.task := by
  cases p with
  | ask task => cases hx
  | deliver task =>
    simp only [change] at hx
    split at hx
    · rw [List.mem_singleton.1 hx]; exact decide_eq_true rfl
    · cases hx
  | settle task =>
    simp only [change] at hx
    split at hx
    · rw [List.mem_singleton.1 hx]; exact decide_eq_true rfl
    · cases hx
    · cases hx

theorem name_of_mem_change {x : WorkloadId × Measured} (hx : x ∈ (r.change a usage p).results) :
    x.1 = p.task.1 := by
  cases p with
  | ask task => cases hx
  | deliver task =>
    simp only [change] at hx
    split at hx <;> rw [List.mem_singleton.1 hx] <;> rfl
  | settle task =>
    simp only [change] at hx
    split at hx <;> cases hx

/-- The parts of another workload make no difference. -/
theorem agree_part_of_apart (r : Round Unit) (hap : Apart task p.task) :
    Agree task (r.part a usage p) r := by
  rw [part_eq_apply]
  exact agree_of_serves hap (fun x => serves_of_mem_change) rfl rfl fun x => name_of_mem_change

/-- **What a part comes to** depends on its own workload and feed alone. -/
theorem change_congr (h : Agree p.task r r') : r.change a usage p = r'.change a usage p := by
  cases p with
  | ask task => rfl
  | deliver task =>
    have hfeed : r.hub.feed? task.2 = r'.hub.feed? task.2 := h.feed
    simp only [change, Hub.publish_fst_congr hfeed]
  | settle task =>
    have hrelease : (r.hub.releaseIfIdle task.1 task.2).1 = (r'.hub.releaseIfIdle task.1 task.2).1 := by
      have hreg : r.hub.registered task.1 = r'.hub.registered task.1 := h.registered
      have hidle : r.hub.isIdle task.2 = r'.hub.isIdle task.2 := h.isIdle
      unfold Hub.releaseIfIdle
      rw [hreg, hidle]
      split <;> rfl
    have hresult : r.results.lookup task.1 = r'.results.lookup task.1 := h.result
    simp only [change, hresult, hrelease]

theorem Agree.part (h : Agree p.task r r') :
    Agree p.task (r.part a usage p) (r'.part a usage p) := by
  rw [part_eq_apply, part_eq_apply, change_congr h]
  have hserves : ∀ x ∈ (r'.change a usage p).actions, x.serves p.task :=
    fun x => serves_of_mem_change
  obtain ⟨hr, hf⟩ := Hub.play_congr_of_serves hserves h.registered h.feed
  refine ⟨hr, hf, ?_⟩
  simp only [apply, List.lookup_append, h.result]

/-- What the parts come to, each with the workload and the feed that it is about. -/
def log (a : Answers) (usage : UInt64) : Round Unit → List Part → List (Task × Change)
  | _, [] => []
  | r, p :: parts => (p.task, r.change a usage p) :: log a usage (r.part a usage p) parts

/-- **The parts of the other workloads** might as well not have been there. -/
theorem agree_playParts (h : Agree task r r') {parts : List Part}
    (hap : ∀ p ∈ parts, p.task ≠ task → Apart task p.task) :
    Agree task (r.playParts a usage parts)
        (r'.playParts a usage (parts.filter (·.task = task))) ∧
      (r.log a usage parts).filter (·.1 = task) =
        r'.log a usage (parts.filter (·.task = task)) := by
  induction parts generalizing r r' with
  | nil => exact ⟨h, rfl⟩
  | cons p parts ih =>
    have hrest : ∀ q ∈ parts, q.task ≠ task → Apart task q.task :=
      fun q hq => hap q (List.mem_cons_of_mem _ hq)
    by_cases hp : p.task = task
    · subst hp
      obtain ⟨hagree, hlog⟩ := ih h.part hrest
      rw [List.filter_cons_of_pos (by simp), log, List.filter_cons_of_pos (by simp), log, hlog,
        change_congr h]
      exact ⟨hagree, rfl⟩
    · have hpart : Agree task (r.part a usage p) r' :=
        (agree_part_of_apart r (hap p (by simp) hp)).trans h
      obtain ⟨hagree, hlog⟩ := ih hpart hrest
      rw [List.filter_cons_of_neg (by simpa using hp), log,
        List.filter_cons_of_neg (by simpa using hp)]
      exact ⟨hagree, hlog⟩

/-! ## All workloads -/

theorem playParts_eq (r : Round Unit) (parts : List Part) :
    r.playParts a usage parts =
      r.apply { actions := (r.log a usage parts).flatMap (·.2.actions)
                calls := (r.log a usage parts).flatMap (·.2.calls)
                events := (r.log a usage parts).flatMap (·.2.events)
                results := (r.log a usage parts).flatMap (·.2.results) } := by
  induction parts generalizing r with
  | nil => simp [playParts, log, apply]
  | cons p parts ih =>
    refine (ih (r.part a usage p)).trans ?_
    rw [log, part_eq_apply]
    simp [apply]

theorem serves_of_mem_log {parts : List Part} {e : Task × Change} (he : e ∈ r.log a usage parts) :
    (∃ p ∈ parts, p.task = e.1) ∧ ∀ x ∈ e.2.actions, x.serves e.1 := by
  induction parts generalizing r with
  | nil => cases he
  | cons p parts ih =>
    rcases List.mem_cons.1 he with rfl | he
    · exact ⟨⟨p, by simp, rfl⟩, fun x => serves_of_mem_change⟩
    · obtain ⟨⟨q, hq, hqt⟩, hx⟩ := ih he
      exact ⟨⟨q, List.mem_cons_of_mem _ hq, hqt⟩, hx⟩

/-- Two lists are permutations of each other if for every key they have the same
    entries in the same order. -/
theorem perm_of_filter_eq {κ β : Type} [DecidableEq κ] {l l' : List (κ × β)}
    (h : ∀ key, l.filter (·.1 = key) = l'.filter (·.1 = key)) : l.Perm l' := by
  classical
  refine List.perm_iff_count.2 fun e => ?_
  have hcount : ∀ l : List (κ × β), (l.filter (·.1 = e.1)).count e = l.count e :=
    fun l => List.count_filter (by simp)
  rw [← hcount l, ← hcount l', h]

/-- The parts of the workloads in an order in which they may come: a workload is asked
    about, its sample is published, and it is settled. -/
def Schedule (tasks : List Task) (parts : List Part) : Prop :=
  ∀ task, parts.filter (·.task = task) =
    if task ∈ tasks then [.ask task, .deliver task, .settle task] else []

theorem Schedule.task_mem {tasks : List Task} {parts : List Part} (hs : Schedule tasks parts)
    (hp : p ∈ parts) : p.task ∈ tasks := by
  by_contra ht
  have hfilter := hs p.task
  rw [if_neg ht] at hfilter
  exact List.filter_eq_nil_iff.1 hfilter p hp (by simp)

/-- It is enough to look at the workloads, and to see that there is no other. -/
theorem schedule_iff {tasks : List Task} {parts : List Part} :
    Schedule tasks parts ↔
      (∀ task ∈ tasks, parts.filter (·.task = task) = [.ask task, .deliver task, .settle task]) ∧
      ∀ p ∈ parts, p.task ∈ tasks := by
  constructor
  · intro hs
    exact ⟨fun task ht => (hs task).trans (if_pos ht), fun p hp => hs.task_mem hp⟩
  · rintro ⟨hown, hmem⟩ task
    split
    · rename_i ht; exact hown task ht
    · rename_i ht
      refine List.filter_eq_nil_iff.2 fun p hp hpt => ht ?_
      rw [← of_decide_eq_true hpt]; exact hmem p hp

instance (tasks : List Task) (parts : List Part) : Decidable (Schedule tasks parts) :=
  decidable_of_iff _ schedule_iff.symm

theorem filter_parts (moves : List Move) (task : Task) :
    (moves.flatMap Move.parts).filter (·.task = task) =
      (moves.filter (·.task = task)).flatMap Move.parts := by
  induction moves with
  | nil => rfl
  | cons m moves ih =>
    have hparts : ∀ q ∈ m.parts, q.task = m.task := by cases m <;> simp [Move.parts, Part.task]
    rw [List.flatMap_cons, List.filter_append, ih]
    by_cases hm : m.task = task
    · rw [List.filter_cons_of_pos (by simpa using hm), List.flatMap_cons,
        List.filter_eq_self.2 fun q hq => by simp [hparts q hq, hm]]
    · rw [List.filter_cons_of_neg (by simpa using hm),
        List.filter_eq_nil_iff.2 fun q hq => by simp [hparts q hq, hm], List.nil_append]

/-- The steps of a round in any order are such a schedule. -/
theorem Order.schedule (order : Order) {tasks : List Task} (hn : tasks.Nodup) :
    Schedule tasks ((order.moves tasks).flatMap Move.parts) := by
  intro task
  rw [filter_parts, order.filter_task hn]
  split <;> rfl

/-- The rounds came to the same, apart from the order of what was noted. -/
structure Alike (r r' : Round Unit) : Prop where
  hub : r.hub = r'.hub
  calls : r.calls.Perm r'.calls
  events : r.events.Perm r'.events
  results : r.results.Perm r'.results

theorem Alike.refl (r : Round Unit) : Alike r r := ⟨rfl, .rfl, .rfl, .rfl⟩

theorem Alike.report (h : Alike r r') (e : Event) : Alike (r.report e) (r'.report e) :=
  ⟨h.hub, h.calls, h.events.append_right [e], h.results⟩

section
variable {parts parts' : List Part}

/-- Each workload finds and leaves the same in both orders. -/
theorem agree_of_schedules (hc : r.hub.Coherent) (hs : Schedule r.hub.entries parts)
    (hs' : Schedule r.hub.entries parts') (ht : task ∈ r.hub.entries) :
    Agree task (r.playParts a usage parts) (r.playParts a usage parts') ∧
      (r.log a usage parts).filter (·.1 = task) = (r.log a usage parts').filter (·.1 = task) := by
  obtain ⟨hagree, hlog⟩ := agree_playParts (a := a) (.refl task r) fun p hp hne =>
    apart_of_ne hc ht (hs.task_mem hp) hne.symm
  obtain ⟨hagree', hlog'⟩ := agree_playParts (a := a) (.refl task r) fun p hp hne =>
    apart_of_ne hc ht (hs'.task_mem hp) hne.symm
  rw [hs task] at hagree hlog
  rw [hs' task] at hagree' hlog'
  exact ⟨hagree.trans hagree'.symm, hlog.trans hlog'.symm⟩

theorem log_perm (hc : r.hub.Coherent) (hs : Schedule r.hub.entries parts)
    (hs' : Schedule r.hub.entries parts') : (r.log a usage parts).Perm (r.log a usage parts') := by
  refine perm_of_filter_eq fun task => ?_
  by_cases ht : task ∈ r.hub.entries
  · exact (agree_of_schedules hc hs hs' ht).2
  · have hnone : ∀ {parts}, Schedule r.hub.entries parts →
        (r.log a usage parts).filter (·.1 = task) = [] := by
      intro parts hs
      refine List.filter_eq_nil_iff.2 fun e he hkey => ht ?_
      obtain ⟨⟨p, hp, hpt⟩, -⟩ := serves_of_mem_log he
      rw [← of_decide_eq_true hkey, ← hpt]
      exact hs.task_mem hp
    rw [hnone hs, hnone hs']

theorem within_playParts (r : Round Unit) (parts : List Part) :
    (r.playParts a usage parts).hub.Within r.hub := by
  rw [playParts_eq]
  refine Hub.within_play fun x hx => ?_
  obtain ⟨e, he, hx⟩ := List.mem_flatMap.1 hx
  exact ⟨e.1, (serves_of_mem_log he).2 x hx⟩

theorem feed?_playParts_of_ne {k : FeedId} (hk : ∀ p ∈ parts, k ≠ p.task.2) :
    (r.playParts a usage parts).hub.feed? k = r.hub.feed? k := by
  induction parts generalizing r with
  | nil => rfl
  | cons p parts ih =>
    refine (ih (r := r.part a usage p) fun q hq => hk q (by simp [hq])).trans ?_
    rw [part_eq_apply]
    exact Hub.feed?_play_of_serves (fun x => serves_of_mem_change) (hk p (by simp))

/-- **Two orders of the parts** come to the same. -/
theorem alike_of_schedules (hc : r.hub.Coherent) (hs : Schedule r.hub.entries parts)
    (hs' : Schedule r.hub.entries parts') :
    Alike (r.playParts a usage parts) (r.playParts a usage parts') := by
  have hlog : (r.log a usage parts).Perm (r.log a usage parts') := log_perm hc hs hs'
  have hnotes : ∀ {β : Type} (f : Change → List β),
      ((r.log a usage parts).flatMap (f ·.2)).Perm ((r.log a usage parts').flatMap (f ·.2)) :=
    fun f => hlog.flatMap_right _
  refine ⟨?_, ?_, ?_, ?_⟩
  · refine Hub.Within.ext hc.names_nodup (within_playParts r parts) (within_playParts r parts')
      (fun id k hid => ?_) fun k => ?_
    · have ht := (Hub.mem_entries_iff hc.names_nodup).2 hid
      exact (agree_of_schedules hc hs hs' ht).1.registered
    · by_cases hk : ∃ task ∈ r.hub.entries, task.2 = k
      · obtain ⟨task, ht, rfl⟩ := hk
        exact (agree_of_schedules hc hs hs' ht).1.feed
      · rw [feed?_playParts_of_ne fun p hp he => hk ⟨p.task, hs.task_mem hp, he.symm⟩,
          feed?_playParts_of_ne fun p hp he => hk ⟨p.task, hs'.task_mem hp, he.symm⟩]
  · rw [playParts_eq r parts, playParts_eq r parts']
    exact (hnotes (·.calls)).append_left _
  · rw [playParts_eq r parts, playParts_eq r parts']
    exact (hnotes (·.events)).append_left _
  · rw [playParts_eq r parts, playParts_eq r parts']
    exact (hnotes (·.results)).append_left _

end

/-! ## A whole round -/

/-- **The order of the steps does not matter** for the hub that a round leaves, for what it asks
    and for what it reports, be they mixed in any way. -/
theorem order_does_not_matter (buffer : Nat) (operations : List Operation) (answers : Answers) :
    let hub := Hub.after { buffer } operations
    let start := begun answers.sources () hub
    let round := fun order : Order => runWith order.moves answers.sources () hub
    (∀ order order' : Order, Alike (round order) (round order')) ∧
    ∀ usage, answers.hostUsage = .value usage → hub.entries ≠ [] →
      ∀ parts, Schedule hub.entries parts → ∀ order : Order,
        Alike (round order) ((start.playParts answers usage parts).report .roundTook) := by
  intro hub start round
  have hc : hub.Coherent := Hub.coherent_after buffer operations
  have hmixed : ∀ usage, answers.hostUsage = .value usage → hub.entries ≠ [] →
      ∀ parts, Schedule hub.entries parts → ∀ order : Order,
        Alike (round order) ((start.playParts answers usage parts).report .roundTook) := by
    intro usage hv hn parts hs order
    have htold : hostAnswer answers.sources () hub = .value usage := hv
    rw [show round order = _ from runWith_of_value hn htold, play_eq_playParts]
    exact (alike_of_schedules (r := start) hc (order.schedule hc.names_nodup.of_map) hs).report _
  refine ⟨fun order order' => ?_, hmixed⟩
  by_cases hn : hub.entries = []
  · rw [show round order = _ from runWith_of_nil hn, show round order' = _ from runWith_of_nil hn]
    exact .refl _
  · cases hv : answers.hostUsage with
    | value usage =>
      have htold : hostAnswer answers.sources () hub = .value usage := hv
      rw [show round order' = _ from runWith_of_value hn htold, play_eq_playParts]
      exact hmixed usage hv hn _ (order'.schedule hc.names_nodup.of_map) order
    | failure cause =>
      rw [show round order = _ from runWith_of_failure hn hv,
        show round order' = _ from runWith_of_failure hn hv]
      exact .refl _
    | crash text =>
      rw [show round order = _ from runWith_of_crash hn hv,
        show round order' = _ from runWith_of_crash hn hv]
      exact .refl _

/-- Nobody reads `db` any more: it is released before the sample of `web` is published, or both
    workloads are settled last. -/
theorem order_does_not_matter_of_mixed_round :
    let web : Task := (⟨"web", by decide, by decide⟩, ⟨0⟩)
    let db : Task := (⟨"db", by decide, by decide⟩, ⟨1⟩)
    let operations : List Operation :=
      [.act (.subscribe web.1), .act (.subscribe db.1), .act (.letGo ⟨⟨1⟩, ⟨2⟩⟩)]
    let answers : Answers :=
      { hostUsage := .value 7, stats := fun _ => .value {}
        sandbox := fun _ => none, interfaces := fun _ => .value [] }
    let hub := Hub.after {} operations
    let parts : List Part :=
      [.ask db, .ask web, .deliver db, .settle db, .deliver web, .settle web]
    let round := runWith Order.inTurn.moves answers.sources () hub
    let mixed :=
      ((begun answers.sources () hub).playParts answers 7 parts).report .roundTook
    answers.hostUsage = .value 7 ∧ hub.entries ≠ [] ∧ Schedule hub.entries parts ∧
      Alike round mixed ∧ mixed.hub.registered db.1 = none ∧
      round.calls = [.hostUsage, .stats web.1, .stats db.1] ∧
      mixed.calls = [.hostUsage, .stats db.1, .stats web.1] := by
  intro web db operations answers hub parts round mixed
  have hn : hub.entries ≠ [] := by decide
  have hs : Schedule hub.entries parts := by decide
  obtain ⟨-, hmixed⟩ := order_does_not_matter defaultBuffer operations answers
  have halike : Alike round mixed := hmixed 7 rfl hn parts hs .inTurn
  exact ⟨rfl, hn, hs, halike, by decide, by decide, by decide⟩

end Round

end Workmeter
