/-
  Workmeter — the registered feeds.

  As long as feeds are subscribed to and ended through the registrations of
  their workloads only, a registered feed is open, and a feed that is registered
  no more contains nothing.

  * `Action.ofRegistry`, `Action.isPublication`: what keeps the registrations in
    order;
  * `Hub.Regular`, `Regular.act`: the registered feeds are open, the others empty;
  * `idle_of_act`: a registered feed gets idle by a publication only, for an
    ended subscription releases its feed when it was the last one;
  * `Hub.Covered`, `Covered.play`: every registered feed that is idle is going to
    be released;
  * `Hub.Orderly`: what is promised of the registrations.
-/
import Workmeter.Proofs.Hub.Coherence

namespace Workmeter.Hub

variable {α : Type} {h : Hub α} {a : Action α} {id : WorkloadId} {k : FeedId} {t : SubscriptionId}

/-- What is done through the registration of a workload, or by a reader. -/
def Action.ofRegistry : Action α → Bool
  | .subscribe _ | .unsubscribe _ _ | .stop _ | .release _ _ | .letGo _ | .receive _ => true
  | .makeFeed _ | .attach _ | .publish _ _ | .evict _ _ | .close _ => false

/-- An item is published. -/
def Action.isPublication : Action α → Bool
  | .publish _ _ => true
  | _ => false

/-! ## Open feeds and empty ones -/

/-- The registered feeds are open, the others contain nothing. -/
structure Regular (h : Hub α) : Prop where
  opened : ∀ id k f, h.registered id = some k → h.feed? k = some f → f.closed = false
  left : ∀ k, (∀ id, h.registered id ≠ some k) → ∀ t, h.contains k t = false

theorem regular_empty (buffer : Nat) : Regular ({ buffer } : Hub α) where
  opened _ _ _ hr := by cases hr
  left k _ t := by simp [contains, feed?]

/-- A feed is closed by its own closing only. -/
theorem closed_of_onFeed {f : Feed α} (hcl : (f.play (a.onFeed h k)).closed) :
    f.closed ∨ a.target? h = some (k, .close) := by
  unfold Action.onFeed at hcl
  cases ht : a.target? h with
  | none => rw [ht] at hcl; exact Or.inl hcl
  | some p =>
    obtain ⟨l, b⟩ := p
    rw [ht] at hcl
    by_cases hl : l = k
    · subst hl
      simp only [if_pos] at hcl
      exact (Feed.closed_of_act hcl).imp id fun hb => by rw [hb]
    · simp only [if_neg hl] at hcl; exact Or.inl hcl

/-- Through the registrations a feed is closed when its workload is stopped. -/
theorem eq_stop_of_target? (ha : a.ofRegistry ∨ a.isPublication)
    (ht : a.target? h = some (k, .close)) : ∃ id, a = .stop id ∧ h.registered id = some k := by
  cases a with
  | stop id =>
    obtain ⟨l, hl, he⟩ := Option.map_eq_some_iff.1 ht
    exact ⟨id, rfl, by rw [hl, (Prod.mk.inj he).1]⟩
  | unsubscribe id s =>
    obtain ⟨l, -, he⟩ := Option.map_eq_some_iff.1 ht
    cases he
  | close => simp [Action.ofRegistry, Action.isPublication] at ha
  | subscribe | release | letGo | receive | makeFeed | attach | publish | evict =>
    simp [Action.target?] at ht

/-- Through the registrations a subscription is evicted when it is ended. -/
theorem eq_unsubscribe_of_target? (ha : a.ofRegistry ∨ a.isPublication)
    (ht : a.target? h = some (k, .evict t)) :
    ∃ id, a = .unsubscribe id t ∧ h.registered id = some k := by
  cases a with
  | unsubscribe id s =>
    obtain ⟨l, hl, he⟩ := Option.map_eq_some_iff.1 ht
    cases he
    exact ⟨id, rfl, hl⟩
  | stop id =>
    obtain ⟨l, -, he⟩ := Option.map_eq_some_iff.1 ht
    cases he
  | evict => simp [Action.ofRegistry, Action.isPublication] at ha
  | subscribe | release | letGo | receive | makeFeed | attach | publish | close =>
    simp [Action.target?] at ht

/-- Through the registrations a subscription is made at the feed that the
    workload is registered with then. -/
theorem registered_of_mem_made (ha : a.ofRegistry ∨ a.isPublication) (hm : t ∈ a.made h k) :
    ∃ id, (h.act a).registered id = some k := by
  obtain ⟨rfl, ht⟩ := mem_made_iff.1 hm
  cases a with
  | subscribe id =>
    refine ⟨id, ?_⟩
    rw [registered_subscribe, subscribe_fst]
    exact congrArg some (Prod.mk.inj (Option.some.inj ht)).1
  | unsubscribe id | stop id =>
    obtain ⟨l, -, he⟩ := Option.map_eq_some_iff.1 ht
    cases he
  | attach => simp [Action.ofRegistry, Action.isPublication] at ha
  | release | letGo | receive | makeFeed | publish | evict | close => simp [Action.target?] at ht

/-- **A feed whose workload is unregistered** contains nothing from then on. -/
theorem Coherent.contains_of_unregisters (hc : h.Coherent) (hr : h.registered id = some k)
    (hu : a.unregisters h id) : (h.act a).contains k t = false := by
  cases a with
  | unsubscribe other s =>
    simp only [Action.unregisters, Bool.and_eq_true, decide_eq_true_eq, hr, Option.any_some] at hu
    obtain ⟨rfl, hi⟩ := hu
    have hidle := ((hc.act (.evict k s)).isIdle_iff (k := k)).1 hi t
    simpa only [Hub.act, unsubscribe, hr, hi, if_true, contains_unregister] using hidle
  | stop other =>
    simp only [Action.unregisters, decide_eq_true_eq] at hu
    subst hu
    obtain ⟨f, hf⟩ := feed?_of_number_lt (hc.registered_lt other k hr)
    have hf' := feed?_act_of_some hf (.stop other)
    simp only [Action.onFeed, Action.target?, hr, Option.map_some, if_true] at hf'
    rw [contains, hf', Option.any_some]
    exact (hc.act (.stop other)).ended k _ hf' rfl t
  | release other l =>
    simp only [Action.unregisters, Bool.and_eq_true, decide_eq_true_eq, hr, Option.some.injEq] at hu
    obtain ⟨⟨rfl, rfl⟩, hi⟩ := hu
    have hidle := (hc.isIdle_iff (k := k)).1 hi t
    simpa only [Hub.act, releaseIfIdle, hr, hi, and_self, if_true, contains_unregister] using hidle
  | subscribe | letGo | receive | makeFeed | attach | publish | evict | close =>
    simp [Action.unregisters] at hu

/-- **Through the registrations, and by publications**, the registered feeds stay
    open and the others empty. -/
theorem Regular.act (hr : h.Regular) (hc : h.Coherent) (ha : a.ofRegistry ∨ a.isPublication) :
    (h.act a).Regular where
  opened id k f hid hf := by
    obtain ⟨g, hg, rfl⟩ := exists_feed?_of_act hf
    by_contra hcl
    rw [Bool.not_eq_false] at hcl
    rcases closed_of_onFeed hcl with hold | ht
    · rcases hg with hg | ⟨rfl, hg⟩
      · rcases registered_of_act hid with hid | ⟨-, -, rfl⟩
        · rw [hr.opened id k g hid hg] at hold; cases hold
        · rw [feed?_nextFeed] at hg; cases hg
      · obtain ⟨buffer, rfl⟩ := exists_buffer_of_newFeed? hg
        cases hold
    · -- the feed was closed when its workload was stopped
      obtain ⟨other, rfl, ho⟩ := eq_stop_of_target? ha ht
      rcases registered_of_act hid with hold | ⟨-, he, -⟩
      · obtain rfl := hc.registered_inj id other k hold ho
        simp [registered_act, Action.unregisters] at hid
      · cases he
  left k hk t := by
    by_contra hs
    rw [Bool.not_eq_false] at hs
    rcases contains_of_act hs with hold | hm
    · by_cases hreg : ∃ id, h.registered id = some k
      · obtain ⟨id, hid⟩ := hreg
        have hu : a.unregisters h id := by
          by_contra hu
          exact hk id (by rw [registered_act, if_neg hu, hid]; rfl)
        rw [hc.contains_of_unregisters hid hu] at hs; cases hs
      · rw [hr.left k (not_exists.1 hreg) t] at hold; cases hold
    · obtain ⟨id, hid⟩ := registered_of_mem_made ha hm
      exact hk id hid

theorem Regular.play (hr : h.Regular) (hc : h.Coherent) {actions : List (Action α)}
    (ha : ∀ a ∈ actions, a.ofRegistry ∨ a.isPublication) : (h.play actions).Regular := by
  induction actions generalizing h with
  | nil => exact hr
  | cons a actions ih =>
    exact ih (hr.act hc (ha a (by simp))) (hc.act a) fun b hb => ha b (by simp [hb])

/-! ## Idle feeds -/

theorem contains_act_of_not_publication (hp : a.isPublication = false) (hs : h.contains k t)
    (he : a.target? h ≠ some (k, .evict t)) (hc : a.target? h ≠ some (k, .close)) :
    (h.act a).contains k t := by
  obtain ⟨st, hst, hat⟩ := contains_iff.1 hs
  refine contains_iff.2 ⟨_, stream?_act_of_some hst a, attached_onStream hat he hc (Or.inr ?_)⟩
  intro x ht
  rw [target?_publish_iff.1 ht] at hp; cases hp

/-- **A registered feed does not get idle through the registrations**, and if it
    was idle, it was not just to be released. -/
theorem idle_of_act (hc : h.Coherent) (ha : a.ofRegistry) (hr : (h.act a).registered id = some k)
    (hi : (h.act a).isIdle k) : h.registered id = some k ∧ h.isIdle k ∧ a ≠ .release id k := by
  have hempty := ((hc.act a).isIdle_iff).1 hi
  rcases registered_of_act hr with hold | ⟨hn, rfl, rfl⟩
  · have hu : a.unregisters h id = false := by
      by_contra hu
      rw [registered_act, if_pos (by simpa using hu)] at hr; cases hr
    have hidle : h.isIdle k := by
      refine hc.isIdle_iff.2 fun t => ?_
      by_contra hs
      rw [Bool.not_eq_false] at hs
      have hp : a.isPublication = false := by cases a <;> first | rfl | cases ha
      have hlost : ¬ (h.act a).contains k t := by simp [hempty t]
      refine hlost (contains_act_of_not_publication hp hs (fun ht => ?_) fun ht => ?_)
      · -- it was the last one and was ended, so the workload is unregistered
        obtain ⟨other, rfl, ho⟩ := eq_unsubscribe_of_target? (Or.inl ha) ht
        obtain rfl := hc.registered_inj id other k hold ho
        have : (h.evict k t).isIdle k = false := by
          simpa [Action.unregisters, hold] using hu
        have hact : h.act (.unsubscribe id t) = h.evict k t := by
          simp [act, unsubscribe, hold, this]
        rw [hact, this] at hi; cases hi
      · obtain ⟨other, rfl, ho⟩ := eq_stop_of_target? (Or.inl ha) ht
        obtain rfl := hc.registered_inj id other k hold ho
        simp [Action.unregisters] at hu
    refine ⟨hold, hidle, ?_⟩
    rintro rfl
    simp [Action.unregisters, hold, hidle] at hu
  · obtain ⟨st, hst, hat, -⟩ := hc.stream?_subscribe id fun l f hl => by rw [hn] at hl; cases hl
    rw [subscribe_fst, hn] at hst
    have hs : (h.act (.subscribe id)).contains h.nextFeed h.nextId := contains_iff.2 ⟨st, hst, hat⟩
    rw [hempty] at hs; cases hs

theorem idle_of_play (hc : h.Coherent) {actions : List (Action α)} (ha : ∀ a ∈ actions, a.ofRegistry)
    (hr : (h.play actions).registered id = some k) (hi : (h.play actions).isIdle k) :
    h.registered id = some k ∧ h.isIdle k := by
  induction actions generalizing h with
  | nil => exact ⟨hr, hi⟩
  | cons a actions ih =>
    obtain ⟨hr, hi⟩ := ih (hc.act a) (fun b hb => ha b (by simp [hb])) hr hi
    obtain ⟨hr, hi, -⟩ := idle_of_act hc (ha a (by simp)) hr hi
    exact ⟨hr, hi⟩

theorem registered_publish (h : Hub α) (l : FeedId) (x : α) (id : WorkloadId) :
    (h.publish l x).2.registered id = h.registered id :=
  (registered_act h (.publish l x) id).trans (Option.or_none ..)

theorem feed?_publish (h : Hub α) (k : FeedId) (x : α) :
    (h.publish k x).2.feed? k = (h.feed? k).map fun f => (f.publish x).2 := by
  unfold publish
  cases hf : h.feed? k with
  | none => exact hf
  | some f => simp [feed?_onFeed, hf]

/-- A publication reaches the subscriptions that the feed delivers to after it. -/
theorem delivered_eq_zero {x : α} (hi : (h.publish k x).2.isIdle k) :
    (h.publish k x).1.delivered = 0 := by
  cases hf : h.feed? k with
  | none => simp [publish, hf]
  | some f =>
    have hf' : (h.publish k x).2.feed? k = some (f.publish x).2 := by rw [feed?_publish, hf]; rfl
    have hd : (h.publish k x).1 = (f.publish x).1 := by simp [publish, hf]
    simp only [isIdle, hf', Feed.isEmpty, decide_eq_true_eq] at hi
    rw [hd]
    by_cases hcl : f.closed
    · simp [Feed.publish, hcl]
    · simpa [Feed.publish, hcl] using hi

theorem isIdle_publish_of_ne {l : FeedId} {x : α} (hk : k ≠ l) :
    (h.publish l x).2.isIdle k = h.isIdle k := by
  have : (h.publish l x).2.feed? k = h.feed? k := by
    unfold publish
    cases h.feed? l <;> simp [feed?_onFeed, hk]
  unfold isIdle; rw [this]

/-- A registered feed is idle if it was, or if an item was published through it. -/
theorem idle_or_published (hc : h.Coherent) {actions : List (Action α)}
    (ha : ∀ a ∈ actions, a.ofRegistry ∨ a.isPublication)
    (hr : (h.play actions).registered id = some k) (hi : (h.play actions).isIdle k) :
    h.registered id = some k ∧ h.isIdle k ∨ ∃ x, .publish k x ∈ actions := by
  induction actions generalizing h with
  | nil => exact Or.inl ⟨hr, hi⟩
  | cons a actions ih =>
    rcases ih (hc.act a) (fun b hb => ha b (by simp [hb])) hr hi with ⟨hr, hi⟩ | ⟨x, hx⟩
    · rcases ha a (by simp) with hreg | hpub
      · obtain ⟨hr, hi, -⟩ := idle_of_act hc hreg hr hi
        exact Or.inl ⟨hr, hi⟩
      · cases a with
        | publish l x =>
          by_cases hk : k = l
          · subst hk; exact Or.inr ⟨x, by simp⟩
          · left
            rw [act, registered_publish] at hr
            rw [act, isIdle_publish_of_ne hk] at hi
            exact ⟨hr, hi⟩
        | subscribe | unsubscribe | stop | release | letGo | receive | makeFeed | attach | evict
        | close => cases hpub
    · exact Or.inr ⟨x, by simp [hx]⟩

/-- Every registered feed that is idle is going to be released. -/
def Covered (h : Hub α) (coming : List (Action α)) : Prop :=
  ∀ id k, h.registered id = some k → h.isIdle k → .release id k ∈ coming

theorem Covered.act {coming : List (Action α)} (hv : h.Covered (a :: coming)) (hc : h.Coherent)
    (ha : a.ofRegistry) : (h.act a).Covered coming := by
  intro id k hr hi
  obtain ⟨hr, hi, hne⟩ := idle_of_act hc ha hr hi
  rcases List.mem_cons.1 (hv id k hr hi) with he | hm
  · exact absurd he.symm hne
  · exact hm

theorem Covered.play {actions coming : List (Action α)} (hv : h.Covered (actions ++ coming))
    (hc : h.Coherent) (ha : ∀ a ∈ actions, a.ofRegistry) : (h.play actions).Covered coming := by
  induction actions generalizing h with
  | nil => exact hv
  | cons a actions ih =>
    exact ih (hv.act hc (ha a (by simp))) (hc.act a) fun b hb => ha b (by simp [hb])

theorem covered_empty (buffer : Nat) (coming : List (Action α)) :
    Covered ({ buffer } : Hub α) coming := by
  intro id k hr; cases hr

theorem Covered.mono {coming more : List (Action α)} (hv : h.Covered coming) (hm : coming ⊆ more) :
    h.Covered more :=
  fun id k hr hi => hm (hv id k hr hi)

/-! ## What is promised -/

/-- **The registrations are in order** after the actions `done` and while the
    actions `coming` are still to come: every registered feed is open and contains
    a subscription, unless an item of `done` was published through it and its
    release is to come; no two workloads share a feed, and no two feeds a
    subscription. -/
structure Orderly (h : Hub α) (done coming : List (Action α)) : Prop where
  opened : ∀ id k, h.registered id = some k → ∃ f, h.feed? k = some f ∧ f.closed = false
  inhabited : ∀ id k, h.registered id = some k → (∃ t, h.contains k t) ∨
    (∀ t, h.contains k t = false) ∧ (∃ x, .publish k x ∈ done) ∧ .release id k ∈ coming
  registered_inj : ∀ id other k, h.registered id = some k → h.registered other = some k → id = other
  contains_unique : ∀ t k l, h.contains k t → h.contains l t → k = l

theorem Regular.orderly (hr : h.Regular) (hc : h.Coherent) {done coming : List (Action α)}
    (hv : h.Covered coming)
    (hp : ∀ id k, h.registered id = some k → h.isIdle k → ∃ x, .publish k x ∈ done) :
    h.Orderly done coming where
  opened id k hid := by
    obtain ⟨f, hf⟩ := feed?_of_number_lt (hc.registered_lt id k hid)
    exact ⟨f, hf, hr.opened id k f hid hf⟩
  inhabited id k hid := by
    by_cases ht : ∃ t, h.contains k t
    · exact Or.inl ht
    · have hempty : ∀ t, h.contains k t = false := by simpa using ht
      have hi := hc.isIdle_iff.2 hempty
      exact Or.inr ⟨hempty, hp id k hid hi, hv id k hid hi⟩
  registered_inj := hc.registered_inj
  contains_unique _ _ _ hk hl := hc.eq_of_contains hk hl

/-- A feed that was registered in the course of the actions and is registered no
    more contains nothing, and no workload is registered with it again, whatever
    is done. -/
def LeftForGood (h : Hub α) (actions : List (Action α)) : Prop :=
  ∀ earlier later, actions = earlier ++ later → ∀ id k, (h.play earlier).registered id = some k →
    (∀ other, (h.play actions).registered other ≠ some k) →
    (∀ t, (h.play actions).contains k t = false) ∧
    ∀ more other, ((h.play actions).play more).registered other ≠ some k

theorem Regular.leftForGood {actions : List (Action α)} (hr : (h.play actions).Regular)
    (hc : h.Coherent) : h.LeftForGood actions := by
  intro earlier later he id k hid hleft
  refine ⟨hr.left k hleft, fun more other ho => hleft other (registered_of_play ?_ more ho)⟩
  rw [he, play_append]
  exact number_lt_play ((hc.play earlier).registered_lt id k hid) later

end Workmeter.Hub
