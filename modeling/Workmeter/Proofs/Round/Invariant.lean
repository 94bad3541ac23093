/-
  Workmeter — what is kept through a round.

  Those who are asked in a round remember something, and turn to the hub.  What holds of
  their memory and the hub together, and is kept by each of their answers, is kept by the
  whole round, since the round itself only publishes and releases.

  * `Round.Kept`: what is kept by the answers, and by what the round does itself;
  * `Kept.play`, `Kept.runWith`: it is kept by the steps, and by the round.
-/
import Workmeter.Proofs.Hub.Service
import Workmeter.Proofs.Round.Heard

namespace Workmeter.Round

variable {σ : Type} {sources : Sources σ} {usage : UInt64} {state : σ} {hub : Hub Sample}

/-- What holds of the memory of those who are asked and of the hub is kept. -/
structure Kept (sources : Sources σ) (inv : σ → Hub Sample → Prop) : Prop where
  hostUsage : ∀ {state hub}, inv state hub →
    inv ((sources.hostUsage state).run hub).1.2 ((sources.hostUsage state).run hub).2
  stats : ∀ id {state hub}, inv state hub →
    inv ((sources.stats id state).run hub).1.2 ((sources.stats id state).run hub).2
  act : ∀ task a {state hub}, a.serves task → inv state hub → inv state (hub.act a)

theorem state_measure (r : Round σ) (task : Task) :
    (r.measure sources usage task).state = (r.ask sources task.1).1.2 := by
  rw [measure_eq_hear]
  split <;> rfl

theorem state_settle (r : Round σ) (task : Task) : (r.settle task).state = r.state := by
  simp only [settle]
  split
  · split <;> rfl
  · rfl
  · rfl

variable {inv : σ → Hub Sample → Prop}

theorem Kept.begun (hk : Kept sources inv) (state : σ) (hub : Hub Sample) (h : inv state hub) :
    inv (begun sources state hub).state (begun sources state hub).hub :=
  hk.hostUsage h

theorem Kept.ask (hk : Kept sources inv) {r : Round σ} (h : inv r.state r.hub) (id : WorkloadId) :
    inv (r.ask sources id).1.2 (r.ask sources id).2 :=
  hk.stats id h

theorem Kept.step (hk : Kept sources inv) {r : Round σ} (h : inv r.state r.hub) (m : Move) :
    inv (r.step sources usage m).state (r.step sources usage m).hub := by
  cases m with
  | measure task =>
    obtain ⟨id, k⟩ := task
    rw [Round.step, state_measure]
    cases hs : r.sample? sources usage id with
    | some x =>
      rw [(measure_of_some hs k).1]
      exact hk.act (id, k) (.publish k x) (decide_eq_true rfl) (hk.ask h id)
    | none =>
      rw [(measure_of_none hs k).1]
      exact hk.ask h id
  | settle task =>
    rw [Round.step, state_settle, hub_settle r task.1 task.2, releases]
    split
    · exact hk.act task (.release task.1 task.2) (decide_eq_true rfl) h
    · exact h

theorem Kept.play (hk : Kept sources inv) {r : Round σ} (h : inv r.state r.hub)
    (moves : List Move) :
    inv (r.play sources usage moves).state (r.play sources usage moves).hub := by
  induction moves generalizing r with
  | nil => exact h
  | cons m moves ih => exact ih (hk.step h m)

/-- **What is kept** holds after a round, whatever the order of its steps. -/
theorem Kept.runWith (hk : Kept sources inv) (h : inv state hub)
    (order : List Task → List Move) :
    inv (runWith order sources state hub).state (runWith order sources state hub).hub := by
  by_cases hn : hub.entries = []
  · rw [runWith_of_nil hn]
    exact h
  · have hbegun := hk.begun state hub h
    cases hv : hostAnswer sources state hub with
    | value usage =>
      rw [runWith_of_value hn hv]
      exact hk.play hbegun _
    | failure cause =>
      rw [runWith_of_failure hn hv]
      exact hbegun
    | crash text =>
      rw [runWith_of_crash hn hv]
      exact hbegun

end Workmeter.Round
