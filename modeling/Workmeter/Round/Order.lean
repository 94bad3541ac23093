/-
  Workmeter — the orders in which the steps of a round may be taken.

  * `Round.Order`: every workload is measured and settled, and settled after it was
    measured;
  * `Round.Order.inTurn`: all workloads are measured before any is settled.
-/
import Workmeter.Round.Basic

namespace Workmeter.Round

/-- An order of the steps of a round. -/
structure Order where
  moves : List Task → List Move
  perm : ∀ tasks, (moves tasks).Perm (inTurn tasks)
  settled_after : ∀ tasks task before after,
    moves tasks = before ++ .measure task :: after → .settle task ∈ after

/-- Every workload is measured before any is settled. -/
def Order.inTurn : Order where
  moves := Round.inTurn
  perm _ := .rfl
  settled_after tasks task before after he := by
    have hm : .settle task ∈ before ++ .measure task :: after := by
      rw [← he, Round.inTurn]
      have : .measure task ∈ Round.inTurn tasks := by rw [he]; simp
      simpa [Round.inTurn] using this
    refine (List.mem_cons.1 ((List.mem_append.1 hm).resolve_left fun hb => ?_)).resolve_left (by simp)
    -- a step before a measurement is a measurement itself
    rcases List.append_eq_append_iff.1 he with ⟨mid, rfl, hmid⟩ | ⟨mid, hmid, -⟩
    · have : .measure task ∈ tasks.map Move.settle := by rw [hmid]; simp
      simp at this
    · have : .settle task ∈ tasks.map Move.measure := by rw [hmid]; exact List.mem_append_left _ hb
      simp at this

end Workmeter.Round
