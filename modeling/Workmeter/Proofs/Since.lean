/-
  Workmeter — what held once in a list, and what has held since.

  * `Since p q l`: some entry of `l` is a `p`, and all later ones are `q`;
  * `since_concat`: what one more entry makes of it.
-/
namespace Workmeter

/-- Some entry of the list is a `p`, and all later ones are `q`. -/
def Since {α : Type} (p q : α → Prop) (l : List α) : Prop :=
  ∃ before a after, l = before ++ a :: after ∧ p a ∧ ∀ b ∈ after, q b

theorem since_nil {α : Type} {p q : α → Prop} : ¬ Since p q [] := by
  rintro ⟨before, a, after, he, -⟩
  simp at he

theorem since_concat {α : Type} {p q : α → Prop} {l : List α} {x : α} :
    Since p q (l ++ [x]) ↔ p x ∨ q x ∧ Since p q l := by
  constructor
  · rintro ⟨before, a, after, he, hp, hq⟩
    rcases List.eq_nil_or_concat after with rfl | ⟨after, y, rfl⟩
    · obtain ⟨-, hx⟩ := List.append_inj' he rfl
      rw [List.singleton_inj.1 hx]
      exact Or.inl hp
    · have he' : l ++ [x] = (before ++ a :: after) ++ [y] := by simpa using he
      obtain ⟨rfl, hx⟩ := List.append_inj' he' rfl
      obtain rfl := List.singleton_inj.1 hx
      exact Or.inr ⟨hq x (by simp), before, a, after, rfl, hp, fun b hb => hq b (by simp [hb])⟩
  · rintro (hp | ⟨hx, before, a, after, rfl, hp, hq⟩)
    · exact ⟨l, x, [], rfl, hp, nofun⟩
    · refine ⟨before, a, after ++ [x], by simp, hp, fun b hb => ?_⟩
      rcases List.mem_append.1 hb with hb | hb
      · exact hq b hb
      · rw [List.mem_singleton.1 hb]; exact hx

end Workmeter
