/-
  Workmeter — look-ups in lists of keys and values.

  Of several values of one key the first counts.

  * `lookup_filter`: a list that keeps only some of its keys;
  * `lookup_map`: a list whose values are changed, each by its key.
-/

namespace Workmeter.Association

variable {κ α β : Type} [BEq κ] [LawfulBEq κ]

theorem lookup_filter (keep : κ → Bool) (es : List (κ × α)) (k : κ) :
    (es.filter fun e => keep e.1).lookup k = if keep k then es.lookup k else none := by
  induction es with
  | nil => simp
  | cons e es ih =>
    obtain ⟨t, a⟩ := e
    cases hk : k == t with
    | true =>
      obtain rfl := eq_of_beq hk
      cases hf : keep k <;> simp [hf, ih]
    | false => cases hf : keep t <;> simp [hf, ih, List.lookup_cons, hk]

theorem lookup_map (change : κ → α → β) (es : List (κ × α)) (k : κ) :
    (es.map fun (t, a) => (t, change t a)).lookup k = (es.lookup k).map (change k) := by
  induction es with
  | nil => rfl
  | cons e es ih =>
    obtain ⟨t, a⟩ := e
    cases hk : k == t with
    | true => obtain rfl := eq_of_beq hk; simp
    | false => simp [ih, List.lookup_cons, hk]

end Workmeter.Association
