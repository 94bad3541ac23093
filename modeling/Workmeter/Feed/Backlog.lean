/-
  Workmeter — a queue that knows its size.

  Items are taken in the order in which they were added.  The queue is kept as
  two lists so that both ends are cheap; `toList` is what it holds, the oldest
  item first, and every operation is known by what it does to that list.

  * `toList_push`: adding puts an item at the end;
  * `pop?_eq`: taking removes the first item;
  * `size_eq_length`: the size is the length of the list.
-/

namespace Workmeter

/-- A first-in first-out queue. -/
structure Backlog (α : Type) where
  /-- The older items, the oldest first. -/
  older : List α := []
  /-- The newer items, the newest first. -/
  newer : List α := []
  size : Nat := 0
  size_eq : size = older.length + newer.length := by rfl

namespace Backlog

variable {α : Type}

/-- The queue that holds nothing. -/
def empty : Backlog α := {}

instance : Inhabited (Backlog α) := ⟨empty⟩

/-- What the queue holds, the oldest item first. -/
def toList (q : Backlog α) : List α := q.older ++ q.newer.reverse

/-- Adds an item. -/
def push (q : Backlog α) (a : α) : Backlog α where
  older := q.older
  newer := a :: q.newer
  size := q.size + 1
  size_eq := by have := q.size_eq; simp only [List.length_cons]; omega

/-- Takes the oldest item. -/
def pop? (q : Backlog α) : Option (α × Backlog α) :=
  match ho : q.older with
  | a :: older =>
    some (a, {
      older, newer := q.newer, size := q.size - 1
      size_eq := by have := q.size_eq; simp only [ho, List.length_cons] at this; omega })
  | [] =>
    match hn : q.newer.reverse with
    | a :: older =>
      some (a, {
        older, newer := [], size := q.size - 1
        size_eq := by
          have := q.size_eq
          have hl := congrArg List.length hn
          simp only [ho, List.length_nil, List.length_reverse, List.length_cons] at this hl ⊢
          omega })
    | [] => none

/-- The queue without its oldest item. -/
def tail (q : Backlog α) : Backlog α :=
  match q.pop? with
  | some (_, rest) => rest
  | none => q

@[simp] theorem toList_empty : (empty : Backlog α).toList = [] := rfl

@[simp] theorem toList_push (q : Backlog α) (a : α) : (q.push a).toList = q.toList ++ [a] := by
  simp [toList, push]

theorem size_eq_length (q : Backlog α) : q.size = q.toList.length := by
  simp [toList, q.size_eq]

/-- **Taking removes the first item**, if there is one. -/
theorem pop?_eq (q : Backlog α) :
    q.pop?.map (fun p => (p.1, p.2.toList)) =
      match q.toList with
      | [] => none
      | a :: rest => some (a, rest) := by
  unfold pop? toList
  split
  · rename_i a older ho; simp [ho]
  · rename_i ho
    split
    · rename_i a older hn; simp [ho, hn]
    · rename_i hn; simp [ho, hn]

theorem pop?_eq_none_iff (q : Backlog α) : q.pop? = none ↔ q.toList = [] := by
  have h := pop?_eq q
  cases hl : q.toList with
  | nil => rw [hl] at h; simpa using h
  | cons a rest => rw [hl] at h; cases hp : q.pop? <;> simp [hp] at h ⊢

theorem toList_of_pop? {q rest : Backlog α} {a : α} (h : q.pop? = some (a, rest)) :
    q.toList = a :: rest.toList := by
  have hp := pop?_eq q
  rw [h] at hp
  cases hl : q.toList with
  | nil => rw [hl] at hp; simp at hp
  | cons b bs => rw [hl] at hp; simp at hp; simp [hp.1, hp.2]

@[simp] theorem toList_tail (q : Backlog α) : q.tail.toList = q.toList.tail := by
  unfold tail
  split
  · rename_i h; simp [toList_of_pop? h]
  · rename_i h; simp [(pop?_eq_none_iff q).1 h]

end Backlog

end Workmeter
