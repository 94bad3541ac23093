/-
  Workmeter — the unread items of one subscription.

  An inbox keeps the newest items that were put and not yet taken, at most its
  capacity.  An item put into a full inbox drives out the oldest one, and the
  items driven out are counted until the next receipt, which tells their number
  and then goes on with the oldest item that is left.  This is what a bounded
  broadcast channel documents: its capacity is rounded up to a power of two, a
  receiver that lagged is told once how many items it lost, and what is unread is
  received before the end shows.

  * `Inbox.put`, `Inbox.poll`: an item arrives; one look for an item or for a
    loss to tell;
  * `Inbox.receive`: looks until there is an item or nothing left (`receive_eq`:
    a loss is told at most once);
  * `capacityFor buffer`: the least power of two that holds the wanted number of
    items.
-/
import Workmeter.Feed.Backlog

namespace Workmeter

/-! ## Capacity -/

/-- The least power of two that is at least `n`. -/
def roundUp (n : Nat) : Nat := if n ≤ 1 then 1 else 1 <<< ((n - 1).log2 + 1)

/-- The most items an inbox is made for. -/
def largestBuffer : Nat := 65536

/-- The number of items an inbox is made for when nothing else is asked. -/
def defaultBuffer : Nat := 64

/-- The capacity of an inbox for `buffer` items: within bounds, then rounded up. -/
def capacityFor (buffer : Nat) : Nat := roundUp (min (max buffer 1) largestBuffer)

/-! ## Inboxes -/

/-- The newest items that were put and not yet taken. -/
structure Inbox (α : Type) where
  capacity : Nat
  unread : Backlog α := .empty
  /-- The items driven out since the last receipt. -/
  missed : Nat := 0

/-- What one look finds. -/
inductive Poll (α : Type) where
  | item (a : α)
  /-- This many items were driven out unread. -/
  | lagged (count : Nat)
  | nothing

/-- What a receipt gives: the losses told on the way, and the item, if any. -/
structure Receipt (α : Type) where
  skipped : List Nat := []
  item : Option α

namespace Inbox

variable {α : Type}

/-- An item arrives. -/
def put (i : Inbox α) (a : α) : Inbox α :=
  if i.unread.size < i.capacity then { i with unread := i.unread.push a }
  else { i with unread := i.unread.tail.push a, missed := i.missed + 1 }

/-- One look into the inbox. -/
def poll (i : Inbox α) : Poll α × Inbox α :=
  if 0 < i.missed then (.lagged i.missed, { i with missed := 0 })
  else match i.unread.pop? with
    | some (a, rest) => (.item a, { i with unread := rest })
    | none => (.nothing, i)

/-- A look that tells a loss leaves none to tell. -/
theorem missed_lt_of_lagged {i j : Inbox α} {n : Nat} (h : i.poll = (.lagged n, j)) :
    j.missed < i.missed := by
  unfold poll at h
  split at h
  · rename_i hm
    simp only [Prod.mk.injEq] at h
    rw [← h.2]; exact hm
  · split at h <;> simp at h

/-- Looks until there is an item or nothing left. -/
def receive (i : Inbox α) : Receipt α × Inbox α :=
  match _h : i.poll with
  | (.item a, j) => ({ item := some a }, j)
  | (.nothing, j) => ({ item := none }, j)
  | (.lagged n, j) =>
    let (receipt, k) := receive j
    ({ receipt with skipped := n :: receipt.skipped }, k)
termination_by i.missed
decreasing_by exact missed_lt_of_lagged _h

/-- The inbox after its oldest unread item is taken, with no loss left to tell. -/
def taken (i : Inbox α) : Inbox α := { i with unread := i.unread.tail, missed := 0 }

theorem receive_of_missed_eq_zero {i : Inbox α} (h : i.missed = 0) :
    i.receive = ({ item := i.unread.toList.head? }, i.taken) := by
  have hp : i.poll = match i.unread.pop? with
      | some (a, rest) => (.item a, { i with unread := rest })
      | none => (.nothing, i) := by
    unfold poll; rw [if_neg (by omega)]
  cases hq : i.unread.pop? with
  | none =>
    rw [hq] at hp
    have ht : i.taken = i := by cases i; simp_all [taken, Backlog.tail]
    rw [receive, (Backlog.pop?_eq_none_iff _).1 hq, ht]
    split <;> simp_all
  | some p =>
    obtain ⟨a, rest⟩ := p
    rw [hq] at hp
    have ht : i.taken = { i with unread := rest } := by
      cases i; simp_all [taken, Backlog.tail]
    rw [receive, Backlog.toList_of_pop? hq, ht]
    split <;> simp_all

/-- **One receipt.**  The loss is told if there is one, and the item is the
    oldest unread one. -/
theorem receive_eq (i : Inbox α) :
    i.receive =
      ({ skipped := if 0 < i.missed then [i.missed] else [], item := i.unread.toList.head? },
        i.taken) := by
  by_cases h : 0 < i.missed
  · have hp : i.poll = (.lagged i.missed, { i with missed := 0 }) := by
      unfold poll; rw [if_pos h]
    have hr := receive_of_missed_eq_zero (i := { i with missed := 0 }) rfl
    rw [receive]
    split <;> simp_all [taken]
  · rw [receive_of_missed_eq_zero (by omega), if_neg h]

end Inbox

end Workmeter
