/-
  Workmeter — one-to-many delivery of items.

  A feed delivers each published item to every subscription attached to it,
  through an inbox of its own, and never waits for a reader.  Detaching a
  subscription ends its stream: what is unread can still be received, then the
  end shows.  A subscription that its reader let go stays attached until the
  next publication finds it out.

  * `Stream`: the delivery to one subscription;
  * `Feed.subscribe`, `publish`, `evict`, `close`: the operations of the feed;
  * `Feed.letGo`, `Feed.receive`, `Feed.await`: the operations of a reader, who asks
    for the next item once or waits for it;
  * `stream?_subscribe`, `stream?_publish`, `stream?_evict`, `stream?_close`,
    `stream?_letGo`, `stream?_receive`: what an operation does to each stream; it
    acts on each by itself.
-/
import Workmeter.Association
import Workmeter.Feed.Inbox

namespace Workmeter

/-- A subscription, by a number that no other subscription of the program has.  Fewer than
    2^64 are ever made. -/
structure SubscriptionId where
  number : Nat
  deriving DecidableEq, Repr

/-- The delivery to one subscription. -/
structure Stream (α : Type) where
  inbox : Inbox α
  /-- The feed delivers to it. -/
  attached : Bool
  /-- Its reader has not let it go. -/
  held : Bool := true

/-- What a reader finds. -/
inductive Reading (α : Type) where
  | item (a : α)
  /-- Nothing yet. -/
  | waiting
  /-- Nothing, now and for ever. -/
  | ended

/-- What a reader finds who waits for an item. -/
inductive Awaited (α : Type) where
  | item (a : α)
  /-- It goes on waiting. -/
  | pending
  /-- There is nothing to wait for, now and for ever. -/
  | ended

/-- What a publication did. -/
structure Delivery where
  /-- The subscriptions that got the item. -/
  delivered : Nat
  /-- The subscriptions found to be let go. -/
  pruned : List SubscriptionId := []

namespace Stream

variable {α : Type}

/-- A published item reaches the stream. -/
def offer (a : α) (s : Stream α) : Stream α :=
  if s.attached then
    if s.held then { s with inbox := s.inbox.put a } else { s with attached := false }
  else s

/-- The feed delivers no more. -/
def detach (s : Stream α) : Stream α := { s with attached := false }

/-- The reader lets the stream go. -/
def letGo (s : Stream α) : Stream α := { s with held := false }

/-- One receipt of the reader: the losses told and what it finds. -/
def receive (s : Stream α) : (List Nat × Reading α) × Stream α :=
  let (receipt, inbox) := s.inbox.receive
  let found := match receipt.item with
    | some a => .item a
    | none => if s.attached then .waiting else .ended
  ((receipt.skipped, found), { s with inbox })

/-- One look of a reader who waits: the losses told and what it finds. -/
def await (s : Stream α) : (List Nat × Awaited α) × Stream α :=
  match _h : s.inbox.poll with
  | (.item a, inbox) => (([], .item a), { s with inbox })
  | (.nothing, inbox) => (([], if s.attached then .pending else .ended), { s with inbox })
  | (.lagged n, inbox) =>
    let ((skipped, found), after) := await { s with inbox }
    ((n :: skipped, found), after)
termination_by s.inbox.missed
decreasing_by exact Inbox.missed_lt_of_lagged _h

end Stream

/-- One-to-many delivery. -/
structure Feed (α : Type) where
  /-- The number of unread items that each subscription asks for. -/
  buffer : Nat := defaultBuffer
  closed : Bool := false
  /-- The stream of every subscription made so far, the oldest first. -/
  streams : List (SubscriptionId × Stream α) := []

namespace Feed

variable {α : Type}

/-- The stream of a subscription made here. -/
def stream? (f : Feed α) (s : SubscriptionId) : Option (Stream α) := f.streams.lookup s

/-- The feed delivers to the subscription. -/
def contains (f : Feed α) (s : SubscriptionId) : Bool :=
  (f.stream? s).any (·.attached)

/-- The number of subscriptions the feed delivers to. -/
def size (f : Feed α) : Nat := f.streams.countP fun (_, stream) => stream.attached

/-- The feed delivers to no subscription. -/
def isEmpty (f : Feed α) : Bool := f.size = 0

/-- Changes the stream of one subscription. -/
def onStream (f : Feed α) (s : SubscriptionId) (change : Stream α → Stream α) : Feed α :=
  { f with streams := f.streams.map fun (t, stream) => (t, if t = s then change stream else stream) }

/-- Changes every stream. -/
def onStreams (f : Feed α) (change : Stream α → Stream α) : Feed α :=
  { f with streams := f.streams.map fun (t, stream) => (t, change stream) }

/-- The stream of a new subscription; a closed feed gives one that has ended. -/
def newStream (f : Feed α) : Stream α :=
  { inbox := { capacity := capacityFor f.buffer }, attached := !f.closed }

/-- Adds the subscription `s`. -/
def subscribe (f : Feed α) (s : SubscriptionId) : Feed α :=
  { f with streams := f.streams ++ [(s, f.newStream)] }

/-- The subscriptions that the next publication will find to be let go. -/
def abandoned (f : Feed α) : List SubscriptionId :=
  (f.streams.filter fun (_, stream) => stream.attached && !stream.held).map (·.1)

/-- Delivers an item to every attached subscription. -/
def publish (f : Feed α) (a : α) : Delivery × Feed α :=
  if f.closed then ({ delivered := 0 }, f)
  else
    let after := f.onStreams (Stream.offer a)
    ({ delivered := after.size, pruned := f.abandoned }, after)

/-- Ends one subscription. -/
def evict (f : Feed α) (s : SubscriptionId) : Feed α := f.onStream s Stream.detach

/-- Ends every subscription, and accepts no further item or subscription. -/
def close (f : Feed α) : Feed α := { f.onStreams Stream.detach with closed := true }

/-- The reader of a subscription lets it go. -/
def letGo (f : Feed α) (s : SubscriptionId) : Feed α := f.onStream s Stream.letGo

/-- One receipt on a subscription made here. -/
def receive (f : Feed α) (s : SubscriptionId) : Option (List Nat × Reading α) × Feed α :=
  match f.stream? s with
  | some stream =>
    let (reading, after) := stream.receive
    (some reading, f.onStream s fun _ => after)
  | none => (none, f)

/-- One look of a reader who waits on a subscription made here. -/
def await (f : Feed α) (s : SubscriptionId) : Option (List Nat × Awaited α) × Feed α :=
  match f.stream? s with
  | some stream =>
    let (awaited, after) := stream.await
    (some awaited, f.onStream s fun _ => after)
  | none => (none, f)

/-! ## Streams after an operation -/

theorem stream?_onStreams (f : Feed α) (t : SubscriptionId) (change : Stream α → Stream α) :
    (f.onStreams change).stream? t = (f.stream? t).map change :=
  Association.lookup_map (fun _ => change) f.streams t

theorem stream?_onStream (f : Feed α) (s t : SubscriptionId) (change : Stream α → Stream α) :
    (f.onStream s change).stream? t =
      if t = s then (f.stream? t).map change else f.stream? t := by
  unfold stream? onStream
  rw [Association.lookup_map fun t stream => if t = s then change stream else stream]
  by_cases h : t = s <;> simp [h]

/-- A new subscription leaves every stream made before it as it is. -/
theorem stream?_subscribe (f : Feed α) (s t : SubscriptionId) :
    (f.subscribe s).stream? t = (f.stream? t).or (if t = s then some f.newStream else none) := by
  simp only [stream?, subscribe, List.lookup_append]
  by_cases h : t = s
  · simp [h]
  · have : (t == s) = false := by simpa using h
    simp [h, List.lookup_cons, this]

/-- A publication is offered to each stream, unless the feed is closed. -/
theorem stream?_publish (f : Feed α) (a : α) (t : SubscriptionId) :
    (f.publish a).2.stream? t =
      if f.closed then f.stream? t else (f.stream? t).map (Stream.offer a) := by
  unfold publish
  split
  · rfl
  · exact stream?_onStreams f t _

theorem stream?_evict (f : Feed α) (s t : SubscriptionId) :
    (f.evict s).stream? t = if t = s then (f.stream? t).map Stream.detach else f.stream? t :=
  stream?_onStream f s t _

theorem stream?_close (f : Feed α) (t : SubscriptionId) :
    f.close.stream? t = (f.stream? t).map Stream.detach :=
  stream?_onStreams f t _

theorem stream?_letGo (f : Feed α) (s t : SubscriptionId) :
    (f.letGo s).stream? t = if t = s then (f.stream? t).map Stream.letGo else f.stream? t :=
  stream?_onStream f s t _

/-- A receipt takes from the stream of its reader and from no other. -/
theorem stream?_receive (f : Feed α) (s t : SubscriptionId) :
    (f.receive s).2.stream? t =
      if t = s then (f.stream? t).map fun stream => stream.receive.2 else f.stream? t := by
  unfold receive
  split
  · rename_i stream hs
    rw [stream?_onStream]
    by_cases h : t = s
    · subst h; simp [hs]
    · simp [h]
  · rename_i hs
    by_cases h : t = s
    · subst h; simp [hs]
    · simp [h]

end Feed

end Workmeter
