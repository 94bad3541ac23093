/-
  Workmeter — the hub: which feed delivers the samples of which workload.

  A workload is registered with a feed from its first subscription until its
  last one ends; a workload that is subscribed to again gets a new feed.  The
  hub keeps every feed it made, because a reader may still hold a subscription
  to a feed that is registered no more.  Feeds and subscriptions are known by
  numbers that are never used twice.

  * `Hub.subscribe`, `unsubscribe`, `stop`, `releaseIfIdle`: the operations on
    the registration of a workload;
  * `Hub.makeFeed`, `attach`, `publish`, `evict`, `close`: the operations on one
    feed, registered or not;
  * `Hub.letGo`, `Hub.receive`, `receiveAll`, `await`: the operations of a reader;
  * `feed?_onFeed`, `feed?_makeFeed`: what becomes of each feed;
  * `registered_unregister`, `registered_register`: what becomes of each
    registration.
-/
import Workmeter.Feed.Basic
import Workmeter.Workload.Basic

namespace Workmeter

/-- A feed, by the number of feeds made before it. -/
structure FeedId where
  number : Nat
  deriving DecidableEq, Repr

/-- What a reader holds. -/
structure Subscription where
  feed : FeedId
  id : SubscriptionId
  deriving DecidableEq, Repr

/-- All feeds, and the workloads registered with them. -/
structure Hub (α : Type) where
  /-- The number of unread items that each subscription asks for. -/
  buffer : Nat := defaultBuffer
  feeds : Array (Feed α) := #[]
  /-- The registered workloads, in order of registration. -/
  entries : List (WorkloadId × FeedId) := []
  /-- The subscriptions made so far. -/
  made : Nat := 0

namespace Hub

variable {α : Type}

/-! ## Feeds -/

/-- The feed of that number. -/
def feed? (h : Hub α) (k : FeedId) : Option (Feed α) := h.feeds[k.number]?

/-- The feed delivers to no subscription. -/
def isIdle (h : Hub α) (k : FeedId) : Bool :=
  match h.feed? k with
  | some f => f.isEmpty
  | none => true

/-- Changes one feed. -/
def onFeed (h : Hub α) (k : FeedId) (change : Feed α → Feed α) : Hub α :=
  { h with feeds := h.feeds.modify k.number change }

/-- Makes a feed that no workload is registered with. -/
def makeFeed (h : Hub α) (buffer : Nat) : FeedId × Hub α :=
  (⟨h.feeds.size⟩, { h with feeds := h.feeds.push { buffer } })

/-- Adds a subscription to a feed. -/
def attach (h : Hub α) (k : FeedId) : Subscription × Hub α :=
  let s : SubscriptionId := ⟨h.made + 1⟩
  (⟨k, s⟩, { h.onFeed k fun f => f.subscribe s with made := h.made + 1 })

/-- Publishes an item through a feed. -/
def publish (h : Hub α) (k : FeedId) (a : α) : Delivery × Hub α :=
  match h.feed? k with
  | some f =>
    let (delivery, after) := f.publish a
    (delivery, h.onFeed k fun _ => after)
  | none => ({ delivered := 0 }, h)

/-- Ends a subscription of a feed. -/
def evict (h : Hub α) (k : FeedId) (s : SubscriptionId) : Hub α := h.onFeed k fun f => f.evict s

/-- Ends every subscription of a feed. -/
def close (h : Hub α) (k : FeedId) : Hub α := h.onFeed k Feed.close

/-- The reader of a subscription lets it go. -/
def letGo (h : Hub α) (s : Subscription) : Hub α := h.onFeed s.feed fun f => f.letGo s.id

/-- One receipt on a subscription. -/
def receive (h : Hub α) (s : Subscription) : Option (List Nat × Reading α) × Hub α :=
  match h.feed? s.feed with
  | some f =>
    let (reading, after) := f.receive s.id
    (reading, h.onFeed s.feed fun _ => after)
  | none => (none, h)

/-- One look of a reader who waits on a subscription. -/
def await (h : Hub α) (s : Subscription) : Option (List Nat × Awaited α) × Hub α :=
  match h.feed? s.feed with
  | some f =>
    let (awaited, after) := f.await s.id
    (awaited, h.onFeed s.feed fun _ => after)
  | none => (none, h)

/-- The number of unread items of a subscription. -/
def unread (h : Hub α) (s : Subscription) : Nat :=
  match (h.feed? s.feed).bind fun f => f.stream? s.id with
  | some stream => stream.inbox.unread.size
  | none => 0

/-- What several receipts gave. -/
structure Receipts (α : Type) where
  items : List α := []
  skipped : List Nat := []
  /-- The last receipt found the end. -/
  ended : Bool := false

/-- Receives until nothing is left, at most `most` times. -/
def receiveUpTo (h : Hub α) (s : Subscription) : Nat → Receipts α × Hub α
  | 0 => ({}, h)
  | most + 1 =>
    match h.receive s with
    | (some (skipped, .item a), h) =>
      let (rest, h) := h.receiveUpTo s most
      ({ rest with items := a :: rest.items, skipped := skipped ++ rest.skipped }, h)
    | (some (skipped, .waiting), h) => ({ skipped }, h)
    | (some (skipped, .ended), h) => ({ skipped, ended := true }, h)
    | (none, h) => ({ ended := true }, h)

/-- Receives everything that is unread, and then looks once more. -/
def receiveAll (h : Hub α) (s : Subscription) : Receipts α × Hub α :=
  h.receiveUpTo s (h.unread s + 1)

/-! ## Registration -/

/-- The feed that a workload is registered with. -/
def registered (h : Hub α) (id : WorkloadId) : Option FeedId := h.entries.lookup id

/-- The number of registered workloads. -/
def size (h : Hub α) : Nat := h.entries.length

/-- No workload is registered. -/
def isEmpty (h : Hub α) : Bool := h.entries.isEmpty

/-- The workload is registered no more. -/
def unregister (h : Hub α) (id : WorkloadId) : Hub α :=
  { h with entries := h.entries.filter fun e => e.1 ≠ id }

/-- Registers a workload with a new feed. -/
def register (h : Hub α) (id : WorkloadId) : FeedId × Hub α :=
  let (k, h) := h.makeFeed h.buffer
  (k, { h with entries := h.entries ++ [(id, k)] })

/-- A new subscription to the samples of a workload. -/
def subscribe (h : Hub α) (id : WorkloadId) : Subscription × Hub α :=
  match h.registered id with
  | some k => h.attach k
  | none =>
    let (k, h) := h.register id
    h.attach k

/-- Ends a subscription to a workload; with its last subscription the workload
    is unregistered. -/
def unsubscribe (h : Hub α) (id : WorkloadId) (s : SubscriptionId) : Hub α :=
  match h.registered id with
  | some k =>
    let h := h.evict k s
    if h.isIdle k then h.unregister id else h
  | none => h

/-- Ends every subscription to a workload. -/
def stop (h : Hub α) (id : WorkloadId) : Hub α :=
  match h.registered id with
  | some k => (h.unregister id).close k
  | none => h

/-- Unregisters a workload if it is still registered with the feed and the feed
    delivers to no subscription. -/
def releaseIfIdle (h : Hub α) (id : WorkloadId) (k : FeedId) : Bool × Hub α :=
  if h.registered id = some k ∧ h.isIdle k then (true, h.unregister id) else (false, h)

/-! ## Feeds after an operation -/

theorem feed?_onFeed (h : Hub α) (k l : FeedId) (change : Feed α → Feed α) :
    (h.onFeed k change).feed? l = if l = k then (h.feed? k).map change else h.feed? l := by
  unfold feed? onFeed
  rw [Array.getElem?_modify]
  by_cases hl : l = k
  · subst hl; simp
  · have : k.number ≠ l.number := fun e => hl (by cases k; cases l; simp_all)
    simp [hl, this]

theorem feed?_makeFeed (h : Hub α) (buffer : Nat) (l : FeedId) :
    (h.makeFeed buffer).2.feed? l =
      if l = (h.makeFeed buffer).1 then some { buffer } else h.feed? l := by
  unfold feed? makeFeed
  simp only [Array.getElem?_push]
  by_cases hl : l.number = h.feeds.size
  · have : l = ⟨h.feeds.size⟩ := by cases l; simp_all
    simp [this]
  · have : l ≠ ⟨h.feeds.size⟩ := fun e => hl (by simp [e])
    simp [hl, this]

/-! ## Registrations after an operation -/

theorem registered_unregister (h : Hub α) (id other : WorkloadId) :
    (h.unregister id).registered other = if other = id then none else h.registered other := by
  unfold registered unregister
  rw [Association.lookup_filter fun t => t ≠ id]
  by_cases ho : other = id <;> simp [ho]

/-- A registration leaves every workload registered before it with its feed. -/
theorem registered_register (h : Hub α) (id other : WorkloadId) :
    (h.register id).2.registered other =
      (h.registered other).or (if other = id then some (h.register id).1 else none) := by
  simp only [registered, register, makeFeed, List.lookup_append]
  by_cases ho : other = id
  · simp [ho]
  · have : (other == id) = false := by simpa using ho
    simp [ho, List.lookup_cons, this]

end Hub

end Workmeter
