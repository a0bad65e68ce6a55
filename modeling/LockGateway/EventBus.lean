/-! A bus from which every listener takes events at its own pace. It holds on to
the last events only: a listener that falls behind is told how many it missed
and goes on with the oldest one that is still held. -/

namespace LockGateway

structure EventBus (ε : Type) where
  /-- How many events are held at most. -/
  capacity : Nat
  /-- How many events were emitted. -/
  emitted : Nat
  /-- The last of them, the oldest first. -/
  held : List ε
  closed : Bool
  deriving Repr

/-- A place in the sequence of events: the number of those before it. -/
structure Subscription where
  position : Nat
  deriving DecidableEq, Repr

/-- What a listener finds at its place. -/
inductive Reception (ε : Type) where
  | event (event : ε)
  /-- So many events are no longer held. -/
  | lagged (missed : Nat)
  | nothingYet
  | closed
  deriving DecidableEq, Repr

namespace EventBus

variable {ε : Type}

/-- The least power of two that is not below a positive number. -/
def roundUp (number : Nat) : Nat := Nat.pow 2 (2 * number - 1).log2

/-- A bus holds at least one event, and a power of two of them. -/
def ofCapacity (capacity : Nat) : EventBus ε where
  capacity := roundUp (max 1 capacity)
  emitted := 0
  held := []
  closed := false

def standard : EventBus ε := ofCapacity 256

/-- A listener hears nothing of what was emitted before it came. -/
def subscribe (bus : EventBus ε) : Subscription := ⟨bus.emitted⟩

def emit (bus : EventBus ε) (event : ε) : EventBus ε :=
  let held := bus.held ++ [event]
  { bus with
    emitted := bus.emitted + 1
    held := held.drop (held.length - bus.capacity) }

def emitAll (bus : EventBus ε) (events : List ε) : EventBus ε := events.foldl emit bus

def close (bus : EventBus ε) : EventBus ε := { bus with closed := true }

/-- The place of the oldest event that is held. -/
def oldest (bus : EventBus ε) : Nat := bus.emitted - bus.held.length

/-- What is to be taken at a place, and the place after it. -/
def receive (bus : EventBus ε) (subscription : Subscription) : Reception ε × Subscription :=
  if subscription.position < bus.oldest then
    (.lagged (bus.oldest - subscription.position), ⟨bus.oldest⟩)
  else match bus.held[subscription.position - bus.oldest]? with
    | some event => (.event event, ⟨subscription.position + 1⟩)
    | none => (if bus.closed then .closed else .nothingYet, subscription)

/-- How many places are between a listener and the end of what is held. -/
def distance (bus : EventBus ε) (subscription : Subscription) : Nat :=
  bus.oldest + bus.held.length - subscription.position

theorem distance_lagged {bus : EventBus ε} {subscription next : Subscription}
    (behind : bus.receive subscription = (.lagged missed, next)) :
    bus.distance next < bus.distance subscription := by
  unfold receive at behind
  split at behind
  · rename_i earlier
    simp only [Prod.mk.injEq] at behind
    rw [← behind.2]
    simp only [distance]
    omega
  · split at behind
    · simp at behind
    · split at behind <;> simp at behind

theorem distance_event {bus : EventBus ε} {subscription next : Subscription}
    (taken : bus.receive subscription = (.event event, next)) :
    bus.distance next < bus.distance subscription := by
  unfold receive at taken
  split at taken
  · simp at taken
  · split at taken
    · rename_i found
      have inside := (List.getElem?_eq_some_iff.mp found).1
      simp only [Prod.mk.injEq] at taken
      rw [← taken.2]
      simp only [distance]
      omega
    · split at taken <;> simp at taken

/-- Takes all that is there to be taken: what was found on the way, and the place
at the end. -/
def drain (bus : EventBus ε) (subscription : Subscription) :
    List (Reception ε) × Subscription :=
  match _ : bus.receive subscription with
  | (.event event, next) =>
      let (later, last) := bus.drain next
      (.event event :: later, last)
  | (.lagged missed, next) =>
      let (later, last) := bus.drain next
      (.lagged missed :: later, last)
  | (.nothingYet, _) | (.closed, _) => ([], subscription)
termination_by bus.distance subscription
decreasing_by
  · exact distance_event (by assumption)
  · exact distance_lagged (by assumption)

/-- Whether a listener at a place has nothing more to wait for. -/
def isOver (bus : EventBus ε) (subscription : Subscription) : Bool :=
  match (bus.receive subscription).1 with
  | .closed => true
  | _ => false

end EventBus

/-- The event in a reception. -/
def Reception.event? : Reception ε → Option ε
  | event taken => some taken
  | lagged _ | nothingYet | closed => none

namespace EventBus

/-- A turn of a listener that takes all that is there and does not mind gaps. -/
def listen (bus : EventBus ε) (subscription : Subscription) : List ε × Subscription :=
  let (receptions, next) := bus.drain subscription
  (receptions.filterMap Reception.event?, next)

example : ((ofCapacity 3).emitAll [0, 1, 2, 3, 4]).drain ⟨0⟩ =
    ([.lagged 1, .event 1, .event 2, .event 3, .event 4], ⟨5⟩) := by
  decide +kernel

end EventBus

end LockGateway
