import LockGateway.EventBus

/-! What a bus holds on to, and what is taken from it. It holds the last of all that was emitted,
as many as its capacity allows, so that every place tells by itself what is found there. -/

namespace LockGateway.EventBus

variable {ε : Type} {bus : EventBus ε} {told : List ε} {place : Subscription}

/-! ## Capacity -/

/-- The least power of two that is not below the capacity, nor below one. -/
structure IsRoundedUp (capacity size : Nat) : Prop where
  power : size.isPowerOfTwo
  enough : max 1 capacity ≤ size
  least : size < 2 * max 1 capacity

theorem isRoundedUp_ofCapacity (capacity : Nat) :
    IsRoundedUp capacity (ofCapacity capacity : EventBus ε).capacity := by
  have positive : 2 * max 1 capacity - 1 ≠ 0 := by omega
  have below := Nat.log2_self_le positive
  have above : 2 * max 1 capacity - 1 < 2 ^ ((2 * max 1 capacity - 1).log2 + 1) :=
    Nat.lt_log2_self
  rw [Nat.pow_succ] at above
  exact
    { power := ⟨_, rfl⟩
      enough := by
        change max 1 capacity ≤ 2 ^ (2 * max 1 capacity - 1).log2
        omega
      least := by
        change 2 ^ (2 * max 1 capacity - 1).log2 < 2 * max 1 capacity
        omega }

/-! ## Contents -/

/-- The bus knows how many events were emitted, and holds the last of them. -/
structure Keeps (bus : EventBus ε) (told : List ε) : Prop where
  emitted : bus.emitted = told.length
  held : bus.held = told.drop (told.length - bus.capacity)
  positive : 0 < bus.capacity

theorem keeps_ofCapacity (capacity : Nat) : (ofCapacity capacity : EventBus ε).Keeps [] where
  emitted := rfl
  held := List.drop_nil.symm
  positive := by
    have enough : max 1 capacity ≤ (ofCapacity capacity : EventBus ε).capacity :=
      (isRoundedUp_ofCapacity capacity).enough
    omega

namespace Keeps

theorem close (keeps : bus.Keeps told) : bus.close.Keeps told :=
  ⟨keeps.emitted, keeps.held, keeps.positive⟩

theorem emit (keeps : bus.Keeps told) (event : ε) : (bus.emit event).Keeps (told ++ [event]) where
  emitted := by simp [EventBus.emit, keeps.emitted]
  held := by
    have positive := keeps.positive
    have appended : bus.held ++ [event] =
        (told ++ [event]).drop (told.length - bus.capacity) := by
      rw [keeps.held, List.drop_append_of_le_length (by omega)]
    have length : (bus.held ++ [event]).length =
        told.length + 1 - (told.length - bus.capacity) := by
      simp [appended]
    change (bus.held ++ [event]).drop ((bus.held ++ [event]).length - bus.capacity) =
      (told ++ [event]).drop ((told ++ [event]).length - bus.capacity)
    rw [length, appended, List.drop_drop, List.length_append, List.length_singleton]
    congr 1
    omega
  positive := keeps.positive

theorem oldest_eq (keeps : bus.Keeps told) : bus.oldest = told.length - bus.capacity := by
  rw [oldest, keeps.emitted, keeps.held, List.length_drop]
  omega

/-! ## Receptions -/

/-- A place whose event is lost leads on to the oldest event that is not. -/
theorem receive_lost (keeps : bus.Keeps told)
    (lost : place.position + bus.capacity < told.length) :
    bus.receive place =
      (.lagged (told.length - bus.capacity - place.position), ⟨told.length - bus.capacity⟩) := by
  rw [receive, keeps.oldest_eq, if_pos (by omega)]

theorem getElem?_held (keeps : bus.Keeps told)
    (kept : told.length ≤ place.position + bus.capacity) :
    bus.held[place.position - (told.length - bus.capacity)]? = told[place.position]? := by
  rw [keeps.held, List.getElem?_drop]
  congr 1
  omega

theorem receive_event (keeps : bus.Keeps told)
    (kept : told.length ≤ place.position + bus.capacity) {event : ε}
    (found : told[place.position]? = some event) :
    bus.receive place = (.event event, ⟨place.position + 1⟩) := by
  rw [receive, keeps.oldest_eq, if_neg (by omega), keeps.getElem?_held kept, found]

theorem receive_end (keeps : bus.Keeps told) (reached : place.position = told.length) :
    bus.receive place = (if bus.closed then .closed else .nothingYet, place) := by
  have none : told[place.position]? = none := by simp [reached]
  rw [receive, keeps.oldest_eq, if_neg (by omega), keeps.getElem?_held (by omega), none]

end Keeps

/-! ## Turns -/

theorem drain_event {event : ε} {next : Subscription}
    (taken : bus.receive place = (.event event, next)) :
    bus.drain place = (.event event :: (bus.drain next).1, (bus.drain next).2) := by
  rw [drain]
  split <;> simp_all

theorem drain_lagged {missed : Nat} {next : Subscription}
    (taken : bus.receive place = (.lagged missed, next)) :
    bus.drain place = (.lagged missed :: (bus.drain next).1, (bus.drain next).2) := by
  rw [drain]
  split <;> simp_all

theorem listen_event {event : ε} {next : Subscription}
    (taken : bus.receive place = (.event event, next)) :
    bus.listen place = (event :: (bus.listen next).1, (bus.listen next).2) := by
  rw [listen, drain_event taken]
  rfl

theorem listen_lagged {missed : Nat} {next : Subscription}
    (taken : bus.receive place = (.lagged missed, next)) :
    bus.listen place = bus.listen next := by
  rw [listen, drain_lagged taken]
  rfl

theorem listen_end {reception : Reception ε}
    (taken : bus.receive place = (reception, place))
    (nothing : reception = .nothingYet ∨ reception = .closed) :
    bus.listen place = ([], place) := by
  have drained : bus.drain place = ([], place) := by
    rw [drain]
    rcases nothing with rfl | rfl
    · split <;> simp_all
    · split <;> simp_all
  rw [listen, drained]
  rfl

/-- What there is to be heard from a place on: everything up to the end, but for what is no longer
held. -/
def ahead (bus : EventBus ε) (told : List ε) (place : Nat) : List ε :=
  told.drop (max place (told.length - bus.capacity))

theorem ahead_end : bus.ahead told told.length = [] := by
  rw [ahead, Nat.max_eq_left (Nat.sub_le _ _), List.drop_length]

theorem ahead_event {position : Nat} (kept : told.length ≤ position + bus.capacity)
    (inside : position < told.length) :
    bus.ahead told position = told[position] :: bus.ahead told (position + 1) := by
  rw [ahead, ahead, Nat.max_eq_left (by omega), Nat.max_eq_left (by omega),
    List.drop_eq_getElem_cons inside]

/-- Before the oldest event that is held, there is nothing to be heard. -/
theorem ahead_lost {position : Nat} (lost : position + bus.capacity < told.length) :
    bus.ahead told position = bus.ahead told (told.length - bus.capacity) := by
  rw [ahead, ahead, Nat.max_eq_right (by omega), Nat.max_self]

namespace Keeps

theorem listen_kept (keeps : bus.Keeps told)
    (kept : told.length ≤ place.position + bus.capacity) (within : place.position ≤ told.length) :
    bus.listen place = (bus.ahead told place.position, ⟨told.length⟩) := by
  induction remaining : told.length - place.position generalizing place with
  | zero =>
      have reached : place.position = told.length := by omega
      have nothing : bus.listen place = ([], place) := by
        apply listen_end (keeps.receive_end reached)
        cases bus.closed <;> simp
      rw [nothing, reached, ahead_end, ← reached]
  | succ remaining induction =>
      have inside : place.position < told.length := by omega
      have taken := keeps.receive_event kept (List.getElem?_eq_getElem inside)
      have onward : bus.listen ⟨place.position + 1⟩ =
          (bus.ahead told (place.position + 1), ⟨told.length⟩) :=
        induction (by dsimp only; omega) (by dsimp only; omega) (by dsimp only; omega)
      rw [listen_event taken, onward, ahead_event kept inside]

/-- One turn takes all there is to be heard, past a gap at most once. -/
theorem listen_eq (keeps : bus.Keeps told) (within : place.position ≤ told.length) :
    bus.listen place = (bus.ahead told place.position, ⟨told.length⟩) := by
  by_cases lost : place.position + bus.capacity < told.length
  · rw [listen_lagged (keeps.receive_lost lost), ahead_lost lost,
      keeps.listen_kept (by dsimp only; omega) (Nat.sub_le _ _)]
  · exact keeps.listen_kept (by omega) within

end Keeps

end LockGateway.EventBus
