import LockGateway.Proofs.EventBus
import Mathlib.Data.List.Basic
import Mathlib.Logic.Function.Iterate

/-! Listeners that are called with what they take from a bus. A listener hears every event from
the first after it came on, except for those that were no longer held when it left their places. -/

namespace LockGateway

structure Listener (ε : Type) where
  /-- How many events had been emitted when it came. -/
  since : Nat
  subscription : Subscription
  /-- What it was called with. -/
  heard : List ε
  /-- For every place it left behind, how many events had been emitted by then. -/
  passed : List Nat
  /-- It is done, since the bus was closed. -/
  finished : Bool
  deriving DecidableEq, Repr

namespace Listener

variable {ε : Type} {bus : EventBus ε} {told : List ε} {listener : Listener ε}

def place (listener : Listener ε) : Nat := listener.subscription.position

/-- It hears nothing of what was emitted before it came. -/
def joining (bus : EventBus ε) : Listener ε where
  since := bus.emitted
  subscription := bus.subscribe
  heard := []
  passed := []
  finished := false

/-- Goes on to a place, with what was heard on the way. -/
def advance (bus : EventBus ε) (events : List ε) (next : Subscription) (listener : Listener ε) :
    Listener ε :=
  { listener with
    subscription := next
    heard := listener.heard ++ events
    passed := listener.passed ++ List.replicate (next.position - listener.place) bus.emitted }

/-- One reception, if there is anything to be received. -/
def take (bus : EventBus ε) (listener : Listener ε) : Listener ε :=
  if listener.finished then listener
  else
    let (reception, next) := bus.receive listener.subscription
    { listener.advance bus reception.event?.toList next with
      finished := bus.isOver listener.subscription }

/-- A whole turn, up to where there is nothing more. -/
def turn (bus : EventBus ε) (listener : Listener ε) : Listener ε :=
  if listener.finished then listener
  else
    let (events, next) := bus.listen listener.subscription
    { listener.advance bus events next with finished := bus.isOver next }

theorem advance_place {events : List ε} {next : Nat} :
    (listener.advance bus events ⟨next⟩).place = next :=
  rfl

theorem advance_advance {first second : List ε} {middle last : Subscription}
    (forward : listener.place ≤ middle.position) (onward : middle.position ≤ last.position) :
    (listener.advance bus first middle).advance bus second last =
      listener.advance bus (first ++ second) last := by
  have steps : middle.position - listener.place + (last.position - middle.position) =
      last.position - listener.place := by
    omega
  simp only [advance, place, List.append_assoc, List.replicate_append_replicate]
  congr 3

theorem advance_here : listener.advance bus [] listener.subscription = listener := by
  simp [advance, place]

/-! ## Receptions and turns -/

section Receptions

variable (keeps : bus.Keeps told) (awake : listener.finished = false)

include keeps awake

theorem take_lost (lost : listener.place + bus.capacity < told.length) :
    listener.take bus = listener.advance bus [] ⟨told.length - bus.capacity⟩ := by
  have received := keeps.receive_lost lost
  rw [take, awake, if_neg (by decide)]
  simp only [EventBus.isOver, received]
  simp [advance, awake, Reception.event?]

theorem take_event (kept : told.length ≤ listener.place + bus.capacity) {event : ε}
    (found : told[listener.place]? = some event) :
    listener.take bus = listener.advance bus [event] ⟨listener.place + 1⟩ := by
  have received := keeps.receive_event kept found
  rw [take, awake, if_neg (by decide)]
  simp only [EventBus.isOver, received]
  simp [advance, awake, Reception.event?, place]

theorem take_end (reached : listener.place = told.length) :
    listener.take bus = { listener with finished := bus.closed } := by
  have received := keeps.receive_end reached
  rw [take, awake, if_neg (by decide)]
  simp only [EventBus.isOver, received]
  cases bus.closed <;> simp [advance, Reception.event?, place]

theorem turn_eq (within : listener.place ≤ told.length) :
    listener.turn bus =
      { listener.advance bus (bus.ahead told listener.place) ⟨told.length⟩ with
        finished := bus.closed } := by
  have ended : bus.receive ⟨told.length⟩ =
      (if bus.closed then .closed else .nothingYet, ⟨told.length⟩) :=
    keeps.receive_end rfl
  rw [turn, awake, if_neg (by decide), keeps.listen_eq within]
  simp only [EventBus.isOver, ended]
  cases bus.closed <;> rfl

/-- A turn may be cut in two at any place where nothing is left out. -/
theorem turn_advance {events : List ε} {next : Nat} (forward : listener.place ≤ next)
    (within : next ≤ told.length)
    (between : bus.ahead told listener.place = events ++ bus.ahead told next) :
    (listener.advance bus events ⟨next⟩).turn bus = listener.turn bus := by
  have advanced : (listener.advance bus events ⟨next⟩).finished = false := awake
  rw [turn_eq keeps advanced within, turn_eq keeps awake (by omega), between, advance_place,
    advance_advance forward within]

/-- A turn that starts with one reception is made of receptions if what is left of it is. -/
theorem exists_takes_of_take {events : List ε} {next : Nat}
    (taken : listener.take bus = listener.advance bus events ⟨next⟩)
    (forward : listener.place ≤ next) (within : next ≤ told.length)
    (between : bus.ahead told listener.place = events ++ bus.ahead told next)
    (onward : ∃ rounds, (take bus)^[rounds] (listener.advance bus events ⟨next⟩) =
      (listener.advance bus events ⟨next⟩).turn bus) :
    ∃ rounds, (take bus)^[rounds] listener = listener.turn bus := by
  rcases onward with ⟨rounds, ends⟩
  rw [turn_advance keeps awake forward within between, ← taken] at ends
  exact ⟨rounds + 1, ends⟩

theorem exists_takes_kept (kept : told.length ≤ listener.place + bus.capacity)
    (within : listener.place ≤ told.length) :
    ∃ rounds, (take bus)^[rounds] listener = listener.turn bus := by
  induction remaining : told.length - listener.place generalizing listener with
  | zero =>
      have reached : listener.place = told.length := by omega
      have here : (⟨told.length⟩ : Subscription) = listener.subscription := by
        rw [← reached, place]
      refine ⟨1, ?_⟩
      change listener.take bus = _
      rw [take_end keeps awake reached, turn_eq keeps awake within, reached,
        EventBus.ahead_end, here, advance_here]
  | succ remaining induction =>
      have inside : listener.place < told.length := by omega
      have taken := take_event keeps awake kept (List.getElem?_eq_getElem inside)
      apply exists_takes_of_take keeps awake taken (by omega) inside
        (EventBus.ahead_event kept inside)
      apply induction
      · exact awake
      · rw [advance_place]
        omega
      · rw [advance_place]
        omega
      · rw [advance_place]
        omega

/-- A turn is one reception after the other, past a gap at most once. -/
theorem exists_takes (within : listener.place ≤ told.length) :
    ∃ rounds, (take bus)^[rounds] listener = listener.turn bus := by
  by_cases lost : listener.place + bus.capacity < told.length
  · apply exists_takes_of_take keeps awake (take_lost keeps awake lost) (by omega)
      (Nat.sub_le _ _) (EventBus.ahead_lost lost)
    apply exists_takes_kept keeps
    · exact awake
    · rw [advance_place]
      omega
    · exact Nat.sub_le _ _
  · exact exists_takes_kept keeps awake (by omega) within

end Receptions

/-! ## What is heard -/

/-- How many events had been emitted after that of a place when the place was left behind. -/
def later (passing : Nat × Nat) : Nat := passing.1 - (passing.2 + 1)

/-- The events at the places that were left behind, the first of which is given. One is missing if
as many as are held had been emitted after it by the time its place was left. -/
def received (capacity : Nat) (told : List ε) (since : Nat) (passed : List Nat) : List ε :=
  (passed.zipIdx since).filterMap fun passing =>
    if later passing < capacity then told[passing.2]? else none

section Received

variable {capacity since : Nat} {passed : List Nat}

theorem received_append (more : List Nat) :
    received capacity told since (passed ++ more) =
      received capacity told since passed ++
        received capacity told (since + passed.length) more := by
  rw [received, List.zipIdx_append, List.filterMap_append]
  rfl

theorem received_event {event : ε} (kept : told.length ≤ since + capacity)
    (found : told[since]? = some event) (positive : 0 < capacity) :
    received capacity told since [told.length] = [event] := by
  have few : later (told.length, since) < capacity := by
    rw [later]
    omega
  simp [received, few, found]

/-- All places up to the oldest event that is held are passed over. -/
theorem received_lost (lost : since + capacity < told.length) :
    received capacity told since
      (List.replicate (told.length - capacity - since) told.length) = [] := by
  rw [received, List.filterMap_eq_nil_iff]
  rintro ⟨emitted, place⟩ inside
  rcases List.mem_zipIdx inside with ⟨_, before, equal⟩
  rw [List.length_replicate] at before
  rw [List.getElem_replicate] at equal
  refine if_neg ?_
  rw [later]
  omega

/-- Later events change nothing of what was heard. -/
theorem received_told_append (earlier : ∀ entry ∈ passed.zipIdx since, entry.2 < told.length)
    (event : ε) :
    received capacity (told ++ [event]) since passed = received capacity told since passed := by
  refine List.filterMap_congr fun entry inside => ?_
  rw [List.getElem?_append_left (earlier entry inside)]

/-- What is heard is in the order in which it was emitted, and nothing twice. -/
theorem received_sublist : (received capacity told since passed).Sublist (told.drop since) := by
  induction passed generalizing since with
  | nil => exact List.nil_sublist _
  | cons emitted rest induction =>
      have first : received capacity told since (emitted :: rest) =
          (if later (emitted, since) < capacity then told[since]? else none).toList ++
            received capacity told (since + 1) rest := by
        rw [received, List.zipIdx_cons, List.filterMap_cons]
        split <;> simp_all [received]
      rw [first, List.drop_eq_getElem?_toList_append]
      refine List.Sublist.append ?_ induction
      split
      · exact List.Sublist.refl _
      · exact List.nil_sublist _

end Received

/-! ## Faithful listeners -/

/-- The listener left every place behind since it came, each after its event was emitted, and heard
what was to be received there. It is done only if there is nothing more to come. -/
structure Faithful (bus : EventBus ε) (told : List ε) (listener : Listener ε) : Prop where
  placed : listener.since + listener.passed.length = listener.place
  within : listener.place ≤ told.length
  timely : ∀ entry ∈ listener.passed.zipIdx listener.since,
    entry.2 < entry.1 ∧ entry.1 ≤ told.length
  heard : listener.heard = received bus.capacity told listener.since listener.passed
  ended : listener.finished = true → bus.closed = true ∧ listener.place = told.length

theorem faithful_joining (keeps : bus.Keeps told) : (joining bus).Faithful bus told where
  placed := rfl
  within := by
    change bus.emitted ≤ told.length
    exact Nat.le_of_eq keeps.emitted
  timely := by
    intro entry inside
    cases inside
  heard := rfl
  ended := by
    intro finished
    cases finished

namespace Faithful

theorem close (faithful : listener.Faithful bus told) : listener.Faithful bus.close told where
  placed := faithful.placed
  within := faithful.within
  timely := faithful.timely
  heard := faithful.heard
  ended finished := ⟨rfl, (faithful.ended finished).2⟩

theorem emit (faithful : listener.Faithful bus told) (closed : bus.closed = false) (event : ε) :
    listener.Faithful (bus.emit event) (told ++ [event]) where
  placed := faithful.placed
  within := by
    rw [List.length_append]
    exact Nat.le_add_right_of_le faithful.within
  timely entry inside := by
    rw [List.length_append]
    have timely := faithful.timely entry inside
    exact ⟨timely.1, Nat.le_add_right_of_le timely.2⟩
  heard := by
    have earlier : ∀ entry ∈ listener.passed.zipIdx listener.since, entry.2 < told.length := by
      intro entry inside
      have timely := faithful.timely entry inside
      omega
    change listener.heard = received bus.capacity _ _ _
    rw [received_told_append earlier, faithful.heard]
  ended finished := by
    have ended := faithful.ended finished
    rw [closed] at ended
    cases ended.1

theorem advance (faithful : listener.Faithful bus told) (keeps : bus.Keeps told)
    (awake : listener.finished = false) {events : List ε} {next : Nat}
    (forward : listener.place ≤ next) (within : next ≤ told.length)
    (hears : received bus.capacity told listener.place
      (List.replicate (next - listener.place) told.length) = events) :
    (listener.advance bus events ⟨next⟩).Faithful bus told where
  placed := by
    have placed := faithful.placed
    change listener.since + (listener.passed ++ List.replicate _ _).length = next
    rw [List.length_append, List.length_replicate]
    dsimp only
    omega
  within := within
  timely := by
    intro entry inside
    change entry ∈ (listener.passed ++ List.replicate (next - listener.place) bus.emitted).zipIdx
      listener.since at inside
    rw [List.zipIdx_append, faithful.placed, keeps.emitted] at inside
    rcases List.mem_append.mp inside with earlier | later
    · exact faithful.timely entry earlier
    · rcases List.mem_zipIdx later with ⟨_, before, equal⟩
      rw [List.length_replicate] at before
      rw [List.getElem_replicate] at equal
      omega
  heard := by
    change listener.heard ++ events = received bus.capacity told listener.since
      (listener.passed ++ List.replicate (next - listener.place) bus.emitted)
    rw [received_append, faithful.placed, keeps.emitted, hears, faithful.heard]
  ended finished := by
    change listener.finished = true at finished
    rw [awake] at finished
    cases finished

theorem take (faithful : listener.Faithful bus told) (keeps : bus.Keeps told) :
    (listener.take bus).Faithful bus told := by
  have within := faithful.within
  have positive := keeps.positive
  cases awake : listener.finished with
  | true =>
      rw [Listener.take, awake, if_pos rfl]
      exact faithful
  | false =>
      by_cases lost : listener.place + bus.capacity < told.length
      · rw [take_lost keeps awake lost]
        exact faithful.advance keeps awake (by omega) (by omega) (received_lost lost)
      · by_cases inside : listener.place < told.length
        · have found := List.getElem?_eq_getElem inside
          have hears : received bus.capacity told listener.place
              (List.replicate (listener.place + 1 - listener.place) told.length) =
                [told[listener.place]] := by
            rw [Nat.add_sub_cancel_left]
            exact received_event (by omega) found positive
          rw [take_event keeps awake (by omega) found]
          exact faithful.advance keeps awake (by omega) inside hears
        · have reached : listener.place = told.length := by omega
          rw [take_end keeps awake reached]
          exact { faithful with ended := fun closed => ⟨closed, reached⟩ }

/-- A turn is made of receptions. -/
theorem turn (faithful : listener.Faithful bus told) (keeps : bus.Keeps told) :
    (listener.turn bus).Faithful bus told := by
  cases awake : listener.finished with
  | true =>
      rw [Listener.turn, awake, if_pos rfl]
      exact faithful
  | false =>
      rcases exists_takes keeps awake faithful.within with ⟨rounds, ends⟩
      rw [← ends]
      clear ends
      induction rounds with
      | zero => exact faithful
      | succ rounds induction =>
          rw [Function.iterate_succ_apply']
          exact induction.take keeps

end Faithful

/-- How a listener goes on that is not done: past a gap to the oldest event that is held, and from
event to event otherwise. Only where nothing more is to come is it done. -/
structure GoesOn (bus : EventBus ε) (told : List ε) (listener : Listener ε) : Prop where
  gap : listener.place + bus.capacity < told.length →
    listener.take bus = listener.advance bus [] ⟨told.length - bus.capacity⟩
  next (event : ε) : told.length ≤ listener.place + bus.capacity →
    told[listener.place]? = some event →
      listener.take bus = listener.advance bus [event] ⟨listener.place + 1⟩
  last : listener.place = told.length → listener.take bus = { listener with finished := bus.closed }
  turn : listener.turn bus =
    { listener.advance bus (bus.ahead told listener.place) ⟨told.length⟩ with
      finished := bus.closed }

theorem Faithful.goesOn (faithful : listener.Faithful bus told) (keeps : bus.Keeps told)
    (awake : listener.finished = false) : listener.GoesOn bus told where
  gap := take_lost keeps awake
  next _ kept := take_event keeps awake kept
  last := take_end keeps awake
  turn := turn_eq keeps awake faithful.within

end Listener

end LockGateway
