import LockGateway.Proofs.EventBus.Listener
import Mathlib.Logic.Function.Basic

/-! A bus with any number of listeners, each of which takes its turns at its own pace. Whatever
the order of all that happens, every listener hears what was held for it, and none is noticed by
another or by the emitter. -/

namespace LockGateway

/-- A bus with its listeners. -/
structure Audience (ι ε : Type) where
  bus : EventBus ε
  /-- All events that were emitted. -/
  told : List ε
  listeners : ι → Option (Listener ε)

namespace Audience

variable {ι ε : Type}

/-- What becomes of one listener. -/
inductive Act where
  | join
  | leave
  | take
  | turn

def Act.on (bus : EventBus ε) (seat : Option (Listener ε)) : Act → Option (Listener ε)
  | join => some (.joining bus)
  | leave => none
  | take => seat.map (.take bus)
  | turn => seat.map (.turn bus)

inductive Move (ι ε : Type) where
  | emit (event : ε)
  | close
  | act (name : ι) (act : Act)

/-- Whether the move is one of the emitter, or of a listener that is among those. -/
def Move.isAmong (names : ι → Bool) : Move ι ε → Bool
  | emit _ | close => true
  | act name _ => names name

def start (capacity : Nat) : Audience ι ε where
  bus := .ofCapacity capacity
  told := []
  listeners _ := none

variable [DecidableEq ι]

/-- Once the bus is closed, nobody is left to emit anything. -/
def after (audience : Audience ι ε) : Move ι ε → Audience ι ε
  | .emit event =>
      if audience.bus.closed then audience
      else { audience with bus := audience.bus.emit event, told := audience.told ++ [event] }
  | .close => { audience with bus := audience.bus.close }
  | .act name act =>
      { audience with
        listeners := Function.update audience.listeners name
          (act.on audience.bus (audience.listeners name)) }

def run (capacity : Nat) (moves : List (Move ι ε)) : Audience ι ε :=
  moves.foldl after (start capacity)

/-! ### Every listener is faithful -/

structure Sound (capacity : Nat) (audience : Audience ι ε) : Prop where
  sized : EventBus.IsRoundedUp capacity audience.bus.capacity
  keeps : audience.bus.Keeps audience.told
  faithful (name : ι) (listener : Listener ε) : audience.listeners name = some listener →
    listener.Faithful audience.bus audience.told

omit [DecidableEq ι] in
theorem sound_start (capacity : Nat) : (start capacity : Audience ι ε).Sound capacity where
  sized := EventBus.isRoundedUp_ofCapacity capacity
  keeps := EventBus.keeps_ofCapacity capacity
  faithful := by
    intro name listener seated
    cases seated

theorem Act.on_faithful {bus : EventBus ε} {told : List ε} {seat : Option (Listener ε)}
    {listener : Listener ε} (act : Act) (keeps : bus.Keeps told)
    (faithful : ∀ listener, seat = some listener → listener.Faithful bus told)
    (seated : act.on bus seat = some listener) : listener.Faithful bus told := by
  cases act with
  | join =>
      cases seated
      exact Listener.faithful_joining keeps
  | leave => cases seated
  | take =>
      rcases Option.map_eq_some_iff.mp seated with ⟨earlier, there, rfl⟩
      exact (faithful earlier there).take keeps
  | turn =>
      rcases Option.map_eq_some_iff.mp seated with ⟨earlier, there, rfl⟩
      exact (faithful earlier there).turn keeps

theorem Sound.after {capacity : Nat} {audience : Audience ι ε} (sound : audience.Sound capacity)
    (move : Move ι ε) : (audience.after move).Sound capacity := by
  cases move with
  | emit event =>
      rw [Audience.after]
      cases closed : audience.bus.closed with
      | true => exact sound
      | false =>
          exact
            { sized := sound.sized
              keeps := sound.keeps.emit event
              faithful := fun name listener seated =>
                (sound.faithful name listener seated).emit closed event }
  | close =>
      exact
        { sized := sound.sized
          keeps := sound.keeps.close
          faithful := fun name listener seated => (sound.faithful name listener seated).close }
  | act actor act =>
      refine { sized := sound.sized, keeps := sound.keeps, faithful := ?_ }
      intro name listener seated
      change Function.update audience.listeners actor
        (act.on audience.bus (audience.listeners actor)) name = some listener at seated
      by_cases same : name = actor
      · subst same
        rw [Function.update_self] at seated
        exact act.on_faithful sound.keeps (sound.faithful name) seated
      · rw [Function.update_of_ne same] at seated
        exact sound.faithful name listener seated

theorem sound_run (capacity : Nat) (moves : List (Move ι ε)) :
    (run capacity moves).Sound capacity :=
  List.foldlRecOn moves after (sound_start capacity) fun _ sound move _ => sound.after move

/-! ### Listeners do not matter to others -/

/-- The two have the same bus, and the same listeners among those. -/
structure Alike (names : ι → Bool) (first second : Audience ι ε) : Prop where
  bus : first.bus = second.bus
  told : first.told = second.told
  listeners (name : ι) : names name = true → first.listeners name = second.listeners name

theorem Alike.after {names : ι → Bool} {first second : Audience ι ε}
    (alike : Alike names first second) (move : Move ι ε) :
    Alike names (first.after move) (second.after move) := by
  rcases first with ⟨bus, told, listeners⟩
  rcases second with ⟨otherBus, otherTold, others⟩
  rcases alike with ⟨rfl, rfl, same⟩
  cases move with
  | emit event =>
      simp only [Audience.after]
      cases bus.closed with
      | true => exact ⟨rfl, rfl, same⟩
      | false => exact ⟨rfl, rfl, same⟩
  | close => exact ⟨rfl, rfl, same⟩
  | act actor act =>
      refine ⟨rfl, rfl, ?_⟩
      intro name kept
      by_cases equal : name = actor
      · subst equal
        have seat : listeners name = others name := same name kept
        simp only [Audience.after, Function.update_self, seat]
      · simp only [Audience.after, Function.update_of_ne equal]
        exact same name kept

/-- What another listener does is not noticed. -/
theorem Alike.after_other {names : ι → Bool} {first second : Audience ι ε}
    (alike : Alike names first second) {move : Move ι ε} (other : move.isAmong names = false) :
    Alike names first (second.after move) := by
  cases move with
  | emit | close => cases other
  | act actor act =>
      refine ⟨alike.bus, alike.told, ?_⟩
      intro name kept
      have different : name ≠ actor := by
        rintro rfl
        rw [Move.isAmong, kept] at other
        cases other
      simp only [Audience.after, Function.update_of_ne different]
      exact alike.listeners name kept

/-- Two audiences stay alike though some of the moves reach only one of them. -/
theorem Alike.follow {names : ι → Bool} {first second : Audience ι ε}
    (alike : Alike names first second) (moves : List (Move ι ε)) :
    Alike names ((moves.filter (·.isAmong names)).foldl Audience.after first)
      (moves.foldl Audience.after second) := by
  induction moves generalizing first second with
  | nil => exact alike
  | cons move rest induction =>
      cases among : move.isAmong names with
      | true =>
          rw [List.filter_cons_of_pos among]
          exact induction (alike.after move)
      | false =>
          rw [List.filter_cons_of_neg (by simp [among])]
          exact induction (alike.after_other among)

theorem alike_run (capacity : Nat) (moves : List (Move ι ε)) (names : ι → Bool) :
    Alike names (run capacity (moves.filter (·.isAmong names))) (run capacity moves) := by
  have same : Alike names (start capacity : Audience ι ε) (start capacity) :=
    ⟨rfl, rfl, fun _ _ => rfl⟩
  exact same.follow moves

/-- Listeners lose only what was overwritten before they reached it, go on after a gap, and are
noticed by nobody. -/
theorem listeners_lose_only_overwritten (capacity : Nat) (moves : List (Move ι ε)) :
    let audience := run capacity moves
    EventBus.IsRoundedUp capacity audience.bus.capacity ∧
      (∀ name listener, audience.listeners name = some listener →
        listener.Faithful audience.bus audience.told ∧
          listener.heard.Sublist (audience.told.drop listener.since) ∧
          (listener.finished = false → listener.GoesOn audience.bus audience.told)) ∧
      ∀ names, Alike names (run capacity (moves.filter (·.isAmong names))) audience := by
  have sound := sound_run capacity moves
  refine ⟨sound.sized, ?_, alike_run capacity moves⟩
  intro name listener seated
  have faithful := sound.faithful name listener seated
  refine ⟨faithful, ?_, faithful.goesOn sound.keeps⟩
  rw [faithful.heard]
  exact Listener.received_sublist

/-- Six events are too many for a listener that takes its time, another comes later, and the bus
is closed. -/
def overrun : List (Move Nat Nat) :=
  [.act 0 .join, .emit 0, .emit 1, .emit 2, .act 1 .join, .emit 3, .emit 4, .emit 5,
    .act 0 .take, .act 0 .take, .act 1 .take, .close, .act 0 .turn]

theorem overrun_listener_goes_on :
    let audience := run 3 overrun
    let slow : Listener Nat := ⟨0, ⟨6⟩, [2, 3, 4, 5], [6, 6, 6, 6, 6, 6], true⟩
    let quick : Listener Nat := ⟨3, ⟨4⟩, [3], [6], false⟩
    audience.listeners 0 = some slow ∧ slow.Faithful audience.bus audience.told ∧
      audience.listeners 1 = some quick ∧ quick.GoesOn audience.bus audience.told := by
  have first : (run 3 overrun).listeners 0 =
      some ⟨0, ⟨6⟩, [2, 3, 4, 5], [6, 6, 6, 6, 6, 6], true⟩ := by
    decide +kernel
  have second : (run 3 overrun).listeners 1 = some ⟨3, ⟨4⟩, [3], [6], false⟩ := by
    decide +kernel
  have faithful := (listeners_lose_only_overwritten 3 overrun).2.1
  exact ⟨first, (faithful 0 _ first).1, second, (faithful 1 _ second).2.2 rfl⟩

end Audience

end LockGateway
