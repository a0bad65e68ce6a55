import Mathlib.Data.List.Perm.Subperm
import LockGateway.Traffic

/-! Traffic in a world of any kind: which requests are sent, what becomes of those that
nobody waits for any more, and how an item is picked out of a queue. -/

namespace LockGateway

variable {σ α β : Type}

/-! ## Queues -/

theorem pick?_eq_some_iff {position : Nat} {items others : List α} {item : α} :
    pick? position items = some (item, others) ↔
      items[position]? = some item ∧ others = items.eraseIdx position := by
  rw [pick?, Option.map_eq_some_iff]
  constructor
  · intro picked
    rcases picked with ⟨found, holds, equal⟩
    cases equal
    exact ⟨holds, rfl⟩
  · intro held
    exact ⟨item, held.1, by rw [held.2]⟩

theorem pick?_eq_none_iff {position : Nat} {items : List α} :
    pick? position items = none ↔ items.length ≤ position := by
  rw [pick?, Option.map_eq_none_iff, List.getElem?_eq_none_iff]

/-- Picking an item keeps the others. -/
theorem pick?_perm {position : Nat} {items others : List α} {item : α}
    (picked : pick? position items = some (item, others)) : items.Perm (item :: others) := by
  rcases pick?_eq_some_iff.mp picked with ⟨holds, rfl⟩
  rcases List.getElem?_eq_some_iff.mp holds with ⟨within, rfl⟩
  exact (List.getElem_cons_eraseIdx_perm within).symm

theorem pick?_length {position : Nat} {items others : List α} {item : α}
    (picked : pick? position items = some (item, others)) : items.length = others.length + 1 :=
  (pick?_perm picked).length_eq

/-- At the front the items keep their order. -/
theorem pick?_front {items others : List α} {item : α}
    (picked : pick? 0 items = some (item, others)) : items = item :: others := by
  cases items with
  | nil => cases picked
  | cons first rest =>
      cases picked
      rfl

/-! ## Steps -/

/-- Steps of the traffic of a connection. A world is whatever the wallets, servers and
peers act on; its state may be of any type. -/
abbrev TrafficM (σ : Type) := StateT (Traffic (StateM σ)) (StateM σ)

theorem TrafficM.bind_eq (step : TrafficM σ α) (next : α → TrafficM σ β)
    (traffic : Traffic (StateM σ)) (world : σ) :
    (step >>= next) traffic world =
      next (step traffic world).1.1 (step traffic world).1.2 (step traffic world).2 :=
  rfl

theorem TrafficM.get_eq (traffic : Traffic (StateM σ)) (world : σ) :
    (get : TrafficM σ (Traffic (StateM σ))) traffic world = ((traffic, traffic), world) :=
  rfl

namespace Traffic

/-- The traffic once the next request has its number. -/
def counted (traffic : Traffic (StateM σ)) : Traffic (StateM σ) :=
  { traffic with numbered := traffic.numbered + 1 }

theorem number_eq (traffic : Traffic (StateM σ)) (world : σ) :
    number traffic world = ((traffic.numbered + 1, traffic.counted), world) :=
  rfl

/-! ## What is sent -/

/-- From some traffic to a later one only requests of a kind were sent. -/
def Sends (kind : Rpc.Request → Prop) (before after : Traffic (StateM σ)) : Prop :=
  ∃ sent, after.sent = before.sent ++ sent ∧ ∀ request ∈ sent, kind request

variable {kind : Rpc.Request → Prop}

theorem Sends.of_sent_eq {before after : Traffic (StateM σ)} (equal : after.sent = before.sent) :
    Sends kind before after :=
  ⟨[], by simp [equal]⟩

theorem Sends.trans {first second third : Traffic (StateM σ)}
    (early : Sends kind first second) (late : Sends kind second third) :
    Sends kind first third := by
  rcases early with ⟨earlySent, earlyEqual, earlyKind⟩
  rcases late with ⟨lateSent, lateEqual, lateKind⟩
  refine ⟨earlySent ++ lateSent, ?_, ?_⟩
  · rw [lateEqual, earlyEqual, List.append_assoc]
  · intro request member
    rcases List.mem_append.mp member with member | member
    · exact earlyKind request member
    · exact lateKind request member

theorem Sends.mono {wider : Rpc.Request → Prop} {before after : Traffic (StateM σ)}
    (sends : Sends kind before after) (implies : ∀ request, kind request → wider request) :
    Sends wider before after := by
  rcases sends with ⟨sent, equal, kinds⟩
  exact ⟨sent, equal, fun request member => implies request (kinds request member)⟩

/-! ## What nobody waits for -/

/-- The world after the request at a position was handled, if there is one. -/
def settledAt (position : Nat) (left : List (Delivery (StateM σ))) (world : σ) : σ :=
  match left[position]? with
  | none => world
  | some delivery => (delivery.make world).2

theorem settle_eq (position : Nat) (traffic : Traffic (StateM σ)) (world : σ) :
    settle position traffic world =
      (((), { traffic with undelivered := traffic.undelivered.eraseIdx position }),
        settledAt position traffic.undelivered world) := by
  rw [settle, TrafficM.bind_eq, TrafficM.get_eq, pick?, settledAt]
  dsimp only
  cases found : traffic.undelivered[position]? with
  | none =>
      rw [List.eraseIdx_of_length_le (List.getElem?_eq_none_iff.mp found)]
      rfl
  | some delivery => rfl

/-- What is still on its way after the moves. -/
def kept : List Move → List (Delivery (StateM σ)) → List (Delivery (StateM σ))
  | [], left => left
  | .settle position :: rest, left => kept rest (left.eraseIdx position)
  | _ :: rest, left => kept rest left

/-- The world after what the moves let be handled. -/
def attended : List Move → List (Delivery (StateM σ)) → σ → σ
  | [], _, world => world
  | .settle position :: rest, left, world =>
      attended rest (left.eraseIdx position) (settledAt position left world)
  | _ :: rest, left, world => attended rest left world

theorem attend_eq (moves : List Move) (traffic : Traffic (StateM σ)) (world : σ) :
    attend moves traffic world =
      (((), { traffic with undelivered := kept moves traffic.undelivered }),
        attended moves traffic.undelivered world) := by
  induction moves generalizing traffic world with
  | nil => rfl
  | cons move rest induction =>
      cases move with
      | settle position =>
          rw [attend, TrafficM.bind_eq, settle_eq]
          exact induction _ _
      | _ => exact induction traffic world

theorem kept_sublist (moves : List Move) (left : List (Delivery (StateM σ))) :
    (kept moves left).Sublist left := by
  induction moves generalizing left with
  | nil => exact .refl left
  | cons move rest induction =>
      cases move with
      | settle position => exact (induction _).trans (List.eraseIdx_sublist left position)
      | _ => exact induction left

@[simp] theorem kept_nil (moves : List Move) : kept moves ([] : List (Delivery (StateM σ))) = [] :=
  List.sublist_nil.mp (kept_sublist moves [])

/-- With nothing on its way the world stays as it is. -/
@[simp] theorem attended_nil (moves : List Move) (world : σ) : attended moves [] world = world := by
  induction moves with
  | nil => rfl
  | cons move rest induction =>
      cases move with
      | settle position => exact induction
      | _ => exact induction

end Traffic

end LockGateway
