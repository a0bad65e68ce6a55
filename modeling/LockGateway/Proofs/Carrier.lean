import LockGateway.Carrier
import LockGateway.Proofs.Traffic

/-! Batches in the air. What one move can do is said once; what holds all along a batch
follows from that by induction on the moves. When every call had its turn, all calls are
answered, unless a fault has ended the batch. -/

namespace LockGateway

variable {σ : Type}

/-! ## One call -/

/-- The next request of a connection. -/
def Traffic.nextRequest (traffic : Traffic (StateM σ)) (method : String) (params : Json) :
    Rpc.Request :=
  .make (UInt64.ofNat (traffic.numbered + 1)) method params

namespace Carrier

variable (carrier : Carrier (StateM σ)) (traffic : Traffic (StateM σ)) (world : σ)

/-- The traffic after a call. -/
def called (request : Rpc.Request) : Traffic (StateM σ) where
  numbered := traffic.numbered + 1
  sent := traffic.sent ++ [request]
  undelivered := Traffic.kept (carrier.moves traffic 1) traffic.undelivered

/-- The world when the request of a single call is handled. -/
def arrival : σ := Traffic.attended (carrier.moves traffic 1) traffic.undelivered world

theorem call_refused {method : String} {params : Json} {error : GatewayError}
    (refused : carrier.refusal? (traffic.nextRequest method params) = some error) :
    carrier.call method params traffic world = ((.error error, traffic.counted), world) := by
  rw [Traffic.nextRequest] at refused
  rw [call, TrafficM.bind_eq, TrafficM.bind_eq, TrafficM.get_eq]
  dsimp only
  rw [Traffic.number_eq, refused]
  rfl

theorem call_accepted {method : String} {params : Json}
    (accepted : carrier.refusal? (traffic.nextRequest method params) = none) :
    carrier.call method params traffic world =
      let request := traffic.nextRequest method params
      let replied := carrier.deliver request (carrier.arrival traffic world)
      ((replied.1, carrier.called traffic request), replied.2) := by
  rw [Traffic.nextRequest] at accepted
  rw [call, TrafficM.bind_eq, TrafficM.bind_eq, TrafficM.get_eq]
  dsimp only
  rw [Traffic.number_eq, accepted]
  dsimp only
  rw [TrafficM.bind_eq, TrafficM.bind_eq, Traffic.attend_eq]
  rfl

end Carrier

/-! ## One move -/

/-- The next call of a connection, with its number. -/
def Traffic.nextCall (traffic : Traffic (StateM σ)) (call : BatchCall) : NumberedCall :=
  { number := traffic.numbered + 1, call }

/-- There is nothing for the move to happen to. -/
def Flight.Idle (flight : Flight) : Move → Prop
  | .make => flight.uncalled = []
  | .post position => pick? position flight.waiting = none
  | .handle position => pick? position flight.posted = none
  | .look position => pick? position flight.replied = none
  | .settle _ => False

namespace Carrier

/-- How a move takes a batch on, or ends it with a fault. -/
inductive Takes (carrier : Carrier (StateM σ)) (flight : Flight) (traffic : Traffic (StateM σ))
    (world : σ) : Move → Except GatewayError Flight → Traffic (StateM σ) → σ → Prop
  | nothing {move : Move} (idle : flight.Idle move) :
      Takes carrier flight traffic world move (.ok flight) traffic world
  | refused {call : BatchCall} {uncalled : List BatchCall} {error : GatewayError}
      (next : flight.uncalled = call :: uncalled)
      (refused : carrier.refusal? (traffic.nextCall call).request = some error) :
      Takes carrier flight traffic world .make
        (.ok { flight with
          uncalled, replied := flight.replied ++ [(traffic.nextCall call, .error error)] })
        traffic.counted world
  | sent {call : BatchCall} {uncalled : List BatchCall} (next : flight.uncalled = call :: uncalled)
      (accepted : carrier.refusal? (traffic.nextCall call).request = none)
      (clear : flight.waiting = []) :
      Takes carrier flight traffic world .make
        (.ok { flight with uncalled, posted := flight.posted ++ [traffic.nextCall call] })
        { traffic with
          numbered := traffic.numbered + 1
          sent := traffic.sent ++ [(traffic.nextCall call).request] } world
  | waits {call : BatchCall} {uncalled : List BatchCall} (next : flight.uncalled = call :: uncalled)
      (accepted : carrier.refusal? (traffic.nextCall call).request = none)
      (full : flight.waiting ≠ [] ∨
        carrier.admits (traffic.undelivered.length + flight.posted.length) = false) :
      Takes carrier flight traffic world .make
        (.ok { flight with uncalled, waiting := flight.waiting ++ [traffic.nextCall call] })
        traffic.counted world
  | posted {position : Nat} {made : NumberedCall} {waiting : List NumberedCall}
      (picked : pick? position flight.waiting = some (made, waiting)) :
      Takes carrier flight traffic world (.post position)
        (.ok { flight with waiting, posted := flight.posted ++ [made] })
        { traffic with sent := traffic.sent ++ [made.request] } world
  | handled {position : Nat} {made : NumberedCall} {posted : List NumberedCall}
      (picked : pick? position flight.posted = some (made, posted)) :
      Takes carrier flight traffic world (.handle position)
        (.ok { flight with
          posted, replied := flight.replied ++ [(made, (carrier.deliver made.request world).1)] })
        traffic (carrier.deliver made.request world).2
  | answered {position : Nat} {answer : NumberedCall × Reply}
      {replied : List (NumberedCall × Reply)}
      (picked : pick? position flight.replied = some (answer, replied))
      (quiet : answer.1.call.fault? answer.2 = none) :
      Takes carrier flight traffic world (.look position)
        (.ok { flight with replied, answered := flight.answered ++ [answer] }) traffic world
  | faulted {position : Nat} {answer : NumberedCall × Reply}
      {replied : List (NumberedCall × Reply)} {fault : GatewayError}
      (picked : pick? position flight.replied = some (answer, replied))
      (found : answer.1.call.fault? answer.2 = some fault) :
      Takes carrier flight traffic world (.look position) (.error fault)
        { traffic with
          undelivered := traffic.undelivered ++
            flight.posted.map fun made => ⟨carrier.deliver, made.request⟩ } world
  | settled (position : Nat) :
      Takes carrier flight traffic world (.settle position) (.ok flight)
        { traffic with undelivered := traffic.undelivered.eraseIdx position }
        (Traffic.settledAt position traffic.undelivered world)

variable (carrier : Carrier (StateM σ)) (flight : Flight) (traffic : Traffic (StateM σ))
  (world : σ)

theorem makeNext_takes :
    let stepped := carrier.makeNext flight traffic world
    carrier.Takes flight traffic world .make (.ok stepped.1.1) stepped.1.2 stepped.2 := by
  rw [makeNext]
  cases next : flight.uncalled with
  | nil => exact .nothing next
  | cons call uncalled =>
      dsimp only
      rw [TrafficM.bind_eq, TrafficM.bind_eq, Traffic.number_eq, TrafficM.get_eq]
      dsimp only
      rw [← Traffic.nextCall]
      cases refused : carrier.refusal? (traffic.nextCall call).request with
      | some error => exact .refused next refused
      | none =>
          dsimp only
          split
          · rename_i admitted
            rw [Bool.and_eq_true] at admitted
            exact .sent next refused (List.isEmpty_iff.mp admitted.1)
          · rename_i full
            rw [Bool.and_eq_true, not_and_or, List.isEmpty_iff, Bool.not_eq_true] at full
            exact .waits next refused full

theorem postAt_takes (position : Nat) :
    let stepped := postAt position flight traffic world
    carrier.Takes flight traffic world (.post position) (.ok stepped.1.1) stepped.1.2
      stepped.2 := by
  rw [postAt]
  cases picked : pick? position flight.waiting with
  | none => exact .nothing picked
  | some found => exact .posted picked

theorem handleAt_takes (position : Nat) :
    let stepped := carrier.handleAt position flight traffic world
    carrier.Takes flight traffic world (.handle position) (.ok stepped.1.1) stepped.1.2
      stepped.2 := by
  rw [handleAt]
  cases picked : pick? position flight.posted with
  | none => exact .nothing picked
  | some found => exact .handled picked

theorem lookAt_takes (position : Nat) :
    let stepped := carrier.lookAt position flight traffic world
    carrier.Takes flight traffic world (.look position) stepped.1.1 stepped.1.2 stepped.2 := by
  rw [lookAt]
  cases picked : pick? position flight.replied with
  | none => exact .nothing picked
  | some found =>
      rcases found with ⟨⟨made, reply⟩, replied⟩
      dsimp only
      cases found : made.call.fault? reply with
      | none => exact .answered picked found
      | some fault => exact .faulted picked found

/-- What one move can do. -/
theorem step_takes (move : Move) :
    let stepped := carrier.step flight move traffic world
    carrier.Takes flight traffic world move stepped.1.1 stepped.1.2 stepped.2 := by
  cases move with
  | make => exact carrier.makeNext_takes flight traffic world
  | post position => exact carrier.postAt_takes flight traffic world position
  | handle position => exact carrier.handleAt_takes flight traffic world position
  | look position => exact carrier.lookAt_takes flight traffic world position
  | settle position =>
      rw [step, TrafficM.bind_eq, Traffic.settle_eq]
      exact .settled position

/-! ## Many moves -/

variable {carrier flight traffic world} {later : Traffic (StateM σ)} {laterWorld : σ}

/-- What every move upholds that may come holds all along, and after a fault. -/
theorem fly_keeps (carrier : Carrier (StateM σ)) (allowed : Move → Prop)
    (holds : Except GatewayError Flight → Traffic (StateM σ) → σ → Prop)
    (keeps : ∀ {flight traffic world move outcome later laterWorld},
      holds (.ok flight) traffic world → allowed move →
      carrier.Takes flight traffic world move outcome later laterWorld →
      holds outcome later laterWorld)
    {moves : List Move} (all : ∀ move ∈ moves, allowed move)
    (starts : holds (.ok flight) traffic world) :
    let flown := carrier.fly moves flight traffic world
    holds flown.1.1 flown.1.2 flown.2 := by
  induction moves generalizing flight traffic world with
  | nil => exact starts
  | cons move rest induction =>
      rw [List.forall_mem_cons] at all
      have kept := keeps starts all.1 (carrier.step_takes flight traffic world move)
      rw [fly, TrafficM.bind_eq]
      revert kept
      rcases carrier.step flight move traffic world with ⟨⟨error | next, later⟩, laterWorld⟩
      · intro kept
        exact kept
      · intro kept
        exact induction all.2 kept

theorem fly_append (early late : List Move) :
    carrier.fly (early ++ late) flight traffic world =
      match carrier.fly early flight traffic world with
      | ((.error fault, later), laterWorld) => ((.error fault, later), laterWorld)
      | ((.ok next, later), laterWorld) => carrier.fly late next later laterWorld := by
  induction early generalizing flight traffic world with
  | nil => rfl
  | cons move rest induction =>
      rw [List.cons_append, fly, fly, TrafficM.bind_eq, TrafficM.bind_eq]
      rcases carrier.step flight move traffic world with ⟨⟨error | next, later⟩, laterWorld⟩
      · rfl
      · exact induction

/-- A batch that goes on after some moves went on after the first of them. -/
theorem fly_cons_ok {move : Move} {rest : List Move} {landed : Flight}
    (flown : (carrier.fly (move :: rest) flight traffic world).1.1 = .ok landed) :
    ∃ next later laterWorld, carrier.Takes flight traffic world move (.ok next) later laterWorld ∧
      (carrier.fly rest next later laterWorld).1.1 = .ok landed := by
  have takes := carrier.step_takes flight traffic world move
  rw [fly, TrafficM.bind_eq] at flown
  revert flown takes
  rcases carrier.step flight move traffic world with ⟨⟨error | next, later⟩, laterWorld⟩
  · intro flown
    cases flown
  · intro flown takes
    exact ⟨next, later, laterWorld, takes, flown⟩

end Carrier

/-! ## Landing -/

/-- The number of calls that the gateway still waits for. -/
def Flight.unanswered (flight : Flight) : Nat :=
  flight.uncalled.length + flight.waiting.length + flight.posted.length + flight.replied.length

theorem Flight.unanswered_eq_zero_iff (flight : Flight) :
    flight.unanswered = 0 ↔
      flight.uncalled = [] ∧ flight.waiting = [] ∧ flight.posted = [] ∧ flight.replied = [] := by
  rw [unanswered, Nat.add_eq_zero_iff, Nat.add_eq_zero_iff, Nat.add_eq_zero_iff]
  simp only [List.length_eq_zero_iff, and_assoc]

namespace Carrier

variable {carrier : Carrier (StateM σ)} {flight next : Flight} {traffic later : Traffic (StateM σ)}
  {world laterWorld : σ} {move : Move}

theorem Takes.unanswered_le
    (takes : carrier.Takes flight traffic world move (.ok next) later laterWorld) :
    next.unanswered ≤ flight.unanswered := by
  unfold Flight.unanswered
  cases takes with
  | nothing idle => exact Nat.le_refl _
  | refused next _ | sent next _ _ | waits next _ _ =>
      simp only [next, List.length_cons, List.length_append, List.length_nil]
      omega
  | posted picked | handled picked | answered picked _ =>
      have := pick?_length picked
      simp only [List.length_cons, List.length_append, List.length_nil]
      omega
  | settled position => exact Nat.le_refl _

/-! In turn, a call that the gateway waits for is made, posted, handled and looked at. -/

theorem Takes.make_ready
    (takes : carrier.Takes flight traffic world .make (.ok next) later laterWorld)
    (some : 0 < flight.unanswered) :
    0 < next.waiting.length + next.posted.length + next.replied.length := by
  cases takes with
  | nothing idle =>
      have none : flight.uncalled = [] := idle
      simpa [Flight.unanswered, none] using some
  | refused _ _ | sent _ _ _ | waits _ _ _ =>
      simp only [List.length_append, List.length_cons]
      omega

theorem Takes.post_ready
    (takes : carrier.Takes flight traffic world (.post 0) (.ok next) later laterWorld)
    (some : 0 < flight.waiting.length + flight.posted.length + flight.replied.length) :
    0 < next.posted.length + next.replied.length := by
  cases takes with
  | nothing idle =>
      have := pick?_eq_none_iff.mp idle
      omega
  | posted picked =>
      simp only [List.length_append, List.length_cons]
      omega

theorem Takes.handle_ready
    (takes : carrier.Takes flight traffic world (.handle 0) (.ok next) later laterWorld)
    (some : 0 < flight.posted.length + flight.replied.length) : 0 < next.replied.length := by
  cases takes with
  | nothing idle =>
      have := pick?_eq_none_iff.mp idle
      omega
  | handled picked =>
      simp only [List.length_append, List.length_cons]
      omega

theorem Takes.look_fewer
    (takes : carrier.Takes flight traffic world (.look 0) (.ok next) later laterWorld)
    (some : 0 < flight.replied.length) : next.unanswered < flight.unanswered := by
  unfold Flight.unanswered
  cases takes with
  | nothing idle =>
      have := pick?_eq_none_iff.mp idle
      omega
  | answered picked quiet =>
      have := pick?_length picked
      dsimp only
      omega

theorem fly_inTurn {calls : Nat} {landed : Flight} (few : flight.unanswered ≤ calls)
    (flown : (carrier.fly (Move.inTurn calls) flight traffic world).1.1 = .ok landed) :
    landed.unanswered = 0 := by
  induction calls generalizing flight traffic world with
  | zero =>
      cases flown
      exact Nat.le_zero.mp few
  | succ calls induction =>
      change (carrier.fly (.make :: .post 0 :: .handle 0 :: .look 0 :: Move.inTurn calls)
        _ _ _).1.1 = _ at flown
      rcases fly_cons_ok flown with ⟨made, _, _, makes, flown⟩
      rcases fly_cons_ok flown with ⟨posted, _, _, posts, flown⟩
      rcases fly_cons_ok flown with ⟨handled, _, _, handles, flown⟩
      rcases fly_cons_ok flown with ⟨looked, _, _, looks, flown⟩
      refine induction ?_ flown
      have unmade := makes.unanswered_le
      have unposted := posts.unanswered_le
      have unhandled := handles.unanswered_le
      have unlooked := looks.unanswered_le
      by_cases some : 0 < flight.unanswered
      · have fewer := looks.look_fewer
          (handles.handle_ready (posts.post_ready (makes.make_ready some)))
        omega
      · omega

/-- When every call had its turn, none is waited for any more. -/
theorem fly_lands (carrier : Carrier (StateM σ)) (moves : List Move) (calls : List BatchCall)
    (traffic : Traffic (StateM σ)) (world : σ) {landed : Flight}
    (flown : (carrier.fly (moves ++ Move.inTurn calls.length) (.start calls) traffic world).1.1 =
      .ok landed) : landed.unanswered = 0 := by
  have few : ∀ flight, (carrier.fly moves (.start calls) traffic world).1.1 = .ok flight →
      flight.unanswered ≤ calls.length := by
    apply fly_keeps carrier (fun _ => True)
      fun outcome _ _ => ∀ flight, outcome = .ok flight → flight.unanswered ≤ calls.length
    · intro flight traffic world move outcome later laterWorld fewer _ takes next goesOn
      subst goesOn
      exact Nat.le_trans takes.unanswered_le (fewer flight rfl)
    · exact fun _ _ => trivial
    · intro flight equal
      cases equal
      simp [Flight.unanswered, Flight.start]
  rw [fly_append] at flown
  revert flown few
  rcases carrier.fly moves (.start calls) traffic world with ⟨⟨error | flight, later⟩, laterWorld⟩
  · intro flown
    cases flown
  · intro flown few
    exact fly_inTurn (few flight rfl) flown

end Carrier

end LockGateway
