import Mathlib.Data.List.Forall2
import Mathlib.Data.List.Nodup
import LockGateway.Proofs.Carrier

/-! The course of a batch. Calls take the next numbers as they are made, each request that
is sent is that of one of these calls, and none is sent twice. Every call that was made is
either waited for or answered, so that in the end each gets the reply to its own request. -/

namespace LockGateway

variable {σ α : Type}

/-! ## Numbers -/

/-- The calls with the numbers after a count, one after the other. -/
def NumberedCall.after : (count : Nat) → List BatchCall → List NumberedCall
  | _, [] => []
  | count, call :: rest => { number := count + 1, call } :: after (count + 1) rest

namespace NumberedCall

@[simp] theorem length_after (count : Nat) (calls : List BatchCall) :
    (after count calls).length = calls.length := by
  induction calls generalizing count with
  | nil => rfl
  | cons call rest induction => rw [after, List.length_cons, induction, List.length_cons]

theorem after_append (count : Nat) (early late : List BatchCall) :
    after count (early ++ late) = after count early ++ after (count + early.length) late := by
  induction early generalizing count with
  | nil => rfl
  | cons call rest induction =>
      rw [List.cons_append, after, after, induction, List.length_cons, List.cons_append,
        Nat.add_assoc, Nat.add_comm 1]

theorem after_calls (count : Nat) (calls : List BatchCall) :
    (after count calls).map call = calls := by
  induction calls generalizing count with
  | nil => rfl
  | cons call rest induction => rw [after, List.map_cons, induction]

theorem after_numbers (count : Nat) (calls : List BatchCall) :
    (after count calls).map number = List.range' (count + 1) calls.length := by
  induction calls generalizing count with
  | nil => rfl
  | cons call rest induction =>
      rw [after, List.map_cons, induction, List.length_cons, List.range'_succ]

theorem mem_of_mem_after {count : Nat} {calls : List BatchCall} {made : NumberedCall}
    (member : made ∈ after count calls) : made.call ∈ calls := by
  rw [← after_calls count calls]
  exact List.mem_map_of_mem member

end NumberedCall

open NumberedCall (after)

/-! ## Where the calls are -/

/-- The calls that were made. -/
def Flight.made (flight : Flight) : List NumberedCall :=
  flight.waiting ++ (flight.posted ++ (flight.replied ++ flight.answered).map Prod.fst)

/-- An item that is picked out of one queue stands in the next. -/
theorem perm_of_picked {position : Nat} {queue others next : List α} {item : α}
    (picked : pick? position queue = some (item, others)) :
    (others ++ (next ++ [item])).Perm (queue ++ next) := by
  rw [← List.append_assoc]
  exact List.perm_append_comm.trans ((pick?_perm picked).symm.append_right next)

theorem perm_of_picked_before {position : Nat} {queue others next : List α} {item : α}
    (picked : pick? position queue = some (item, others)) (late : List α) :
    (others ++ (next ++ [item] ++ late)).Perm (queue ++ (next ++ late)) := by
  rw [← List.append_assoc, ← List.append_assoc queue]
  exact (perm_of_picked picked).append_right late

/-- An item that comes last in one part comes last in the whole. -/
theorem perm_of_added (early late : List α) (item : α) :
    (early ++ ([item] ++ late)).Perm (early ++ late ++ [item]) := by
  rw [List.append_assoc]
  exact List.perm_append_comm.append_left early

/-- None of the calls is refused, whatever its number. -/
def Carrier.Accepts (carrier : Carrier (StateM σ)) (calls : List BatchCall) : Prop :=
  ∀ call ∈ calls, ∀ number, carrier.refusal? (NumberedCall.mk number call).request = none

/-- Every request goes out as soon as it is made, if no more than these are on their way. -/
def Carrier.Roomy (carrier : Carrier (StateM σ)) (requests : Nat) : Prop :=
  ∀ onTheWay < requests, carrier.admits onTheWay = true

/-- The course of a batch up to now: which calls were made, and which of their requests
went out. -/
structure Course (carrier : Carrier (StateM σ)) (calls : List BatchCall)
    (before : Traffic (StateM σ)) (flight : Flight) (traffic : Traffic (StateM σ))
    (called : List BatchCall) (out : List NumberedCall) : Prop where
  whole : calls = called ++ flight.uncalled
  counted : traffic.numbered = before.numbered + called.length
  made : flight.made.Perm (after before.numbered called)
  sent : traffic.sent = before.sent ++ out.map NumberedCall.request
  among : (out ++ flight.waiting).Subperm (after before.numbered called)
  complete (accepts : carrier.Accepts calls) : called.length ≤ (out ++ flight.waiting).length
  ordered (accepts : carrier.Accepts calls)
    (roomy : carrier.Roomy (before.undelivered.length + calls.length)) :
    flight.waiting = [] ∧ out = after before.numbered called
  left : traffic.undelivered.length ≤ before.undelivered.length

namespace Course

variable {carrier : Carrier (StateM σ)} {calls called uncalled : List BatchCall}
  {before traffic later : Traffic (StateM σ)}
  {flight next : Flight} {out : List NumberedCall} {call : BatchCall}

theorem start (carrier : Carrier (StateM σ)) (calls : List BatchCall)
    (before : Traffic (StateM σ)) :
    Course carrier calls before (.start calls) before [] [] where
  whole := rfl
  counted := rfl
  made := .refl _
  sent := (List.append_nil _).symm
  among := .refl _
  complete _ := Nat.le_refl _
  ordered _ _ := ⟨rfl, rfl⟩
  left := Nat.le_refl _

/-- The calls that were made take the next numbers. -/
theorem after_next (course : Course carrier calls before flight traffic called out)
    (call : BatchCall) :
    after before.numbered (called ++ [call]) =
      after before.numbered called ++ [traffic.nextCall call] := by
  rw [NumberedCall.after_append, Traffic.nextCall, course.counted]
  rfl

/-- A call is made. -/
theorem make (course : Course carrier calls before flight traffic called out)
    (more : List NumberedCall)
    (taken : flight.uncalled = call :: next.uncalled)
    (counted : later.numbered = traffic.numbered + 1)
    (made : next.made.Perm (flight.made ++ [traffic.nextCall call]))
    (sent : later.sent = traffic.sent ++ more.map NumberedCall.request)
    (among : (more ++ next.waiting).Subperm (flight.waiting ++ [traffic.nextCall call]))
    (complete : carrier.Accepts calls →
      flight.waiting.length + 1 ≤ (more ++ next.waiting).length)
    (ordered : carrier.Accepts calls →
      carrier.Roomy (before.undelivered.length + calls.length) → flight.waiting = [] →
      next.waiting = [] ∧ more = [traffic.nextCall call])
    (left : later.undelivered = traffic.undelivered) :
    Course carrier calls before next later (called ++ [call]) (out ++ more) where
  whole := by
    rw [course.whole, taken, List.append_assoc]
    rfl
  counted := by
    rw [counted, course.counted, List.length_append]
    rfl
  made := by
    rw [course.after_next]
    exact made.trans (course.made.append_right _)
  sent := by
    rw [sent, course.sent, List.map_append, List.append_assoc]
  among := by
    rw [course.after_next, List.append_assoc]
    refine List.Subperm.trans ((List.Subperm.refl out).append among) ?_
    rw [← List.append_assoc]
    exact course.among.append (.refl _)
  complete := by
    intro accepts
    have earlier := course.complete accepts
    have added := complete accepts
    simp only [List.length_append, List.length_cons, List.length_nil] at earlier added ⊢
    omega
  ordered := by
    intro accepts roomy
    rcases course.ordered accepts roomy with ⟨clear, earlier⟩
    rcases ordered accepts roomy clear with ⟨still, added⟩
    exact ⟨still, by rw [earlier, added, course.after_next]⟩
  left := by
    rw [left]
    exact course.left

/-- The calls that were made go on. -/
theorem go (course : Course carrier calls before flight traffic called out)
    (more : List NumberedCall)
    (uncalled : next.uncalled = flight.uncalled) (counted : later.numbered = traffic.numbered)
    (made : next.made.Perm flight.made)
    (sent : later.sent = traffic.sent ++ more.map NumberedCall.request)
    (among : (more ++ next.waiting).Perm flight.waiting)
    (left : later.undelivered.length ≤ traffic.undelivered.length) :
    Course carrier calls before next later called (out ++ more) where
  whole := by rw [uncalled, course.whole]
  counted := by rw [counted, course.counted]
  made := made.trans course.made
  sent := by
    rw [sent, course.sent, List.map_append, List.append_assoc]
  among := by
    rw [List.append_assoc]
    exact (among.append_left out).subperm.trans course.among
  complete := by
    intro accepts
    have earlier := course.complete accepts
    have same := among.length_eq
    simp only [List.length_append] at earlier same ⊢
    omega
  ordered := by
    intro accepts roomy
    rcases course.ordered accepts roomy with ⟨clear, earlier⟩
    rw [clear, List.perm_nil, List.append_eq_nil_iff] at among
    exact ⟨among.2, by rw [among.1, List.append_nil, earlier]⟩
  left := Nat.le_trans left course.left

/-- A call that comes next is one of the calls. -/
theorem mem_calls (course : Course carrier calls before flight traffic called out)
    (taken : flight.uncalled = call :: uncalled) : call ∈ calls := by
  rw [course.whole, taken]
  exact List.mem_append_right _ List.mem_cons_self

/-- What is on its way when a call is made is less than what there was, with all calls. -/
theorem onTheWay_lt (course : Course carrier calls before flight traffic called out)
    (taken : flight.uncalled = call :: uncalled) :
    traffic.undelivered.length + flight.posted.length <
      before.undelivered.length + calls.length := by
  have left := course.left
  have made := course.made.length_eq
  have whole := congrArg List.length course.whole
  rw [taken] at whole
  simp only [Flight.made, List.length_append, List.length_map, List.length_cons,
    NumberedCall.length_after] at made whole
  omega

variable {world laterWorld : σ} {move : Move}

theorem takes (course : Course carrier calls before flight traffic called out)
    (takes : carrier.Takes flight traffic world move (.ok next) later laterWorld) :
    ∃ called out, Course carrier calls before next later called out := by
  cases takes with
  | nothing idle => exact ⟨called, out, course⟩
  | @refused call uncalled error taken refused =>
      have impossible (accepts : carrier.Accepts calls) : False := by
        rw [Traffic.nextCall, accepts call (course.mem_calls taken)] at refused
        cases refused
      refine ⟨_, _, course.make [] taken rfl ?_ (List.append_nil _).symm ?_
        (fun accepts => (impossible accepts).elim) (fun accepts => (impossible accepts).elim) rfl⟩
      · simp only [Flight.made, List.map_append, List.map_cons, List.map_nil, List.append_assoc]
        refine List.Perm.append_left _ (List.Perm.append_left _ ?_)
        exact (perm_of_added _ _ _).trans (.of_eq (List.append_assoc _ _ _))
      · exact (List.sublist_append_left _ _).subperm
  | @sent call uncalled taken accepted clear =>
      refine ⟨_, _, course.make [traffic.nextCall call] taken rfl ?_ rfl ?_ ?_
        (fun _ _ clear => ⟨clear, rfl⟩) rfl⟩
      · simp only [Flight.made, List.append_assoc]
        refine List.Perm.append_left _ ?_
        exact (perm_of_added _ _ _).trans (.of_eq (List.append_assoc _ _ _))
      · rw [clear]
        exact .refl _
      · rw [clear]
        exact fun _ => Nat.le_refl _
  | waits taken accepted full =>
      refine ⟨_, _, course.make [] taken rfl ?_ (List.append_nil _).symm (.refl _) ?_ ?_ rfl⟩
      · exact (List.Perm.of_eq (List.append_assoc _ _ _)).trans (perm_of_added _ _ _)
      · simp
      · intro _ roomy clear
        rcases full with queued | full
        · exact absurd clear queued
        · rw [roomy _ (course.onTheWay_lt taken)] at full
          cases full
  | @posted position made waiting picked =>
      refine ⟨_, _, course.go [made] rfl rfl ?_ rfl (pick?_perm picked).symm (Nat.le_refl _)⟩
      exact perm_of_picked_before picked _
  | @handled position made posted picked =>
      refine ⟨_, _, course.go [] rfl rfl ?_ (List.append_nil _).symm (.refl _) (Nat.le_refl _)⟩
      simp only [Flight.made, List.map_append, List.map_cons, List.map_nil]
      exact (perm_of_picked_before picked _).append_left _
  | answered picked quiet =>
      refine ⟨_, _, course.go [] rfl rfl ?_ (List.append_nil _).symm (.refl _) (Nat.le_refl _)⟩
      exact (((perm_of_picked picked).map Prod.fst).append_left _).append_left _
  | settled position =>
      refine ⟨_, _, course.go [] rfl rfl (.refl _) (List.append_nil _).symm (.refl _) ?_⟩
      exact (List.eraseIdx_sublist _ _).length_le

/-- When no call is waited for any more, all of them were made and answered. -/
theorem landed (course : Course carrier calls before flight traffic called out)
    (landed : flight.unanswered = 0) :
    called = calls ∧ flight.waiting = [] ∧
      (flight.answered.map Prod.fst).Perm (after before.numbered calls) := by
  rcases flight.unanswered_eq_zero_iff.mp landed with ⟨uncalled, waiting, posted, replied⟩
  have whole := course.whole
  rw [uncalled, List.append_nil] at whole
  refine ⟨whole.symm, waiting, ?_⟩
  have made := course.made
  rw [Flight.made, waiting, posted, replied, ← whole] at made
  exact made

end Course

/-! ## Replies -/

/-- No two calls have the same number. -/
theorem NumberedCall.eq_of_number_eq {count : Nat} {calls : List BatchCall}
    {made other : NumberedCall} (member : made ∈ after count calls)
    (otherMember : other ∈ after count calls) (same : made.number = other.number) :
    made = other := by
  have distinct : ((after count calls).map number).Nodup := by
    rw [after_numbers]
    exact List.nodup_range'
  exact List.inj_on_of_nodup_map distinct member otherMember same

/-- The reply to a call is the one that was answered to it. -/
theorem Flight.mem_answered {flight : Flight} {count : Nat} {calls : List BatchCall}
    (answered : (flight.answered.map Prod.fst).Perm (after count calls)) {made : NumberedCall}
    (member : made ∈ after count calls) :
    (made, flight.replyTo made.number) ∈ flight.answered := by
  rcases List.mem_map.mp (answered.mem_iff.mpr member) with ⟨⟨own, reply⟩, present, rfl⟩
  have somewhere : (flight.answered.find? (·.1.number = own.number)).isSome := by
    rw [List.find?_isSome]
    exact ⟨_, present, by simp⟩
  rcases Option.isSome_iff_exists.mp somewhere with ⟨⟨other, given⟩, found⟩
  have foundMember := List.mem_of_find?_eq_some found
  have same : other.number = own.number := by
    simpa using List.find?_some found
  have equal := NumberedCall.eq_of_number_eq
    (answered.mem_iff.mp (List.mem_map_of_mem foundMember)) member same
  subst equal
  rw [replyTo, found]
  exact foundMember

/-- The replies stand in the order of the calls. -/
theorem Flight.replies_eq (flight : Flight) (count : Nat) (calls : List BatchCall) :
    flight.replies count calls.length =
      (after count calls).map fun made => flight.replyTo made.number := by
  rw [replies, ← NumberedCall.after_numbers, List.map_map]
  rfl

/-! ## Whole batches -/

/-- Some calls of a batch were made, and requests of these calls were sent. If there was room
for all of them, they were sent as they were made. -/
structure Logged (carrier : Carrier (StateM σ)) (calls : List BatchCall)
    (before traffic : Traffic (StateM σ))
    (called : List BatchCall) (out : List NumberedCall) : Prop where
  within : called <+: calls
  counted : traffic.numbered = before.numbered + called.length
  sent : traffic.sent = before.sent ++ out.map NumberedCall.request
  among : out.Subperm (after before.numbered called)
  ordered (accepts : carrier.Accepts calls)
    (roomy : carrier.Roomy (before.undelivered.length + calls.length)) :
    out = after before.numbered called

theorem Course.mem_after {carrier : Carrier (StateM σ)} {calls called : List BatchCall}
    {before traffic : Traffic (StateM σ)} {flight : Flight} {out : List NumberedCall}
    {made : NumberedCall} (course : Course carrier calls before flight traffic called out)
    (member : made ∈ flight.made) : made ∈ after before.numbered calls := by
  rw [course.whole, NumberedCall.after_append]
  exact List.mem_append_left _ (course.made.mem_iff.mp member)

theorem Course.logged {carrier : Carrier (StateM σ)} {calls called : List BatchCall}
    {before traffic : Traffic (StateM σ)} {flight : Flight} {out : List NumberedCall}
    (course : Course carrier calls before flight traffic called out) :
    Logged carrier calls before traffic called out where
  within := ⟨flight.uncalled, course.whole.symm⟩
  counted := course.counted
  sent := course.sent
  among := (List.sublist_append_left out flight.waiting).subperm.trans course.among
  ordered accepts roomy := (course.ordered accepts roomy).2

namespace Carrier

/-- Where a batch has come to on its course, up to the first fault. -/
inductive Along (carrier : Carrier (StateM σ)) (calls : List BatchCall)
    (before : Traffic (StateM σ)) (holds : Flight → Traffic (StateM σ) → σ → Prop) :
    Except GatewayError Flight → Traffic (StateM σ) → σ → Prop
  | goes {flight : Flight} {traffic : Traffic (StateM σ)} {world : σ} {called : List BatchCall}
      {out : List NumberedCall} (course : Course carrier calls before flight traffic called out)
      (held : holds flight traffic world) :
      Along carrier calls before holds (.ok flight) traffic world
  | faulted {flight : Flight} {traffic : Traffic (StateM σ)} {world : σ}
      {called : List BatchCall} {out : List NumberedCall} {answer : NumberedCall × Reply}
      {fault : GatewayError} (course : Course carrier calls before flight traffic called out)
      (held : holds flight traffic world) (member : answer ∈ flight.replied)
      (found : answer.1.call.fault? answer.2 = some fault) :
      Along carrier calls before holds (.error fault)
        { traffic with
          undelivered := traffic.undelivered ++
            flight.posted.map fun made => ⟨carrier.deliver, made.request⟩ } world

/-- What every move upholds on the course of a batch holds until the batch has ended. -/
theorem together_along (carrier : Carrier (StateM σ)) {calls : List BatchCall}
    (before : Traffic (StateM σ)) (world : σ) (holds : Flight → Traffic (StateM σ) → σ → Prop)
    (allowed : Move → Prop)
    (keeps : ∀ {flight next traffic later world laterWorld called out move},
      Course carrier calls before flight traffic called out → holds flight traffic world →
      allowed move → carrier.Takes flight traffic world move (.ok next) later laterWorld →
      holds next later laterWorld)
    (all : ∀ move ∈ carrier.moves before calls.length ++ Move.inTurn calls.length, allowed move)
    (starts : holds (.start calls) before world) :
    let ended := carrier.together calls before world
    ∃ flown : Except GatewayError Flight,
      ended.1.1 = flown.map (·.replies before.numbered calls.length) ∧
        carrier.Along calls before holds flown ended.1.2 ended.2 ∧
        ∀ landed, flown = .ok landed → landed.unanswered = 0 := by
  let moves := carrier.moves before calls.length ++ Move.inTurn calls.length
  let flown := carrier.fly moves (.start calls) before world
  have along : carrier.Along calls before holds flown.1.1 flown.1.2 flown.2 := by
    refine fly_keeps carrier allowed (carrier.Along calls before holds) ?_ all
      (.goes (.start carrier calls before) starts)
    intro flight traffic world move outcome later laterWorld along may takes
    cases along with
    | goes course held =>
        cases outcome with
        | ok next =>
            rcases course.takes takes with ⟨called, out, further⟩
            exact .goes further (keeps course held may takes)
        | error fault =>
            cases takes with
            | faulted picked found =>
                exact .faulted course held
                  ((pick?_perm picked).mem_iff.mpr List.mem_cons_self) found
  exact ⟨flown.1.1, rfl, along, fun landed =>
    carrier.fly_lands (carrier.moves before calls.length) calls before world⟩

variable {carrier : Carrier (StateM σ)} {calls : List BatchCall}
  {before traffic later : Traffic (StateM σ)} {holds : NumberedCall → Reply → Prop}

/-- How a batch ends. Either all its calls are answered, each by a reply to its own request
that is no fault, or the reply to one of them is at fault. -/
inductive Ends (carrier : Carrier (StateM σ)) (holds : NumberedCall → Reply → Prop)
    (calls : List BatchCall) (before : Traffic (StateM σ)) :
    Except GatewayError (List Reply) → Traffic (StateM σ) → Prop
  | answered {replies : List Reply} {traffic : Traffic (StateM σ)} {out : List NumberedCall}
      (logged : Logged carrier calls before traffic calls out)
      (complete : carrier.Accepts calls → out.Perm (after before.numbered calls))
      (left : traffic.undelivered.length ≤ before.undelivered.length)
      (own : List.Forall₂ (fun made reply => holds made reply ∧ made.call.fault? reply = none)
        (after before.numbered calls) replies) :
      Ends carrier holds calls before (.ok replies) traffic
  | faulted {traffic : Traffic (StateM σ)} {called : List BatchCall} {out : List NumberedCall}
      {made : NumberedCall} {reply : Reply} {fault : GatewayError}
      (logged : Logged carrier calls before traffic called out)
      (member : made ∈ after before.numbered calls) (own : holds made reply)
      (found : made.call.fault? reply = some fault) :
      Ends carrier holds calls before (.error fault) traffic

/-- Whatever comes back for one of the calls is a reply to it. -/
structure Replies (carrier : Carrier (StateM σ)) (holds : NumberedCall → Reply → Prop)
    (calls : List BatchCall) : Prop where
  refused {made : NumberedCall} (member : made.call ∈ calls) {error : GatewayError}
    (refused : carrier.refusal? made.request = some error) : holds made (.error error)
  delivered {made : NumberedCall} (member : made.call ∈ calls) (world : σ) :
    holds made (carrier.deliver made.request world).1

/-- The replies at hand are replies to their own calls, and no fault if the gateway has
looked at them. -/
structure Own (holds : NumberedCall → Reply → Prop) (flight : Flight) : Prop where
  replied : ∀ answer ∈ flight.replied, holds answer.1 answer.2
  answered : ∀ answer ∈ flight.answered,
    holds answer.1 answer.2 ∧ answer.1.call.fault? answer.2 = none

variable {flight next : Flight} {world laterWorld : σ} {move : Move} {called : List BatchCall}
  {out : List NumberedCall}

theorem mem_made_of_replied {answer : NumberedCall × Reply} (member : answer ∈ flight.replied) :
    answer.1 ∈ flight.made := by
  refine List.mem_append_right _ (List.mem_append_right _ ?_)
  exact List.mem_map_of_mem (List.mem_append_left _ member)

theorem Own.takes (own : Own holds flight) (replies : carrier.Replies holds calls)
    (course : Course carrier calls before flight traffic called out)
    (takes : carrier.Takes flight traffic world move (.ok next) later laterWorld) :
    Own holds next := by
  cases takes with
  | nothing _ | sent _ _ _ | waits _ _ _ | posted _ | settled _ => exact ⟨own.replied, own.answered⟩
  | @refused call uncalled error taken refused =>
      refine ⟨List.forall_mem_append.mpr ⟨own.replied, ?_⟩, own.answered⟩
      rw [List.forall_mem_singleton]
      exact replies.refused (course.mem_calls taken) refused
  | @handled position made posted picked =>
      refine ⟨List.forall_mem_append.mpr ⟨own.replied, ?_⟩, own.answered⟩
      rw [List.forall_mem_singleton]
      have member : made ∈ flight.posted := (pick?_perm picked).mem_iff.mpr List.mem_cons_self
      have known := course.mem_after
        (List.mem_append_right flight.waiting (List.mem_append_left _ member))
      exact replies.delivered (NumberedCall.mem_of_mem_after known) world
  | @answered position answer replied picked quiet =>
      have replied := own.replied
      simp only [(pick?_perm picked).mem_iff, List.forall_mem_cons] at replied
      refine ⟨replied.2, List.forall_mem_append.mpr ⟨own.answered, ?_⟩⟩
      rw [List.forall_mem_singleton]
      exact ⟨replied.1, quiet⟩

/-- When every call had its turn, the batch has ended. -/
theorem together_ends (replies : carrier.Replies holds calls) (traffic : Traffic (StateM σ))
    (world : σ) :
    carrier.Ends holds calls traffic (carrier.together calls traffic world).1.1
      (carrier.together calls traffic world).1.2 := by
  have starts : Own holds (.start calls) := by
    refine ⟨fun _ member => ?_, fun _ member => ?_⟩
    · cases member
    · cases member
  rcases carrier.together_along traffic world (fun flight _ _ => Own holds flight) (fun _ => True)
    (fun course own _ takes => own.takes replies course takes) (fun _ _ => trivial) starts with
    ⟨flown, outcome, along, lands⟩
  rw [outcome]
  revert along
  generalize (carrier.together calls traffic world).1.2 = later,
    (carrier.together calls traffic world).2 = laterWorld
  intro along
  cases along with
  | faulted course own member found =>
      exact .faulted { course.logged with } (course.mem_after (mem_made_of_replied member))
        (own.replied _ member) found
  | @goes landed _ _ called out course own =>
      rcases course.landed (lands landed rfl) with ⟨rfl, waiting, answered⟩
      refine .answered course.logged ?_ course.left ?_
      · intro accepts
        have complete := course.complete accepts
        have among := course.among
        rw [waiting, List.append_nil] at complete among
        exact among.perm_of_length_le (by rwa [NumberedCall.length_after])
      · dsimp only
        rw [landed.replies_eq, List.forall₂_map_right_iff, List.forall₂_same]
        exact fun made member => own.answered _ (landed.mem_answered answered member)

end Carrier

end LockGateway
