import LockGateway.Proofs.Connection.Numbering
import LockGateway.Proofs.Relay.Node

/-! Batches of calls that are put to a node. Whatever happens when, each call is due one reply,
and the node sees the whole batch if only a fault in the last of them could keep the gateway
from waiting for the others: in order the last call is the last that the node sees. Without an
order no call may be at fault. -/

namespace LockGateway

open NumberedCall (after)

open Node (Seen Grows Bears)

/-! ## A batch and its answers -/

def NumberedCall.asked (made : NumberedCall) : String × Json := made.call.asked

/-- A call in a batch with its number stands behind as many calls. -/
theorem NumberedCall.place_after {count : Nat} {calls : List BatchCall}
    {early late : List NumberedCall} {made : NumberedCall}
    (split : early ++ made :: late = after count calls) :
    made.number = count + 1 + early.length ∧ calls.take early.length = early.map call := by
  induction early generalizing count calls with
  | nil =>
      cases calls with
      | nil => cases split
      | cons first rest =>
          cases split
          exact ⟨rfl, rfl⟩
  | cons head early induction =>
      cases calls with
      | nil => cases split
      | cons first rest =>
          rw [List.cons_append, after, List.cons.injEq] at split
          rcases induction split.2 with ⟨number, taken⟩
          rw [split.1]
          refine ⟨?_, congrArg (first :: ·) taken⟩
          rw [number, List.length_cons]
          omega

theorem NumberedCall.requests_concat (early late : List NumberedCall) (made : NumberedCall) :
    (early ++ (late ++ [made])).map request = (early ++ late).map request ++ [made.request] := by
  rw [← List.append_assoc, List.map_append]
  rfl

/-- A batch that is put to a node over a connection. -/
structure Node.Sitting (node : Node) where
  backend : Backend (StateM Seen)
  /-- Whether the calls reach the node in the order in which they are made. -/
  orderly : Bool
  calls : List BatchCall
  seen : Seen
  traffic : Traffic (StateM Seen)

namespace Node.Sitting

variable {node : Node}

/-- The calls with the numbers of their requests. -/
def made (sitting : node.Sitting) : List NumberedCall :=
  after sitting.traffic.numbered sitting.calls

/-- What the node replies to a call. Without an order, the calls that it has seen of the
batch make no difference. -/
def due (sitting : node.Sitting) (made : NumberedCall) : Reply :=
  let earlier :=
    if sitting.orderly then sitting.calls.take (made.number - (sitting.traffic.numbered + 1))
    else []
  node (sitting.seen ++ earlier.map BatchCall.asked) made.call.method (.list made.call.params)

/-- What the gateway gets of that. -/
def reply (sitting : node.Sitting) (made : NumberedCall) : Reply :=
  sitting.backend.passOn made.request.id (sitting.due made)

/-- What is known of a batch before it is put to the node. -/
structure Opens (sitting : node.Sitting) : Prop where
  fronts : sitting.backend.Fronts node.receive
  gathered : BatchCall.Gathered sitting.calls
  left : sitting.traffic.undelivered = []
  inOrder (orderly : sitting.orderly = true) : sitting.backend.carrier.schedule.InOrder
  indifferent (anyOrder : sitting.orderly = false) : node.Indifferent

variable {sitting : node.Sitting}

/-- Some calls came before a call, and no others if they reach the node in order. -/
structure Precede (sitting : node.Sitting) (handled : List NumberedCall) (next : NumberedCall) :
    Prop where
  among : (handled ++ [next]).Subperm sitting.made
  inOrder (orderly : sitting.orderly = true) : ∃ later, handled ++ next :: later = sitting.made

theorem Precede.due_eq (opens : sitting.Opens) {handled : List NumberedCall} {next : NumberedCall}
    (precede : sitting.Precede handled next) :
    node (sitting.seen ++ handled.map NumberedCall.asked) next.call.method
      (.list next.call.params) = sitting.due next := by
  have asked : handled.map NumberedCall.asked =
      (handled.map NumberedCall.call).map BatchCall.asked := by
    rw [List.map_map]
    rfl
  rw [asked, due]
  cases orderly : sitting.orderly with
  | false =>
      have among := precede.among
      rcases among with ⟨same, perm, sublist⟩
      have calls : (handled.map NumberedCall.call ++ [next.call]).Subperm sitting.calls := by
        rw [← NumberedCall.after_calls sitting.traffic.numbered sitting.calls]
        exact ⟨_, (perm.map NumberedCall.call).trans (.of_eq List.map_append),
          sublist.map NumberedCall.call⟩
      rw [(opens.indifferent orderly).within opens.gathered.joined calls]
      simp
  | true =>
      rcases precede.inOrder orderly with ⟨later, split⟩
      rcases NumberedCall.place_after split with ⟨number, taken⟩
      have place : next.number - (sitting.traffic.numbered + 1) = handled.length := by omega
      rw [if_pos rfl, place, taken]

theorem mem_calls {next : NumberedCall} (member : next ∈ sitting.made) :
    next.call ∈ sitting.calls :=
  NumberedCall.mem_of_mem_after member

theorem Opens.passes (opens : sitting.Opens) {next : NumberedCall} (member : next ∈ sitting.made) :
    PassesRelay next.call.method (.list next.call.params) :=
  (opens.gathered.relayable _ (mem_calls member)).passes

theorem Opens.accepts (opens : sitting.Opens) : sitting.backend.carrier.Accepts sitting.calls :=
  sitting.backend.accepts_of_relayable opens.gathered.relayable

/-! ## The course of a batch -/

/-- What the node has seen of a batch up to now, and replied to it. -/
structure Served (sitting : node.Sitting) (handled : List NumberedCall) (flight : Flight)
    (traffic : Traffic (StateM Seen)) (seen : Seen) : Prop where
  seen_eq : seen = sitting.seen ++ handled.map NumberedCall.asked
  replied : ((flight.replied ++ flight.answered).map Prod.fst).Perm handled
  own : ∀ answer ∈ flight.replied ++ flight.answered, answer.2 = sitting.reply answer.1
  quiet : ∀ answer ∈ flight.answered, answer.1.call.fault? answer.2 = none
  left : traffic.undelivered = []
  inOrder (orderly : sitting.orderly = true) :
    handled ++ (flight.posted ++ (flight.waiting ++ after traffic.numbered flight.uncalled)) =
        sitting.made ∧
      traffic.sent =
        sitting.traffic.sent ++ (handled ++ flight.posted).map NumberedCall.request

namespace Served

variable {handled : List NumberedCall} {flight next : Flight}
  {traffic later : Traffic (StateM Seen)} {seen laterSeen : Seen} {called : List BatchCall}
  {out : List NumberedCall} {move : Move}

theorem start (opens : sitting.Opens) :
    sitting.Served [] (.start sitting.calls) sitting.traffic sitting.seen where
  seen_eq := (List.append_nil _).symm
  replied := .refl _
  own answer member := by cases member
  quiet answer member := by cases member
  left := opens.left
  inOrder _ := ⟨rfl, (List.append_nil _).symm⟩

/-- Of the calls that were made some wait, some are posted, and the node has seen the
others. -/
theorem all (served : sitting.Served handled flight traffic seen)
    (course : Course sitting.backend.carrier sitting.calls sitting.traffic
      flight traffic called out) :
    (handled ++ (flight.posted ++ (flight.waiting ++ after traffic.numbered flight.uncalled))).Perm
      sitting.made := by
  have made := course.made
  have whole : sitting.made =
      after sitting.traffic.numbered called ++ after traffic.numbered flight.uncalled := by
    rw [Sitting.made, course.whole, NumberedCall.after_append, course.counted]
  rw [whole, ← List.append_assoc, ← List.append_assoc]
  refine List.Perm.append_right _ (List.Perm.trans ?_ made)
  rw [Flight.made, List.append_assoc]
  refine (List.perm_append_comm.trans (List.Perm.append_right _ List.perm_append_comm)).trans ?_
  rw [List.append_assoc]
  exact (served.replied.symm.append_left _).append_left _

/-- A call that is posted comes after those that the node has seen, and in order right
after them. -/
theorem precedes (served : sitting.Served handled flight traffic seen)
    (course : Course sitting.backend.carrier sitting.calls sitting.traffic
      flight traffic called out) {position : Nat}
    (front : sitting.orderly = true → position = 0) {made : NumberedCall}
    {posted : List NumberedCall} (picked : pick? position flight.posted = some (made, posted)) :
    sitting.Precede handled made := by
  have all := served.all course
  constructor
  · refine List.Subperm.trans ?_ all.subperm
    refine List.Subperm.append (.refl _) ?_
    exact (List.singleton_subperm_iff.mpr (List.mem_append_left _
      ((pick?_perm picked).mem_iff.mpr List.mem_cons_self)))
  · intro orderly
    rw [front orderly] at picked
    have placed := (served.inOrder orderly).1
    rw [pick?_front picked] at placed
    exact ⟨_, placed⟩

/-- The node sees a call, and replies what is due. -/
theorem handles (served : sitting.Served handled flight traffic seen) (opens : sitting.Opens)
    (course : Course sitting.backend.carrier sitting.calls sitting.traffic
      flight traffic called out) {position : Nat}
    (front : sitting.orderly = true → position = 0) {made : NumberedCall}
    {posted : List NumberedCall} (picked : pick? position flight.posted = some (made, posted)) :
    let delivered := sitting.backend.carrier.deliver made.request seen
    ∃ handled, sitting.Served handled
      { flight with posted, replied := flight.replied ++ [(made, delivered.1)] } traffic
      delivered.2 := by
  have precede := served.precedes course front picked
  have member : made ∈ sitting.made :=
    precede.among.subset (List.mem_append_right _ (List.mem_singleton_self made))
  have delivered := opens.fronts.delivers (UInt64.ofNat made.number) (opens.passes member) seen
  change sitting.backend.carrier.deliver made.request seen = _ at delivered
  rw [delivered, served.seen_eq, precede.due_eq opens]
  refine ⟨handled ++ [made], ?_, ?_, ?_, served.quiet, served.left, ?_⟩
  · rw [List.map_append, List.append_assoc]
    rfl
  · dsimp only
    rw [List.append_assoc, List.map_append, List.map_append]
    refine List.Perm.trans ?_ (served.replied.append_right [made])
    rw [List.map_append, List.append_assoc]
    exact List.Perm.append_left _ List.perm_append_comm
  · intro answer member
    dsimp only at member
    rw [List.mem_append, List.mem_append, List.mem_singleton] at member
    rcases member with (replied | rfl) | answered
    · exact served.own answer (List.mem_append_left _ replied)
    · rfl
    · exact served.own answer (List.mem_append_right _ answered)
  · intro orderly
    rcases served.inOrder orderly with ⟨placed, sent⟩
    rw [front orderly] at picked
    rw [pick?_front picked] at placed sent
    refine ⟨?_, ?_⟩
    · rw [← placed, List.append_assoc]
      rfl
    · rw [sent, List.append_assoc handled]
      rfl

theorem takes (served : sitting.Served handled flight traffic seen) (opens : sitting.Opens)
    (course : Course sitting.backend.carrier sitting.calls sitting.traffic
      flight traffic called out)
    (allowed : sitting.orderly = true → move.InOrder)
    (takes : sitting.backend.carrier.Takes flight traffic seen move (.ok next) later laterSeen) :
    ∃ handled, sitting.Served handled next later laterSeen := by
  cases takes with
  | nothing idle => exact ⟨handled, served⟩
  | @refused call uncalled error taken refused =>
      rw [Traffic.nextCall, opens.accepts call (course.mem_calls taken)] at refused
      cases refused
  | @sent call uncalled taken accepted clear =>
      refine ⟨handled, served.seen_eq, served.replied, served.own, served.quiet, served.left, ?_⟩
      intro orderly
      rcases served.inOrder orderly with ⟨placed, sent⟩
      rw [taken, clear] at placed
      refine ⟨?_, ?_⟩
      · rw [← placed, clear, List.append_assoc]
        rfl
      · dsimp only
        rw [sent, List.append_assoc, NumberedCall.requests_concat]
  | @waits call uncalled taken accepted full =>
      refine ⟨handled, served.seen_eq, served.replied, served.own, served.quiet, served.left, ?_⟩
      intro orderly
      rcases served.inOrder orderly with ⟨placed, sent⟩
      rw [taken] at placed
      refine ⟨?_, sent⟩
      rw [← placed, List.append_assoc flight.waiting]
      rfl
  | @posted position made waiting picked =>
      refine ⟨handled, served.seen_eq, served.replied, served.own, served.quiet, served.left, ?_⟩
      intro orderly
      rcases served.inOrder orderly with ⟨placed, sent⟩
      have front : position = 0 := allowed orderly
      subst front
      rw [pick?_front picked] at placed
      refine ⟨?_, ?_⟩
      · rw [← placed, List.append_assoc flight.posted]
        rfl
      · dsimp only
        rw [sent, List.append_assoc, NumberedCall.requests_concat]
  | handled picked => exact served.handles opens course allowed picked
  | @answered position answer replied picked quiet =>
      have moved : (replied ++ (flight.answered ++ [answer])).Perm
          (flight.replied ++ flight.answered) := perm_of_picked picked
      refine ⟨handled, served.seen_eq, (moved.map Prod.fst).trans served.replied, ?_, ?_,
        served.left, served.inOrder⟩
      · exact fun other member => served.own other (moved.mem_iff.mp member)
      · exact List.forall_mem_append.mpr ⟨served.quiet, List.forall_mem_singleton.mpr quiet⟩
  | settled position =>
      refine ⟨handled, ?_, served.replied, served.own, served.quiet, ?_, served.inOrder⟩
      · rw [served.left]
        exact served.seen_eq
      · dsimp only
        rw [served.left]
        rfl

end Served

/-! ## The end of a batch -/

/-- How a batch ends: with calls that the node has seen, and others that it has not. -/
structure Settles (sitting : node.Sitting) (handled unhandled : List NumberedCall)
    (outcome : Except GatewayError (List Reply)) (traffic : Traffic (StateM Seen))
    (seen : Seen) : Prop where
  seen_eq : seen = sitting.seen ++ handled.map NumberedCall.asked
  all : (handled ++ unhandled).Perm sitting.made
  inOrder (orderly : sitting.orderly = true) : handled ++ unhandled = sitting.made
  sent (none : unhandled = []) : ∃ out, out.Perm sitting.made ∧
    (sitting.orderly = true → out = sitting.made) ∧
      traffic.sent = sitting.traffic.sent ++ out.map NumberedCall.request
  counted (none : unhandled = []) :
    traffic.numbered = sitting.traffic.numbered + sitting.calls.length
  left (none : unhandled = []) : traffic.undelivered = []
  outcome :
    (unhandled = [] ∧ outcome = .ok (sitting.made.map sitting.reply) ∧
        ∀ made ∈ sitting.made, made.call.fault? (sitting.reply made) = none) ∨
      ∃ made ∈ handled, ∃ fault,
        made.call.fault? (sitting.reply made) = some fault ∧ outcome = .error fault

theorem Served.settles {handled : List NumberedCall} {flight : Flight}
    {traffic later : Traffic (StateM Seen)} {seen : Seen} {called : List BatchCall}
    {out : List NumberedCall} {outcome : Except GatewayError (List Reply)}
    (served : sitting.Served handled flight traffic seen) (opens : sitting.Opens)
    (course : Course sitting.backend.carrier sitting.calls sitting.traffic
      flight traffic called out)
    (sent : later.sent = traffic.sent) (numbered : later.numbered = traffic.numbered)
    (left : flight.posted = [] → later.undelivered = [])
    (ends :
      (flight.unanswered = 0 ∧ outcome = .ok (sitting.made.map sitting.reply) ∧
          ∀ made ∈ sitting.made, made.call.fault? (sitting.reply made) = none) ∨
        ∃ made ∈ handled, ∃ fault,
          made.call.fault? (sitting.reply made) = some fault ∧ outcome = .error fault) :
    ∃ unhandled, sitting.Settles handled unhandled outcome later seen := by
  let unhandled := flight.posted ++ (flight.waiting ++ after traffic.numbered flight.uncalled)
  have empty (none : unhandled = []) :
      flight.posted = [] ∧ flight.waiting = [] ∧ called = sitting.calls := by
    rw [List.append_eq_nil_iff, List.append_eq_nil_iff] at none
    have uncalled := congrArg List.length none.2.2
    rw [NumberedCall.length_after] at uncalled
    have whole := course.whole
    rw [List.eq_nil_of_length_eq_zero uncalled, List.append_nil] at whole
    exact ⟨none.1, none.2.1, whole.symm⟩
  refine ⟨unhandled, served.seen_eq, served.all course, fun orderly => (served.inOrder orderly).1,
    ?_, ?_, fun none => left (empty none).1, ?_⟩
  · intro none
    rcases empty none with ⟨posted, waiting, rfl⟩
    rw [sent]
    cases orderly : sitting.orderly with
    | true =>
        rcases served.inOrder orderly with ⟨placed, sent⟩
        rw [posted, List.append_nil] at sent
        have all : handled = sitting.made := by
          rw [← placed]
          exact (List.append_nil _).symm.trans (congrArg (handled ++ ·) none.symm)
        exact ⟨handled, .of_eq all, fun _ => all, sent⟩
    | false =>
        have among := course.among
        have complete := course.complete opens.accepts
        rw [waiting, List.append_nil] at among complete
        refine ⟨out, among.perm_of_length_le ?_, fun same => ?_, course.sent⟩
        · rwa [NumberedCall.length_after]
        · cases same
  · intro none
    rw [numbered, course.counted, (empty none).2.2]
  · refine ends.imp_left ?_
    intro ended
    rcases ended with ⟨landed, answered⟩
    refine ⟨?_, answered⟩
    rcases flight.unanswered_eq_zero_iff.mp landed with ⟨uncalled, waiting, posted, _⟩
    change flight.posted ++ (flight.waiting ++ after traffic.numbered flight.uncalled) = []
    rw [uncalled, waiting, posted]
    rfl

theorem Opens.together_settles (opens : sitting.Opens) :
    let ended := sitting.backend.caller.callTogether sitting.calls sitting.traffic sitting.seen
    ∃ handled unhandled, sitting.Settles handled unhandled ended.1.1 ended.1.2 ended.2 := by
  have allowed : ∀ move ∈ sitting.backend.carrier.moves sitting.traffic sitting.calls.length ++
      Move.inTurn sitting.calls.length, sitting.orderly = true → move.InOrder := by
    intro move member orderly
    rcases List.mem_append.mp member with early | late
    · exact opens.inOrder orderly _ _ _ move early
    · exact Move.inTurn_inOrder _ move late
  rcases sitting.backend.carrier.together_along sitting.traffic sitting.seen
    (fun flight traffic seen => ∃ handled, sitting.Served handled flight traffic seen)
    (fun move => sitting.orderly = true → move.InOrder)
    (fun course ⟨_, served⟩ may takes => served.takes opens course may takes) allowed
    ⟨[], .start opens⟩ with ⟨flown, outcome, along, lands⟩
  have same : sitting.backend.caller.callTogether sitting.calls =
      sitting.backend.carrier.together sitting.calls := rfl
  rw [same]
  dsimp only at outcome along ⊢
  rw [outcome]
  revert along
  generalize (sitting.backend.carrier.together sitting.calls sitting.traffic
      sitting.seen).1.2 = later,
    (sitting.backend.carrier.together sitting.calls sitting.traffic sitting.seen).2 = seen
  intro along
  cases along with
  | @faulted flight traffic _ called out answer fault course served member found =>
      rcases served with ⟨handled, served⟩
      refine ⟨handled, served.settles opens course rfl rfl ?_ (.inr ⟨answer.1, ?_, fault, ?_, rfl⟩)⟩
      · intro none
        dsimp only
        rw [served.left, none]
        rfl
      · exact served.replied.mem_iff.mp (List.mem_map_of_mem (List.mem_append_left _ member))
      · rw [← served.own answer (List.mem_append_left _ member)]
        exact found
  | @goes landed _ _ called out course served =>
      rcases served with ⟨handled, served⟩
      have none := lands landed rfl
      have answered := (course.landed none).2.2
      have replied (made : NumberedCall) (member : made ∈ sitting.made) :
          landed.replyTo made.number = sitting.reply made ∧
            made.call.fault? (sitting.reply made) = Option.none := by
        have present := landed.mem_answered answered member
        have own := served.own _ (List.mem_append_right _ present)
        dsimp only at own
        rw [← own]
        exact ⟨rfl, served.quiet _ present⟩
      refine ⟨handled, served.settles opens course rfl rfl (fun _ => served.left)
        (.inl ⟨none, ?_, fun made member => (replied made member).2⟩)⟩
      change Except.ok (landed.replies _ _) = _
      rw [landed.replies_eq]
      exact congrArg Except.ok (List.map_congr_left fun made member => (replied made member).1)

/-! ## Complete batches -/

/-- The node answers the calls, and its answers can be read as far as this matters. -/
structure Sound (sitting : node.Sitting) (handled : List NumberedCall) : Prop where
  answers : ∀ made ∈ handled, ∃ response, sitting.due made = .ok response
  readable : ∀ made ∈ handled, (sitting.orderly = true → made ∈ sitting.made.dropLast) →
    made.call.fault? (sitting.due made) = none

/-- What a batch comes to if no call but the last may be at fault. -/
def verdict (sitting : node.Sitting) : Except GatewayError (List Reply) :=
  match sitting.made.getLast?.bind fun last => last.call.fault? (sitting.reply last) with
  | some fault => .error fault
  | none => .ok (sitting.made.map sitting.reply)

/-- A batch of which the node has seen all calls. -/
structure Completes (sitting : node.Sitting) (outcome : Except GatewayError (List Reply))
    (traffic : Traffic (StateM Seen)) (seen : Seen) : Prop where
  outcome : outcome = sitting.verdict
  sound : sitting.Sound sitting.made
  saw : ∃ handled, handled.Perm sitting.made ∧
    (sitting.orderly = true → handled = sitting.made) ∧
      seen = sitting.seen ++ handled.map NumberedCall.asked
  sent : ∃ out, out.Perm sitting.made ∧ (sitting.orderly = true → out = sitting.made) ∧
    traffic.sent = sitting.traffic.sent ++ out.map NumberedCall.request
  counted : traffic.numbered = sitting.traffic.numbered + sitting.calls.length
  left : traffic.undelivered = []

theorem Opens.reply_alike (opens : sitting.Opens) {made : NumberedCall}
    (member : made ∈ sitting.made) (answers : ∃ response, sitting.due made = .ok response) :
    (sitting.due made).Alike (sitting.reply made) ∧
      made.call.fault? (sitting.reply made) = made.call.fault? (sitting.due made) := by
  rcases answers with ⟨response, answered⟩
  have alike : (sitting.due made).Alike (sitting.reply made) := by
    rw [reply, answered]
    exact sitting.backend.passOn_alike _ response
  exact ⟨alike, (opens.gathered.relayable _ (mem_calls member)).same alike⟩

namespace Settles

variable {handled unhandled : List NumberedCall} {outcome : Except GatewayError (List Reply)}
  {traffic : Traffic (StateM Seen)} {seen : Seen}

theorem mem_made (settles : sitting.Settles handled unhandled outcome traffic seen)
    {made : NumberedCall} (member : made ∈ handled) : made ∈ sitting.made :=
  settles.all.mem_iff.mp (List.mem_append_left _ member)

/-- What a node that serves all that it is asked replies to a batch is sound. -/
theorem sound (settles : sitting.Settles handled unhandled outcome traffic seen)
    (opens : sitting.Opens) (serves : node.Serves sitting.orderly seen) :
    sitting.Sound handled := by
  have asked (made : NumberedCall) (member : made ∈ handled) : ∃ early later : Seen,
      seen = early ++ made.asked :: later ∧
        node early made.call.method (.list made.call.params) = sitting.due made := by
    rcases List.append_of_mem member with ⟨early, later, rfl⟩
    have precede : sitting.Precede early made := by
      refine ⟨List.Subperm.trans ?_ settles.all.subperm, fun orderly => ?_⟩
      · rw [List.append_assoc]
        exact ((List.singleton_sublist.mpr List.mem_cons_self).append_left early).subperm
      · exact ⟨later ++ unhandled, by rw [← settles.inOrder orderly, List.append_assoc]; rfl⟩
    refine ⟨sitting.seen ++ early.map NumberedCall.asked, later.map NumberedCall.asked, ?_,
      precede.due_eq opens⟩
    rw [settles.seen_eq, List.map_append, List.append_assoc]
    rfl
  refine ⟨fun made member => ?_, fun made member trusted => ?_⟩
  · rcases asked made member with ⟨early, later, split, due⟩
    rw [← due]
    exact serves.answers split
  · rcases asked made member with ⟨early, later, split, due⟩
    rw [← due]
    refine serves.readable ⟨sitting.calls, opens.gathered.joined, ?_⟩ split
    cases orderly : sitting.orderly with
    | false => exact mem_calls (settles.mem_made member)
    | true =>
        have among := List.mem_map_of_mem (f := NumberedCall.call) (trusted orderly)
        rwa [List.map_dropLast, Sitting.made, NumberedCall.after_calls] at among

/-- A sound batch is seen by the node as a whole. -/
theorem completes (settles : sitting.Settles handled unhandled outcome traffic seen)
    (opens : sitting.Opens) (sound : sitting.Sound handled) :
    sitting.Completes outcome traffic seen := by
  have faulty {made : NumberedCall} (member : made ∈ handled) {fault : GatewayError}
      (found : made.call.fault? (sitting.reply made) = some fault) :
      sitting.orderly = true ∧ made ∉ sitting.made.dropLast := by
    rw [(opens.reply_alike (settles.mem_made member) (sound.answers made member)).2] at found
    have trusted := mt (sound.readable made member) (by rw [found]; exact Option.some_ne_none _)
    rwa [Classical.not_imp] at trusted
  have none : unhandled = [] := by
    rcases settles.outcome with ⟨none, _⟩ | ⟨made, member, fault, found, _⟩
    · exact none
    · rcases faulty member found with ⟨orderly, last⟩
      by_contra some
      apply last
      rw [← settles.inOrder orderly, List.dropLast_append_of_ne_nil some]
      exact List.mem_append_left _ member
  have all := settles.all
  have inOrder := settles.inOrder
  rw [none, List.append_nil] at all inOrder
  have whole : sitting.Sound sitting.made :=
    ⟨fun made member => sound.answers made (all.mem_iff.mpr member),
      fun made member => sound.readable made (all.mem_iff.mpr member)⟩
  refine ⟨?_, whole, ⟨handled, all, inOrder, settles.seen_eq⟩, settles.sent none,
    settles.counted none, settles.left none⟩
  rcases settles.outcome with ⟨_, answered, quiet⟩ | ⟨made, member, fault, found, faulted⟩
  · rw [verdict, answered]
    cases last : sitting.made.getLast? with
    | none => rfl
    | some last =>
        rw [Option.bind_some, quiet _ (List.mem_of_getLast? ‹_›)]
  · have last : sitting.made.getLast? = some made := by
      have present := settles.mem_made member
      have some := List.ne_nil_of_mem present
      rw [← List.dropLast_append_getLast some, List.mem_append, List.mem_singleton] at present
      rw [present.resolve_left (faulty member found).2]
      exact List.getLast?_eq_some_getLast some
    rw [verdict, last, Option.bind_some, found, faulted]

end Settles

end Node.Sitting

end LockGateway
