import LockGateway.Proofs.Relay.Sitting

/-! Two connections to a node, one of them in the same process. What the node serves over the
one it serves over the other: every query comes to the same, and the node sees the same calls,
up to the order of batches unless they are orderly. -/

namespace LockGateway

open NumberedCall (after)

open Node (Seen Grows Bears)

/-- The same call under the next number. -/
def NumberedCall.next (made : NumberedCall) : NumberedCall :=
  { made with number := made.number + 1 }

theorem NumberedCall.next_injective : Function.Injective next := by
  intro made other equal
  rcases made with ⟨number, call⟩
  rcases other with ⟨otherNumber, otherCall⟩
  cases equal
  rfl

theorem NumberedCall.after_succ (count : Nat) (calls : List BatchCall) :
    after (count + 1) calls = (after count calls).map next := by
  induction calls generalizing count with
  | nil => rfl
  | cons call rest induction => exact congrArg (_ :: ·) (induction (count + 1))

namespace Node.Sitting

variable {node : Node} {sitting : node.Sitting}

/-! ## Batches -/

/-- The same batch in the same process and over another connection, which is one number
ahead. The node has seen the same calls before, up to the order of batches. -/
structure Images (sitting image : node.Sitting) : Prop where
  direct : sitting.backend.isRelay = false
  orderly : image.orderly = sitting.orderly
  calls : image.calls = sitting.calls
  seen : Reordered id sitting.orderly sitting.seen image.seen
  traffic : sitting.traffic.Shifted sitting.orderly image.traffic

namespace Images

variable {image : node.Sitting}

theorem made_eq (images : sitting.Images image) :
    image.made = sitting.made.map NumberedCall.next := by
  rw [made, made, images.calls, images.traffic.numbered, NumberedCall.after_succ]

theorem due_eq (images : sitting.Images image) (opens : sitting.Opens) (made : NumberedCall) :
    image.due made.next = sitting.due made := by
  have place : made.next.number - (image.traffic.numbered + 1) =
      made.number - (sitting.traffic.numbered + 1) := by
    rw [images.traffic.numbered, NumberedCall.next]
    exact Nat.add_sub_add_right made.number 1 (sitting.traffic.numbered + 1)
  rw [due, due, place, images.orderly, images.calls]
  exact node.answer_eq opens.indifferent (images.seen.append (.refl _)) _ _

/-- What is sound in the same process is sound over the other connection. -/
theorem sound (images : sitting.Images image) (opens : sitting.Opens)
    (sound : sitting.Sound sitting.made) : image.Sound image.made := by
  rw [images.made_eq]
  refine ⟨?_, ?_⟩
  · rw [List.forall_mem_map]
    intro made member
    rw [images.due_eq opens]
    exact sound.answers made member
  · rw [List.forall_mem_map]
    intro made member trusted
    rw [images.due_eq opens]
    refine sound.readable made member fun orderly => ?_
    have among := trusted (images.orderly.trans orderly)
    rw [images.made_eq, ← List.map_dropLast] at among
    rcases List.mem_map.mp among with ⟨other, present, equal⟩
    rwa [NumberedCall.next_injective equal] at present

theorem reply_alike (images : sitting.Images image) (opens : sitting.Opens)
    (imageOpens : image.Opens) (sound : sitting.Sound sitting.made) {made : NumberedCall}
    (member : made ∈ sitting.made) :
    (sitting.reply made).Alike (image.reply made.next) ∧
      made.call.fault? (image.reply made.next) = made.call.fault? (sitting.reply made) := by
  have own : sitting.reply made = sitting.due made := by
    rw [reply, Backend.passOn, images.direct]
    rfl
  have present : made.next ∈ image.made := by
    rw [images.made_eq]
    exact List.mem_map_of_mem member
  have answers := sound.answers made member
  rw [← images.due_eq opens] at answers
  have alike := imageOpens.reply_alike present answers
  rw [images.due_eq opens, ← own] at alike
  exact alike

/-- The batch comes to a fault on both sides, or to alike replies. -/
theorem verdict_alike (images : sitting.Images image) (opens : sitting.Opens)
    (imageOpens : image.Opens) (sound : sitting.Sound sitting.made) :
    (∃ fault, sitting.verdict = .error fault ∧ image.verdict = .error fault) ∨
      ∃ replies relayed, sitting.verdict = .ok replies ∧ image.verdict = .ok relayed ∧
        List.Forall₂ Reply.Alike replies relayed := by
  have alike : List.Forall₂ Reply.Alike (sitting.made.map sitting.reply)
      (image.made.map image.reply) := by
    rw [images.made_eq, List.map_map, List.forall₂_map_left_iff, List.forall₂_map_right_iff,
      List.forall₂_same]
    exact fun made member => (images.reply_alike opens imageOpens sound member).1
  have last : (image.made.getLast?.bind fun last => last.call.fault? (image.reply last)) =
      sitting.made.getLast?.bind fun last => last.call.fault? (sitting.reply last) := by
    rw [images.made_eq, List.getLast?_map]
    cases found : sitting.made.getLast? with
    | none => rfl
    | some made =>
        exact (images.reply_alike opens imageOpens sound (List.mem_of_getLast? found)).2
  rw [verdict, verdict, last]
  cases sitting.made.getLast?.bind fun last => last.call.fault? (sitting.reply last) with
  | some fault => exact .inl ⟨fault, rfl, rfl⟩
  | none => exact .inr ⟨_, _, rfl, rfl, alike⟩

/-- What stands for the calls of the batch on both sides. -/
theorem reordered {α : Type} {asks : α → String × Json} {form imageForm : NumberedCall → α}
    (images : sitting.Images image) (opens : sitting.Opens)
    (asked : ∀ made, asks (form made) = made.asked) (same : ∀ made, imageForm made.next = form made)
    {own imaged : List NumberedCall} (all : own.Perm sitting.made)
    (inOrder : sitting.orderly = true → own = sitting.made) (imageAll : imaged.Perm image.made)
    (imageInOrder : image.orderly = true → imaged = image.made) :
    Reordered asks sitting.orderly (own.map form) (imaged.map imageForm) := by
  have forms : image.made.map imageForm = sitting.made.map form := by
    rw [images.made_eq, List.map_map]
    exact List.map_congr_left fun made _ => same made
  refine .together opens.gathered.joined ?_ ?_ ?_
  · have calls : sitting.made.map NumberedCall.asked = sitting.calls.map BatchCall.asked := by
      rw [← NumberedCall.after_calls sitting.traffic.numbered sitting.calls, List.map_map]
      rfl
    rw [List.map_map, ← calls]
    exact (List.Perm.of_eq (List.map_congr_left fun made _ => asked made)).trans (all.map _)
  · exact (imageAll.map imageForm).trans ((List.Perm.of_eq forms).trans (all.map form).symm)
  · intro orderly
    rw [imageInOrder (images.orderly.trans orderly), inOrder orderly, forms]

/-- What a node serves in the same process it serves over the other connection. -/
theorem together_parallel (images : sitting.Images image) (opens : sitting.Opens)
    (imageOpens : image.Opens)
    (serves : node.Serves sitting.orderly
      (sitting.backend.caller.callTogether sitting.calls sitting.traffic sitting.seen).2) :
    let ended := sitting.backend.caller.callTogether sitting.calls sitting.traffic sitting.seen
    let imaged := image.backend.caller.callTogether image.calls image.traffic image.seen
    ((∃ fault, ended.1.1 = .error fault ∧ imaged.1.1 = .error fault) ∨
        ∃ replies relayed, ended.1.1 = .ok replies ∧ imaged.1.1 = .ok relayed ∧
          List.Forall₂ Reply.Alike replies relayed) ∧
      ended.1.2.Shifted sitting.orderly imaged.1.2 ∧
      Reordered id sitting.orderly ended.2 imaged.2 := by
  rcases opens.together_settles with ⟨handled, unhandled, settles⟩
  have completes := settles.completes opens (settles.sound opens serves)
  rcases imageOpens.together_settles with ⟨imageHandled, imageUnhandled, imageSettles⟩
  have imageSound := images.sound opens completes.sound
  have imageCompletes := imageSettles.completes imageOpens
    ⟨fun made member => imageSound.answers made (imageSettles.mem_made member),
      fun made member => imageSound.readable made (imageSettles.mem_made member)⟩
  intro ended imaged
  refine ⟨?_, ⟨?_, ?_, completes.left, imageCompletes.left⟩, ?_⟩
  · rw [completes.outcome, imageCompletes.outcome]
    exact images.verdict_alike opens imageOpens completes.sound
  · rw [completes.counted, imageCompletes.counted, images.traffic.numbered, images.calls]
    omega
  · rcases completes.sent with ⟨out, all, inOrder, sent⟩
    rcases imageCompletes.sent with ⟨imageOut, imageAll, imageInOrder, imageSent⟩
    rw [sent, imageSent, List.map_append, List.map_map]
    refine images.traffic.sent.append ?_
    refine images.reordered opens ?_ ?_ all inOrder imageAll imageInOrder
    · exact fun _ => rfl
    · exact fun made => (Rpc.Request.shifted_make made.number _ _).symm
  · rcases completes.saw with ⟨saw, all, inOrder, seen⟩
    rcases imageCompletes.saw with ⟨imageSaw, imageAll, imageInOrder, imageSeen⟩
    rw [seen, imageSeen]
    refine images.seen.append ?_
    refine images.reordered opens ?_ ?_ all inOrder imageAll imageInOrder
    · exact fun _ => rfl
    · exact fun _ => rfl

end Images

end Node.Sitting

/-! ## Queries -/

variable {node : Node} {backend : Backend (StateM Seen)} {traffic : Traffic (StateM Seen)}

/-- Over a connection to a node, calls and what is left of them only make the node see more. -/
theorem Backend.Fronts.call_grows (fronts : backend.Fronts node.receive) {method : String}
    {params : Json} (passes : PassesRelay method params)
    (bears : ∀ delivery ∈ traffic.undelivered, Bears delivery) (seen : Seen) :
    Grows seen (backend.caller.call method params traffic seen).2 ∧
      ∀ delivery ∈ (backend.caller.call method params traffic seen).1.2.undelivered,
        Bears delivery := by
  rw [fronts.called passes]
  refine ⟨(Node.attended_grows _ bears seen).trans (.call passes _), ?_⟩
  exact fun delivery member => bears delivery ((Traffic.kept_sublist _ _).subset member)

theorem Backend.Fronts.together_grows (fronts : backend.Fronts node.receive)
    {calls : List BatchCall} (relayable : ∀ call ∈ calls, call.Relayable)
    (bears : ∀ delivery ∈ traffic.undelivered, Bears delivery) (seen : Seen) :
    Grows seen (backend.caller.callTogether calls traffic seen).2 ∧
      ∀ delivery ∈ (backend.caller.callTogether calls traffic seen).1.2.undelivered,
        Bears delivery := by
  have passes {flight : Flight} {later : Traffic (StateM Seen)} {called : List BatchCall}
      {out : List NumberedCall} {made : NumberedCall}
      (course : Course backend.carrier calls traffic flight later called out)
      (member : made ∈ flight.posted) : PassesRelay made.call.method (.list made.call.params) :=
    (relayable _ (NumberedCall.mem_of_mem_after (course.mem_after
      (List.mem_append_right _ (List.mem_append_left _ member))))).passes
  rcases backend.carrier.together_along traffic seen
    (fun _ later further => Grows seen further ∧ ∀ delivery ∈ later.undelivered, Bears delivery)
    (fun _ => True) (by
      intro flight next traffic later world laterWorld called out move course held _ takes
      cases takes with
      | nothing _ | refused _ _ | sent _ _ _ | waits _ _ _ | posted _ | answered _ _ => exact held
      | @handled position made posted picked =>
          refine ⟨held.1.trans ?_, held.2⟩
          have member : made ∈ flight.posted := (pick?_perm picked).mem_iff.mpr List.mem_cons_self
          exact fronts.bears _ (passes course member) world
      | settled position =>
          refine ⟨held.1.trans (Node.settledAt_grows held.2 position world), ?_⟩
          exact fun delivery member => held.2 delivery (List.mem_of_mem_eraseIdx member))
    (fun _ _ => trivial) ⟨.refl seen, bears⟩ with ⟨flown, _, along, _⟩
  have same : backend.caller.callTogether calls = backend.carrier.together calls := rfl
  rw [same]
  revert along
  generalize (backend.carrier.together calls traffic seen).1.2 = later,
    (backend.carrier.together calls traffic seen).2 = further
  intro along
  cases along with
  | goes course held => exact held
  | faulted course held member found =>
      refine ⟨held.1, List.forall_mem_append.mpr ⟨held.2, ?_⟩⟩
      rw [List.forall_mem_map]
      exact fun made posted => fronts.bears _ (passes course posted)

theorem Query.Relayable.runWith_grows {α : Type} {query : Query α} (relayable : query.Relayable)
    (fronts : backend.Fronts node.receive)
    (bears : ∀ delivery ∈ traffic.undelivered, Bears delivery) (seen : Seen) :
    Grows seen (query.runWith backend.caller traffic seen).2 ∧
      ∀ delivery ∈ (query.runWith backend.caller traffic seen).1.2.undelivered,
        Bears delivery := by
  induction query generalizing traffic seen with
  | done outcome => exact ⟨.refl seen, bears⟩
  | call method params resume induction =>
      let called := backend.caller.call method params traffic seen
      have asked := fronts.call_grows relayable.1 bears seen
      have further := induction called.1.1 (relayable.2.2 _) asked.2 called.2
      exact ⟨asked.1.trans further.1, further.2⟩
  | together calls resume induction =>
      let called := backend.caller.callTogether calls traffic seen
      have asked := fronts.together_grows relayable.1.relayable bears seen
      have further := induction called.1.1 (relayable.2.2 _) asked.2 called.2
      exact ⟨asked.1.trans further.1, further.2⟩

/-- Two connections to a node, one of them in the same process. -/
structure Node.Twins (node : Node) (orderly : Bool) (backend relayed : Backend (StateM Seen)) :
    Prop where
  direct : backend.isRelay = false
  fronts : backend.Fronts node.receive
  relays : relayed.Fronts node.receive
  inOrder (kept : orderly = true) :
    backend.carrier.schedule.InOrder ∧ relayed.carrier.schedule.InOrder

section

variable {orderly : Bool} {relayed : Backend (StateM Seen)} {imageTraffic : Traffic (StateM Seen)}
  {seen image : Seen}

theorem Traffic.Shifted.bears (shifted : traffic.Shifted orderly imageTraffic) :
    ∀ delivery ∈ traffic.undelivered, Bears delivery := by
  rw [shifted.left]
  exact fun _ member => by cases member

/-- A call that is answered is answered alike, one number ahead. -/
theorem Node.Twins.call_parallel (twins : node.Twins orderly backend relayed) {method : String}
    {params : Json} (passes : PassesRelay method params)
    (shifted : traffic.Shifted orderly imageTraffic) (same : Reordered id orderly seen image)
    (serves : node.Serves orderly (backend.caller.call method params traffic seen).2) :
    let ended := backend.caller.call method params traffic seen
    let imaged := relayed.caller.call method params imageTraffic image
    ended.1.1.Alike imaged.1.1 ∧ ended.1.2.Shifted orderly imaged.1.2 ∧
      Reordered id orderly ended.2 imaged.2 := by
  have called := twins.fronts.called passes traffic seen
  have imageCalled := twins.relays.called passes imageTraffic image
  dsimp only at called imageCalled ⊢
  rw [Carrier.arrival, shifted.left, Traffic.attended_nil] at called
  rw [Carrier.arrival, shifted.relayedLeft, Traffic.attended_nil,
    node.answer_eq serves.indifferent same] at imageCalled
  rw [called] at serves ⊢
  rw [imageCalled]
  refine ⟨?_, ⟨congrArg (· + 1) shifted.numbered, ?_, ?_, ?_⟩, same.append (.refl _)⟩
  · rcases serves.answers rfl with ⟨response, answered⟩
    rw [answered, Backend.passOn, twins.direct]
    exact relayed.passOn_alike _ response
  · have next : (traffic.nextRequest method params).shifted =
        imageTraffic.nextRequest method params := by
      rw [Traffic.nextRequest, Rpc.Request.shifted_make, Traffic.nextRequest, shifted.numbered]
    change Reordered _ _ ((traffic.sent ++ [_]).map _) (imageTraffic.sent ++ [_])
    rw [List.map_append, List.map_singleton, next]
    exact shifted.sent.append (.refl _)
  · change Traffic.kept _ traffic.undelivered = []
    rw [shifted.left, Traffic.kept_nil]
  · change Traffic.kept _ imageTraffic.undelivered = []
    rw [shifted.relayedLeft, Traffic.kept_nil]

/-- So are calls that are made together, unless they come to a fault, which is the same. -/
theorem Node.Twins.together_parallel (twins : node.Twins orderly backend relayed)
    {calls : List BatchCall} (gathered : BatchCall.Gathered calls)
    (shifted : traffic.Shifted orderly imageTraffic) (same : Reordered id orderly seen image)
    (serves : node.Serves orderly (backend.caller.callTogether calls traffic seen).2) :
    let ended := backend.caller.callTogether calls traffic seen
    let imaged := relayed.caller.callTogether calls imageTraffic image
    ((∃ fault, ended.1.1 = .error fault ∧ imaged.1.1 = .error fault) ∨
        ∃ replies relayed, ended.1.1 = .ok replies ∧ imaged.1.1 = .ok relayed ∧
          List.Forall₂ Reply.Alike replies relayed) ∧
      ended.1.2.Shifted orderly imaged.1.2 ∧ Reordered id orderly ended.2 imaged.2 := by
  let sitting : node.Sitting := { backend, orderly, calls, seen, traffic }
  let imageSitting : node.Sitting :=
    { backend := relayed, orderly, calls, seen := image, traffic := imageTraffic }
  have opens : sitting.Opens := ⟨twins.fronts, gathered, shifted.left,
    fun kept => (twins.inOrder kept).1, serves.indifferent⟩
  have imageOpens : imageSitting.Opens := ⟨twins.relays, gathered, shifted.relayedLeft,
    fun kept => (twins.inOrder kept).2, serves.indifferent⟩
  have images : sitting.Images imageSitting := ⟨twins.direct, rfl, rfl, same, shifted⟩
  exact images.together_parallel opens imageOpens serves

/-- What a node serves in the same process it serves over the other connection. -/
theorem Query.Relayable.runWith_parallel {α : Type} {query : Query α} (relayable : query.Relayable)
    (twins : node.Twins orderly backend relayed) (shifted : traffic.Shifted orderly imageTraffic)
    (same : Reordered id orderly seen image)
    (serves : node.Serves orderly (query.runWith backend.caller traffic seen).2) :
    let ended := query.runWith backend.caller traffic seen
    let imaged := query.runWith relayed.caller imageTraffic image
    imaged.1.1 = ended.1.1 ∧ ended.1.2.Shifted orderly imaged.1.2 ∧
      Reordered id orderly ended.2 imaged.2 := by
  induction query generalizing traffic imageTraffic seen image with
  | done outcome => exact ⟨rfl, shifted, same⟩
  | call method params resume induction =>
      let called := backend.caller.call method params traffic seen
      have asked := twins.fronts.call_grows relayable.1 shifted.bears seen
      have further := (relayable.2.2 called.1.1).runWith_grows twins.fronts asked.2 called.2
      rcases twins.call_parallel relayable.1 shifted same (serves.of_grows further.1) with
        ⟨alike, later, laterSame⟩
      rw [runWith_call, runWith_call]
      dsimp only
      rw [relayable.2.1 _ _ alike]
      exact induction _ (relayable.2.2 _) later laterSame serves
  | together calls resume induction =>
      let called := backend.caller.callTogether calls traffic seen
      have asked := twins.fronts.together_grows relayable.1.relayable shifted.bears seen
      have further := (relayable.2.2 called.1.1).runWith_grows twins.fronts asked.2 called.2
      rcases twins.together_parallel relayable.1 shifted same (serves.of_grows further.1) with
        ⟨outcomes, later, laterSame⟩
      have resumed : resume (relayed.caller.callTogether calls imageTraffic image).1.1 =
          resume called.1.1 := by
        rcases outcomes with ⟨fault, ended, imaged⟩ | ⟨replies, others, ended, imaged, alike⟩
        · exact congrArg resume (imaged.trans ended.symm)
        · rw [ended, imaged]
          exact relayable.2.1 _ _ alike
      rw [runWith, TrafficM.bind_eq, runWith, TrafficM.bind_eq, resumed]
      exact induction _ (relayable.2.2 _) later laterSame serves

end

end LockGateway
