import LockGateway.Proofs.Gateway.Mirror
import LockGateway.Proofs.Relay.HostedAccount
import LockGateway.Proofs.Rpc.Answering

/-! Runs of a gateway on a wallet in the same process, and of one over a relay to the
same node, whatever happens when on either side. They cannot be told apart as long as the
node serves all that it is asked; the relay only asks its host about the wallet first, and is
one number ahead from then on. If the calls of a batch reach the node in any order, this is
so for a node to which their order makes no difference. -/

namespace LockGateway

open Node (Seen Grows Bears)

variable {node : Node} {orderly : Bool} {flavor : WalletFlavor}

/-! ## Opening connections -/

theorem Connection.open_direct (schedule : Schedule) (config : Config) (generation : UInt64)
    (undelivered : List (Delivery (StateM Seen))) (seen : Seen) :
    Connection.open (.direct (node.wallet flavor schedule)) config generation undelivered seen =
      ((.ok ({ backend := .direct (node.wallet flavor schedule), flavor,
               generation, numbered := 0 },
          .available flavor), .start 0 undelivered), seen) := by
  cases flavor with
  | metaMask => rfl
  | generic => rfl

/-- The traffic of a relay that was asked about its host's wallet. -/
def Traffic.introduced {m : Type → Type} : Traffic m :=
  { numbered := 1, sent := [walletInfoRequest], undelivered := [] }

/-- A relay asks its host first. This never reaches the node. -/
theorem Connection.open_relay (capacity : Nat) (schedule : Schedule) (config : Config)
    (generation : UInt64) {undelivered : List (Delivery (StateM Seen))} (none : undelivered = [])
    (seen : Seen) :
    Connection.open (.relay (node.peer flavor) capacity schedule) config generation undelivered
        seen =
      ((.ok ({ backend := .relay (node.peer flavor) capacity schedule, flavor, generation
               numbered := 1 }, .available flavor), .introduced), seen) := by
  subst none
  let backend := Backend.relay (RelayHost.native node.serve flavor).answer capacity schedule
  have called : backend.carrier.called (.start 0 []) walletInfoRequest = .introduced :=
    congrArg (Traffic.mk 1 [walletInfoRequest]) (Traffic.kept_nil _)
  have arrival : backend.carrier.arrival (.start 0 []) seen = seen := Traffic.attended_nil _ _
  have opens := Connection.open_host (.native node.serve flavor) capacity schedule config
    generation [] seen
  dsimp only [backend] at opens called arrival
  rw [called, arrival] at opens
  cases flavor with
  | metaMask => exact opens
  | generic => exact opens

namespace Gateway

theorem connect_opened {endpoint : Endpoint (StateM Seen)} {gateway : Gateway (StateM Seen)}
    {connection : Connection (StateM Seen)} {traffic : Traffic (StateM Seen)} {seen : Seen}
    (opens : Connection.open endpoint gateway.config (gateway.generation + 1)
      gateway.undelivered seen = ((.ok (connection, .available flavor), traffic), seen)) :
    connect endpoint (.start gateway) seen =
      greet (.available flavor)
        (opened (.start gateway.disconnected) connection (.available flavor) traffic) seen := by
  rw [connect_eq, opens]

/-- The relay is asked about its host's wallet first. -/
theorem Mirrored.opened {gateway relayed : Gateway (StateM Seen)}
    (mirrored : Mirrored node orderly gateway relayed) (flavor : WalletFlavor) (capacity : Nat)
    {schedule relaySchedule : Schedule}
    (inOrder : orderly = true → schedule.InOrder ∧ relaySchedule.InOrder) :
    Session.Mirrored node orderly [⟨gateway.generation + 1, walletInfoRequest⟩]
      (opened (.start gateway.disconnected)
        { backend := .direct (node.wallet flavor schedule), flavor
          generation := gateway.generation + 1, numbered := 0 }
        (.available flavor) (.start 0 gateway.undelivered))
      (opened (.start relayed.disconnected)
        { backend := .relay (node.peer flavor) capacity relaySchedule, flavor
          generation := relayed.generation + 1, numbered := 1 }
        (.available flavor) .introduced) where
  gateway :=
    { config := mirrored.config
      connection := by
        rw [mirrored.generation]
        exact .some flavor capacity 0 (gateway.generation + 1) inOrder
      account := rfl
      networkId := rfl
      walletInfo := rfl
      generation := congrArg (· + 1) mirrored.generation
      ready := rfl
      versions := rfl
      undelivered := mirrored.undelivered
      relayUndelivered := rfl }
  issued := by
    refine ⟨[], ?_, .nil⟩
    change [(⟨relayed.generation + 1, walletInfoRequest⟩ : IssuedRequest)] = _
    rw [mirrored.generation]
    rfl
  events := rfl

end Gateway

/-! ## Operations -/

namespace Operation

/-- An operation and its image over a relay. An attempt to connect to the node goes to a
host in front of the same node instead. If batches are orderly, both sides keep their order. -/
inductive Counterpart (node : Node) (orderly : Bool) :
    Operation (StateM Seen) → Operation (StateM Seen) → Prop
  | connect (flavor : WalletFlavor) (capacity : Nat) {schedule relaySchedule : Schedule}
      (inOrder : orderly = true → schedule.InOrder ∧ relaySchedule.InOrder) :
      Counterpart node orderly (.connect (.direct (node.wallet flavor schedule)))
        (.connect (.relay (node.peer flavor) capacity relaySchedule))
  | reconnect (flavor : WalletFlavor) (capacity : Nat) {schedule relaySchedule : Schedule}
      (inOrder : orderly = true → schedule.InOrder ∧ relaySchedule.InOrder) :
      Counterpart node orderly (.reconnect (.direct (node.wallet flavor schedule)))
        (.reconnect (.relay (node.peer flavor) capacity relaySchedule))
  | same (operation : Operation (StateM Seen)) (stays : operation.endpoint? = none) :
      Counterpart node orderly operation operation

/-- What the image of the operation sends first. -/
def ahead (operation : Operation (StateM Seen)) : List Rpc.Request :=
  match operation.endpoint? with
  | some _ => [walletInfoRequest]
  | none => []

end Operation

/-- A turn and its image: the same outcome and the same events, and the same requests under
the next numbers. Those of a batch may have changed places, unless batches are orderly. -/
structure Turn.Mirrored (orderly : Bool) (operation : Operation (StateM Seen)) (turn image : Turn) :
    Prop where
  outcome : image.outcome = turn.outcome
  issued : ∃ generation, IssuedRequest.Mirrored orderly
    (operation.ahead.map (IssuedRequest.mk generation)) turn.issued image.issued
  events : image.events = turn.events

namespace Operation

variable {operation image : Operation (StateM Seen)} {gateway relayed : Gateway (StateM Seen)}
  {seen imageSeen : Seen}

theorem connects_grows {schedule : Schedule}
    (connects : operation.endpoint? = some (.direct (node.wallet flavor schedule)))
    (on : gateway.On node) (seen : Seen) :
    (operation.after gateway seen).On node ∧ Grows seen (operation.perform gateway seen).2 := by
  change (operation.action (.start gateway) seen).1.2.gateway.On node ∧
    Grows seen (operation.action (.start gateway) seen).2
  rw [action_connects connects, Gateway.connect_opened (Connection.open_direct _ _ _ _ _)]
  have greets : Parallel node true (Gateway.greet (.available flavor)) := .of_composed (.greet _)
  refine greets.grows ⟨?_, on.bears⟩ seen
  intro connection equal
  cases equal
  exact .direct _

/-- An attempt to connect does the same over a relay, after its question to the host. -/
theorem connects_mirrored {capacity : Nat} {schedule relaySchedule : Schedule}
    (connects : operation.endpoint? = some (.direct (node.wallet flavor schedule)))
    (relays : image.endpoint? = some (.relay (node.peer flavor) capacity relaySchedule))
    (inOrder : orderly = true → schedule.InOrder ∧ relaySchedule.InOrder)
    (mirrored : Gateway.Mirrored node orderly gateway relayed)
    (same : Reordered id orderly seen imageSeen)
    (serves : node.Serves orderly (operation.perform gateway seen).2) :
    Turn.Mirrored orderly operation (operation.perform gateway seen).1.1
        (image.perform relayed imageSeen).1.1 ∧
      Gateway.Mirrored node orderly (operation.after gateway seen) (image.after relayed imageSeen) ∧
      Reordered id orderly (operation.perform gateway seen).2
        (image.perform relayed imageSeen).2 := by
  have acts := action_connects connects (.start gateway) seen
  have imageActs := action_connects relays (.start relayed) imageSeen
  rw [Gateway.connect_opened (Connection.open_direct _ _ _ _ _)] at acts
  rw [Gateway.connect_opened (Connection.open_relay _ _ _ _ mirrored.relayUndelivered _)]
    at imageActs
  change node.Serves orderly (operation.action (.start gateway) seen).2 at serves
  rw [acts] at serves
  have greets : Parallel node orderly (Gateway.greet (.available flavor)) := .of_composed (.greet _)
  rcases greets.mirrors (mirrored.opened flavor capacity inOrder) same serves with
    ⟨outcome, session, later⟩
  have turn : Turn.Mirrored orderly operation (operation.perform gateway seen).1.1
      (image.perform relayed imageSeen).1.1 := by
    refine ⟨?_, ⟨gateway.generation + 1, ?_⟩, ?_⟩
    · change (image.action _ _).1.1 = (operation.action _ _).1.1
      rw [imageActs, acts, outcome]
    · change IssuedRequest.Mirrored orderly _ (operation.action _ _).1.2.issued
        (image.action _ _).1.2.issued
      rw [ahead, connects, imageActs, acts]
      exact session.issued
    · change (image.action _ _).1.2.events = (operation.action _ _).1.2.events
      rw [imageActs, acts]
      exact session.events
  refine ⟨turn, ?_, ?_⟩
  · rw [after, after, imageActs, acts]
    exact session.gateway
  · change Reordered id orderly (operation.action _ _).2 (image.action _ _).2
    rw [imageActs, acts]
    exact later

namespace Counterpart

theorem perform_grows (counterpart : Counterpart node orderly operation image)
    (on : gateway.On node) (seen : Seen) :
    (operation.after gateway seen).On node ∧ Grows seen (operation.perform gateway seen).2 := by
  cases counterpart with
  | connect flavor capacity inOrder => exact connects_grows rfl on seen
  | reconnect flavor capacity inOrder => exact connects_grows rfl on seen
  | same operation stays =>
      have parallel : Parallel node orderly operation.action :=
        .of_composed (operation.action_composed stays)
      exact parallel.grows on seen

theorem perform_mirrored (counterpart : Counterpart node orderly operation image)
    (mirrored : Gateway.Mirrored node orderly gateway relayed)
    (same : Reordered id orderly seen imageSeen)
    (serves : node.Serves orderly (operation.perform gateway seen).2) :
    Turn.Mirrored orderly operation (operation.perform gateway seen).1.1
        (image.perform relayed imageSeen).1.1 ∧
      Gateway.Mirrored node orderly (operation.after gateway seen) (image.after relayed imageSeen) ∧
      Reordered id orderly (operation.perform gateway seen).2
        (image.perform relayed imageSeen).2 := by
  cases counterpart with
  | connect flavor capacity inOrder => exact connects_mirrored rfl rfl inOrder mirrored same serves
  | reconnect flavor capacity inOrder =>
      exact connects_mirrored rfl rfl inOrder mirrored same serves
  | same operation stays =>
      have parallel : Parallel node orderly operation.action :=
        .of_composed (operation.action_composed stays)
      have start : Session.Mirrored node orderly [] (.start gateway) (.start relayed) :=
        ⟨mirrored, ⟨[], rfl, .nil⟩, rfl⟩
      rcases parallel.mirrors start same serves with ⟨outcome, session, later⟩
      refine ⟨⟨outcome, ⟨0, ?_⟩, session.events⟩, session.gateway, later⟩
      rw [ahead, stays]
      exact session.issued

end Counterpart

end Operation

/-! ## Runs -/

/-- The turns of a run beside their images, one for each operation that was performed. -/
inductive Turn.AllMirrored (orderly : Bool) :
    List (Operation (StateM Seen)) → List Turn → List Turn → Prop
  | nil (operations : List (Operation (StateM Seen))) : AllMirrored orderly operations [] []
  | cons {operation : Operation (StateM Seen)} {turn image : Turn}
      {operations : List (Operation (StateM Seen))} {turns images : List Turn}
      (mirrored : turn.Mirrored orderly operation image)
      (rest : AllMirrored orderly operations turns images) :
      AllMirrored orderly (operation :: operations) (turn :: turns) (image :: images)

/-- A run and its image: the same turns but for the numbers of the requests, the same state
at the end if there is one, and a node that saw the same calls, none of them the question to
the host. Those of a batch may have changed places, unless batches are orderly. -/
structure Transparent (node : Node) (orderly : Bool) (operations : List (Operation (StateM Seen)))
    (run image : (List Turn × Option (Gateway (StateM Seen))) × Seen) : Prop where
  turns : Turn.AllMirrored orderly operations run.1.1 image.1.1
  gateway : Option.Rel (Gateway.Mirrored node orderly) run.1.2 image.1.2
  seen : Reordered id orderly run.2 image.2
  other : ∀ call ∈ image.2, call.1 ≠ walletInfoMethod

namespace Operation

variable {operations images : List (Operation (StateM Seen))}
  {gateway relayed : Gateway (StateM Seen)}
  {seen imageSeen : Seen}

theorem performAll_grows (counterparts : List.Forall₂ (Counterpart node orderly) operations images)
    (on : gateway.On node) (seen : Seen) :
    Grows seen (performAll operations gateway seen).2 := by
  induction counterparts generalizing gateway seen with
  | nil => exact .refl seen
  | cons counterpart rest induction =>
      rcases counterpart.perform_grows on seen with ⟨later, grows⟩
      rw [performAll_cons]
      dsimp only
      split
      · exact grows
      · exact grows.trans (induction later _)

theorem performAll_mirrored
    (counterparts : List.Forall₂ (Counterpart node orderly) operations images)
    (mirrored : Gateway.Mirrored node orderly gateway relayed)
    (same : Reordered id orderly seen imageSeen)
    (serves : node.Serves orderly (performAll operations gateway seen).2) :
    Turn.AllMirrored orderly operations (performAll operations gateway seen).1.1
        (performAll images relayed imageSeen).1.1 ∧
      Option.Rel (Gateway.Mirrored node orderly) (performAll operations gateway seen).1.2
        (performAll images relayed imageSeen).1.2 ∧
      Reordered id orderly (performAll operations gateway seen).2
        (performAll images relayed imageSeen).2 := by
  induction counterparts generalizing gateway relayed seen imageSeen with
  | nil => exact ⟨.nil [], .some mirrored, same⟩
  | @cons operation image operations images counterpart rest induction =>
      rw [performAll_cons] at serves
      rw [performAll_cons, performAll_cons]
      dsimp only at serves ⊢
      have early : node.Serves orderly (operation.perform gateway seen).2 := by
        split at serves
        · exact serves
        · have grown := counterpart.perform_grows mirrored.on seen
          exact serves.of_grows (performAll_grows rest grown.1 _)
      rcases counterpart.perform_mirrored mirrored same early with ⟨turn, next, later⟩
      have alike : (image.perform relayed imageSeen).1.1.aborted =
          (operation.perform gateway seen).1.1.aborted := by
        rw [Turn.aborted, turn.outcome]
        rfl
      rw [alike]
      split at serves
      · rename_i aborted
        rw [if_pos aborted, if_pos aborted]
        exact ⟨.cons turn (.nil operations), .none, later⟩
      · rename_i goesOn
        rw [if_neg goesOn, if_neg goesOn]
        rcases induction next later serves with ⟨turns, ended, last⟩
        exact ⟨.cons turn turns, ended, last⟩

end Operation

theorem Gateway.Mirrored.new (node : Node) (orderly : Bool) (config : Config) :
    Mirrored node orderly (.new config) (.new config) where
  config := rfl
  connection := .none
  account := rfl
  networkId := rfl
  walletInfo := rfl
  generation := rfl
  ready := rfl
  versions := rfl
  undelivered := rfl
  relayUndelivered := rfl

/-! ## Nodes that are asked about a lock -/

namespace Node

def zeroWord : Json :=
  .string "0x0000000000000000000000000000000000000000000000000000000000000000"

/-- A node that answers all calls of contracts with the number zero, and all others with a
text that it may choose by what it has seen. -/
def telling (text : Seen → String) : Node := fun seen method _ =>
  .ok (.success 0 (if method = "eth_call" then zeroWord else .string (text seen)))

def zero : Node := telling fun _ => "0x1"

/-- A node that tells apart whether it has seen an even number of calls. -/
def counting : Node := telling fun seen => if seen.length % 2 = 0 then "0x1" else "0x2"

theorem callContract_zero {α : Type} {kind : Abi.ResultKind α} {value : α}
    (reads : kind.read (List.replicate 32 0) = .ok value) (contract : Address)
    (method : Abi.Signature) (arguments : List Abi.Value) :
    (Question.callContract kind contract method arguments).read
      (.ok (.success 0 zeroWord)) = .ok value := by
  have answered : Reply.result (.ok (.success 0 zeroWord)) = .ok zeroWord := rfl
  have bytes : readHexData zeroWord = .ok (List.replicate 32 0) := rfl
  exact Question.callContract_read answered bytes reads

theorem telling_question {α : Type} {text : Seen → String} {question : Question α} {value : α}
    (calls : question.method = "eth_call")
    (reads : question.read (.ok (.success 0 zeroWord)) = .ok value) (seen : Seen) :
    ∀ call ∈ (Batch.one question).calls,
      call.fault? (telling text seen call.method (.list call.params)) = none := by
  rw [Batch.one, List.forall_mem_singleton]
  simp [telling, calls, reads]

theorem telling_figure (text : Seen → String) (contract : Address) (name : String) (seen : Seen) :
    ∀ call ∈ (Batch.one (.getter .uint256 contract name)).calls,
      call.fault? (telling text seen call.method (.list call.params)) = none := by
  have reads : (Question.getter .uint256 contract name).read (.ok (.success 0 zeroWord)) =
      .ok 0 := callContract_zero rfl contract (.getter name) []
  exact telling_question rfl reads seen

/-- All that a lock tells of itself can be read, and its block if the text is a number. -/
theorem telling_joined {text : Seen → String}
    (number : ∀ seen, text seen = "0x1" ∨ text seen = "0x2") {calls : List BatchCall}
    (joined : BatchCall.Joined calls) (seen : Seen) :
    ∀ call ∈ calls, call.fault? (telling text seen call.method (.list call.params)) = none := by
  cases joined with
  | figures version lock =>
      have keys : ∀ call ∈ (Batch.one ((Question.getter .uint256 lock
          version.supplyGetter).fitting "outstandingKeys")).calls,
          call.fault? (telling text seen call.method (.list call.params)) = none := by
        have sold : (Question.getter .uint256 lock version.supplyGetter).read
            (.ok (.success 0 zeroWord)) = .ok 0 := callContract_zero rfl lock (.getter _) []
        have fits : ((Question.getter .uint256 lock version.supplyGetter).fitting
            "outstandingKeys").read (.ok (.success 0 zeroWord)) = .ok 0 := by
          rw [Question.fitting]
          dsimp only
          rw [sold]
          rfl
        exact telling_question rfl fits seen
      have block : ∀ call ∈ (Batch.one Question.blockNumber).calls,
          call.fault? (telling text seen call.method (.list call.params)) = none := by
        rw [Batch.one, List.forall_mem_singleton]
        rcases number seen with one | two
        · rw [telling, one]
          rfl
        · rw [telling, two]
          rfl
      have listed : (version.figures lock).calls =
          (Batch.one (.getter .uint256 lock "keyPrice")).calls ++
            ((Batch.one (.getter .uint256 lock "expirationDuration")).calls ++
              ((Batch.one (.getter .uint256 lock "maxNumberOfKeys")).calls ++
                ((Batch.one (.getter .address lock "owner")).calls ++
                  ((Batch.one ((Question.getter .uint256 lock version.supplyGetter).fitting
                    "outstandingKeys")).calls ++ (Batch.one Question.blockNumber).calls)))) :=
        rfl
      rw [listed]
      simp only [List.forall_mem_append]
      exact ⟨telling_figure text lock _ seen, telling_figure text lock _ seen,
        telling_figure text lock _ seen,
        telling_question rfl (callContract_zero rfl lock (.getter "owner") []) seen, keys, block⟩
  | tokenBalance lock token =>
      have listed : (ContractVersion.tokenBalance lock token).calls =
          (Batch.one (.callContract .uint256 token ContractVersion.balanceOf
            [.address lock])).calls ++ (Batch.one (.getter .uint8 token "decimals")).calls :=
        rfl
      rw [listed, List.forall_mem_append]
      exact ⟨telling_question rfl
          (callContract_zero rfl token ContractVersion.balanceOf [.address lock]) seen,
        telling_question rfl (callContract_zero rfl token (.getter "decimals") []) seen⟩

theorem telling_answers {text : Seen → String}
    (number : ∀ seen, text seen = "0x1" ∨ text seen = "0x2")
    (orderly : Bool) (seen : Seen) : (telling text).Answers orderly seen where
  answers _ := ⟨_, rfl⟩
  readable := by
    intro earlier later call trusted asked
    rcases trusted with ⟨calls, joined, member⟩
    have among : call ∈ calls := by
      cases orderly with
      | true => exact List.mem_of_mem_dropLast member
      | false => exact member
    exact telling_joined number joined earlier call among

/-- The zero node does not look at what it has seen. -/
theorem zero_serves (orderly : Bool) (seen : Seen) : zero.Serves orderly seen :=
  { telling_answers (fun _ => .inl rfl) orderly seen with
    indifferent := fun _ => ⟨fun _ _ _ _ _ => rfl, fun _ _ _ => rfl⟩ }

/-- A node with a lock that refuses all calls to it. -/
def refusing : Node := fun _ method _ =>
  if method = "net_version" then .ok (.success 0 (.string "1"))
  else if method = "eth_getCode" then .ok (.success 0 (.string "0x6080"))
  else .ok (.failure 0 (.string "refused"))

end Node

namespace Schedule

/-- All calls are made and handled before the gateway looks at a reply. -/
def eager : Schedule := fun _ _ calls =>
  List.replicate calls .make ++ List.replicate calls (.handle 0)

theorem eager_inOrder : eager.InOrder := by
  intro numbered left calls move member
  rcases List.mem_append.mp member with made | handled
  · rw [List.eq_of_mem_replicate made]
    trivial
  · rw [List.eq_of_mem_replicate handled]
    rfl

theorem inTurn_inOrder : inTurn.InOrder := by
  intro numbered left calls move member
  cases member

/-- All calls are made, and the last is handled first. -/
def backwards : Schedule := fun _ _ calls =>
  List.replicate calls .make ++ (List.range calls).reverse.map .handle

end Schedule

/-- Runs over a relay are transparent as long as the node serves all that it is asked. A
call that the node fails comes back as an error with nothing but the text of the failure. -/
theorem Node.relay_transparent (node : Node) :
    (∀ (orderly : Bool) (config : Config) (operations images : List (Operation (StateM Seen))),
      List.Forall₂ (Operation.Counterpart node orderly) operations images →
      node.Serves orderly (Operation.performAll operations (.new config) []).2 →
      Transparent node orderly operations (Operation.performAll operations (.new config) [])
        (Operation.performAll images (.new config) [])) ∧
    ∀ (flavor : WalletFlavor) (id : UInt64) (method : String) (params : Json) (seen : Seen)
      (error : GatewayError),
      PassesRelay method params → node seen method params = .error error →
      ∃ response, (node.peer flavor).deliver (.make id method params) seen =
          (.ok response, seen ++ [(method, params)]) ∧
        response.errorObject? =
          some { code := Rpc.ErrorObject.unspecifiedCode, message := error.message
                 data := none } := by
  constructor
  · intro orderly config operations images counterparts serves
    have start := Gateway.Mirrored.new node orderly config
    rcases Operation.performAll_mirrored counterparts start .nil serves with ⟨turns, gateway, seen⟩
    rcases Operation.performAll_grows counterparts start.on [] with ⟨asked, grown, other⟩
    refine ⟨turns, gateway, seen, ?_⟩
    intro call member
    have present := seen.perm.mem_iff.mp member
    rw [grown] at present
    exact other call present
  · intro flavor id method params seen error passes fails
    rcases passes with ⟨named, other, elements, rfl⟩
    refine ⟨(RelayHost.nativeReply id (.error error)).response, ?_,
      RelayHost.nativeReply_error id error⟩
    rw [peer, RelayHost.native_deliver node.serve flavor id named other, ← fails]
    rfl

/-- A lock is read over a relay, and the last call of the batch is handled first. -/
theorem Node.zero_transparent :
    List.Forall₂ (Operation.Counterpart zero false)
        [.connect (.direct (zero.wallet .metaMask .inTurn)), .getLock .zero]
        [.connect (.relay (zero.peer .metaMask) 6 .backwards), .getLock .zero] ∧
      zero.Serves false (Operation.performAll
        [.connect (.direct (zero.wallet .metaMask .inTurn)), .getLock .zero] (.new .standard)
        []).2 ∧
      Transparent zero false [.connect (.direct (zero.wallet .metaMask .inTurn)), .getLock .zero]
        (Operation.performAll [.connect (.direct (zero.wallet .metaMask .inTurn)), .getLock .zero]
          (.new .standard) [])
        (Operation.performAll
          [.connect (.relay (zero.peer .metaMask) 6 .backwards), .getLock .zero]
          (.new .standard) []) := by
  have anyOrder {schedule relaySchedule : Schedule} (orderly : false = true) :
      schedule.InOrder ∧ relaySchedule.InOrder := by
    cases orderly
  have counterparts : List.Forall₂ (Operation.Counterpart zero false)
      [.connect (.direct (zero.wallet .metaMask .inTurn)), .getLock .zero]
      [.connect (.relay (zero.peer .metaMask) 6 .backwards), .getLock .zero] :=
    .cons (.connect .metaMask 6 anyOrder) (.cons (.same (.getLock .zero) rfl) .nil)
  have serves := zero_serves false (Operation.performAll
    [.connect (.direct (zero.wallet .metaMask .inTurn)), .getLock .zero] (.new .standard) []).2
  exact ⟨counterparts, serves, (relay_transparent zero).1 false _ _ _ counterparts serves⟩

/-- The block that a lock was read at. -/
def Turn.asOf? (turn : Turn) : Option UInt64 :=
  match turn.outcome with
  | .ok (.snapshot snapshot) => some snapshot.asOf
  | _ => none

/-- Even if all is in order, a relay's host asks the node more if it refuses a call that others
follow. If calls change places, a node that counts them gives another answer, though all its
answers can be read. -/
theorem Node.batches_opaque :
    (¬ ∀ (node : Node) (operations images : List (Operation (StateM Seen))),
      List.Forall₂ (Operation.Counterpart node true) operations images →
      (∀ earlier method params later,
        (Operation.performAll operations (.new .standard) []).2 =
          earlier ++ (method, params) :: later →
        ∃ response, node earlier method params = .ok response) →
      (Operation.performAll images (.new .standard) []).2 =
        (Operation.performAll operations (.new .standard) []).2) ∧
    ¬ ∀ (node : Node) (operations images : List (Operation (StateM Seen))),
      List.Forall₂ (Operation.Counterpart node false) operations images →
      node.Answers false (Operation.performAll operations (.new .standard) []).2 →
      (Operation.performAll images (.new .standard) []).1.1.map Turn.asOf? =
        (Operation.performAll operations (.new .standard) []).1.1.map Turn.asOf? := by
  refine ⟨fun transparent => ?_, fun transparent => ?_⟩
  · have counterparts : List.Forall₂ (Operation.Counterpart refusing true)
        [.connect (.direct (refusing.wallet .generic .inTurn)), .getLock .zero]
        [.connect (.relay (refusing.peer .generic) 6 .eager), .getLock .zero] :=
      .cons (.connect .generic 6 fun _ => ⟨Schedule.inTurn_inOrder, Schedule.eager_inOrder⟩)
        (.cons (.same (.getLock .zero) rfl) .nil)
    have same := transparent refusing _ _ counterparts (by
      intro earlier method params later _
      unfold refusing
      split
      · exact ⟨_, rfl⟩
      · split
        · exact ⟨_, rfl⟩
        · exact ⟨_, rfl⟩)
    have asked : (Operation.performAll [.connect (.direct (refusing.wallet .generic .inTurn)),
        .getLock .zero] (.new .standard) []).2.length = 4 := by
      decide +kernel
    have imageAsked : (Operation.performAll [.connect (.relay (refusing.peer .generic) 6 .eager),
        .getLock .zero] (.new .standard) []).2.length = 9 := by
      decide +kernel
    rw [same, asked] at imageAsked
    omega
  · have counterparts : List.Forall₂ (Operation.Counterpart counting false)
        [.connect (.direct (counting.wallet .generic .inTurn)), .getLock .zero]
        [.connect (.relay (counting.peer .generic) 6 .backwards), .getLock .zero] := by
      refine .cons (.connect .generic 6 fun orderly => ?_) (.cons (.same (.getLock .zero) rfl) .nil)
      cases orderly
    have number (seen : Seen) : (if seen.length % 2 = 0 then "0x1" else "0x2") = "0x1" ∨
        (if seen.length % 2 = 0 then "0x1" else "0x2") = "0x2" := by
      split
      · exact .inl rfl
      · exact .inr rfl
    have same := transparent counting _ _ counterparts (telling_answers number false _)
    have told : (Operation.performAll [.connect (.direct (counting.wallet .generic .inTurn)),
        .getLock .zero] (.new .standard) []).1.1.map Turn.asOf? = [none, some 1] := by
      decide +kernel
    have imageTold : (Operation.performAll
        [.connect (.relay (counting.peer .generic) 6 .backwards), .getLock .zero]
          (.new .standard) []).1.1.map Turn.asOf? = [none, some 2] := by
      decide +kernel
    rw [same, told] at imageTold
    cases imageTold

end LockGateway
