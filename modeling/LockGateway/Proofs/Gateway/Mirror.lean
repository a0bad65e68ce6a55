import LockGateway.Proofs.Gateway.History
import LockGateway.Proofs.Relay.Twins

/-! A gateway on a wallet in the same process, and its mirror image over a relay to the
same node. Every action that does not connect keeps the one the image of the other, as
long as the node serves all that it is asked. -/

namespace LockGateway

open Node (Seen Grows Bears)

variable {α β : Type} {node : Node} {orderly : Bool}

/-! ## Images -/

namespace IssuedRequest

def shifted (issued : IssuedRequest) : IssuedRequest :=
  { issued with request := issued.request.shifted }

def asked (issued : IssuedRequest) : String × Json := issued.request.asked

end IssuedRequest

/-- Connections to a node, in the same process and over a relay. -/
inductive Node.Connects (node : Node) (orderly : Bool) :
    Option (Connection (StateM Seen)) → Option (Connection (StateM Seen)) → Prop
  | none : Connects node orderly none none
  | some (flavor : WalletFlavor) (capacity numbered : Nat) (generation : UInt64)
      {schedule relaySchedule : Schedule}
      (inOrder : orderly = true → schedule.InOrder ∧ relaySchedule.InOrder) :
      Connects node orderly
        (some
          { backend := .direct (node.wallet flavor schedule), flavor, generation, numbered })
        (some
          { backend := .relay (node.peer flavor) capacity relaySchedule, flavor, generation
            numbered := numbered + 1 })

/-- A gateway and its image over a relay. -/
structure Gateway.Mirrored (node : Node) (orderly : Bool)
    (gateway relayed : Gateway (StateM Seen)) :
    Prop where
  config : relayed.config = gateway.config
  connection : node.Connects orderly gateway.connection relayed.connection
  account : relayed.account = gateway.account
  networkId : relayed.networkId = gateway.networkId
  walletInfo : relayed.walletInfo = gateway.walletInfo
  generation : relayed.generation = gateway.generation
  ready : relayed.ready = gateway.ready
  versions : relayed.versions = gateway.versions
  undelivered : gateway.undelivered = []
  relayUndelivered : relayed.undelivered = []

/-- The requests of a session, and those of its image under the next numbers. The relay sends
some ahead. -/
def IssuedRequest.Mirrored (orderly : Bool) (ahead issued relayed : List IssuedRequest) : Prop :=
  ∃ images, relayed = ahead ++ images ∧
    Reordered IssuedRequest.asked orderly (issued.map IssuedRequest.shifted) images

structure Session.Mirrored (node : Node) (orderly : Bool) (ahead : List IssuedRequest)
    (session relayed : Session (StateM Seen)) : Prop where
  gateway : Gateway.Mirrored node orderly session.gateway relayed.gateway
  issued : IssuedRequest.Mirrored orderly ahead session.issued relayed.issued
  events : relayed.events = session.events

/-- The gateway is on the node, if it is on anything, and has left no requests to others. -/
structure Gateway.On (node : Node) (gateway : Gateway (StateM Seen)) : Prop where
  fronts : ∀ connection, gateway.connection = some connection →
    connection.backend.Fronts node.receive
  bears : ∀ delivery ∈ gateway.undelivered, Bears delivery

namespace Gateway.Mirrored

variable {gateway relayed : Gateway (StateM Seen)}

theorem on (mirrored : Mirrored node orderly gateway relayed) : gateway.On node := by
  refine ⟨?_, ?_⟩
  · intro connection found
    have connects := mirrored.connection
    rw [found] at connects
    generalize relayed.connection = image at connects
    cases connects with
    | some flavor capacity numbered generation inOrder => exact .direct _
  · rw [mirrored.undelivered]
    exact fun _ member => by cases member

/-- Both connections are of use, or neither is. -/
theorem wallet_cases (mirrored : Mirrored node orderly gateway relayed) :
    (∃ error, gateway.wallet = .error error ∧ relayed.wallet = .error error) ∨
      ∃ connection image, gateway.wallet = .ok connection ∧ relayed.wallet = .ok image ∧
        node.Connects orderly (some connection) (some image) := by
  have connects := mirrored.connection
  unfold Gateway.wallet
  rw [mirrored.walletInfo]
  revert connects
  generalize gateway.connection = connection, relayed.connection = image
  intro connects
  cases connects with
  | none => exact .inl ⟨_, rfl, rfl⟩
  | some flavor capacity numbered generation inOrder =>
      cases gateway.walletInfo.noWallet with
      | true => exact .inl ⟨_, rfl, rfl⟩
      | false => exact .inr ⟨_, _, rfl, rfl, .some flavor capacity numbered generation inOrder⟩

theorem looksLike (mirrored : Mirrored node orderly gateway relayed) :
    gateway.LooksLike relayed where
  config := mirrored.config
  account := mirrored.account
  flavor := by
    rcases mirrored.wallet_cases with
      ⟨error, refused, refusedToo⟩ | ⟨connection, image, found, foundToo, connects⟩
    · rw [refused, refusedToo]
    · rw [found, foundToo]
      cases connects with
      | some flavor capacity numbered generation inOrder => rfl

end Gateway.Mirrored

theorem Session.Mirrored.answered {ahead : List IssuedRequest}
    {session relayed : Session (StateM Seen)}
    (mirrored : Mirrored node orderly ahead session relayed)
    {connection image : Connection (StateM Seen)}
    (connects : node.Connects orderly (some connection) (some image))
    {traffic imageTraffic : Traffic (StateM Seen)}
    (shifted : traffic.Shifted orderly imageTraffic) :
    Mirrored node orderly ahead (session.answered connection traffic)
      (relayed.answered image imageTraffic) where
  gateway :=
    { mirrored.gateway with
      connection := by
        cases connects with
        | some flavor capacity numbered generation inOrder =>
            have later : node.Connects orderly _ _ :=
              .some flavor capacity traffic.numbered generation inOrder
            rw [← shifted.numbered] at later
            exact later
      undelivered := shifted.left
      relayUndelivered := shifted.relayedLeft }
  issued := by
    have generation : image.generation = connection.generation := by
      cases connects
      rfl
    rcases mirrored.issued with ⟨images, issued, same⟩
    refine ⟨images ++ imageTraffic.sent.map (IssuedRequest.mk image.generation), ?_, ?_⟩
    · change relayed.issued ++ _ = _
      rw [issued, List.append_assoc]
    · change Reordered _ _ ((session.issued ++ traffic.sent.map _).map _) _
      rw [List.map_append, List.map_map, generation]
      refine same.append ?_
      have sent : Reordered IssuedRequest.asked orderly
          ((traffic.sent.map Rpc.Request.shifted).map (IssuedRequest.mk connection.generation))
          (imageTraffic.sent.map (IssuedRequest.mk connection.generation)) :=
        shifted.sent.map fun _ => rfl
      rwa [List.map_map] at sent
  events := mirrored.events

/-! ## Parallel actions -/

/-- The action does the same on a gateway and on its image. -/
structure Parallel (node : Node) (orderly : Bool) (action : GatewayM (StateM Seen) α) : Prop where
  grows {session : Session (StateM Seen)} (on : session.gateway.On node) (seen : Seen) :
    (action session seen).1.2.gateway.On node ∧ Grows seen (action session seen).2
  mirrors {ahead : List IssuedRequest} {session relayed : Session (StateM Seen)}
    {seen image : Seen} (mirrored : Session.Mirrored node orderly ahead session relayed)
    (same : Reordered id orderly seen image)
    (serves : node.Serves orderly (action session seen).2) :
    (action relayed image).1.1 = (action session seen).1.1 ∧
      Session.Mirrored node orderly ahead (action session seen).1.2 (action relayed image).1.2 ∧
      Reordered id orderly (action session seen).2 (action relayed image).2

namespace Parallel

theorem bind {action : GatewayM (StateM Seen) α} {next : α → GatewayM (StateM Seen) β}
    (early : Parallel node orderly action) (late : ∀ answer, Parallel node orderly (next answer)) :
    Parallel node orderly (action >>= next) where
  grows := by
    intro session on seen
    have first := early.grows on seen
    rw [GatewayM.bind_eq]
    revert first
    rcases action session seen with ⟨⟨error | answer, after⟩, later⟩
    · intro first
      exact first
    · intro first
      have second := (late answer).grows first.1 later
      exact ⟨second.1, first.2.trans second.2⟩
  mirrors := by
    intro ahead session relayed seen image mirrored same serves
    have grown := early.grows mirrored.gateway.on seen
    have first (serves : node.Serves orderly (action session seen).2) :=
      early.mirrors mirrored same serves
    rw [GatewayM.bind_eq] at serves
    rw [GatewayM.bind_eq, GatewayM.bind_eq]
    revert grown first serves
    rcases action session seen with ⟨⟨error | answer, after⟩, later⟩
    · rcases action relayed image with ⟨⟨outcome, imaged⟩, imageLater⟩
      intro serves grown first
      dsimp only at first
      rcases first serves with ⟨rfl, mirrored, same⟩
      exact ⟨rfl, mirrored, same⟩
    · rcases action relayed image with ⟨⟨outcome, imaged⟩, imageLater⟩
      intro serves grown first
      dsimp only at first
      have further := (late answer).grows grown.1 later
      rcases first (serves.of_grows further.2) with ⟨rfl, mirrored, same⟩
      exact (late answer).mirrors mirrored same serves

theorem require (outcome : Except GatewayError α) :
    Parallel node orderly (Gateway.require outcome) where
  grows on seen := ⟨on, .refl seen⟩
  mirrors mirrored same _ := ⟨rfl, mirrored, same⟩

theorem pure (answer : α) : Parallel node orderly (Pure.pure answer) :=
  require (.ok answer)

theorem throw (error : GatewayError) :
    Parallel node orderly (MonadExcept.throw error : GatewayM (StateM Seen) α) :=
  require (.error error)

/-- An action that goes on after a failure. -/
theorem attempt {action : GatewayM (StateM Seen) α} (parallel : Parallel node orderly action) :
    Parallel node orderly
      (ExceptT.lift action.run : GatewayM (StateM Seen) (Except GatewayError α)) where
  grows on seen := parallel.grows on seen
  mirrors mirrored same serves := by
    rcases parallel.mirrors mirrored same serves with ⟨outcome, images, later⟩
    exact ⟨congrArg Except.ok outcome, images, later⟩

theorem emitAll (events : List Event) : Parallel node orderly (Gateway.emitAll events) where
  grows on seen := ⟨on, .refl seen⟩
  mirrors mirrored same _ :=
    ⟨rfl, ⟨mirrored.gateway, mirrored.issued, congrArg (· ++ events) mirrored.events⟩, same⟩

theorem emit (event : Event) : Parallel node orderly (Gateway.emit event) :=
  emitAll [event]

theorem update {change : Gateway (StateM Seen) → Gateway (StateM Seen)}
    (connection : ∀ gateway, (change gateway).connection = gateway.connection)
    (undelivered : ∀ gateway, (change gateway).undelivered = gateway.undelivered)
    (mirrors : ∀ {gateway relayed}, Gateway.Mirrored node orderly gateway relayed →
      Gateway.Mirrored node orderly (change gateway) (change relayed)) :
    Parallel node orderly (Gateway.update change) where
  grows {session} on seen := by
    refine ⟨⟨?_, ?_⟩, .refl seen⟩
    · intro found equal
      exact on.fronts found ((connection _).symm.trans equal)
    · change ∀ delivery ∈ (change session.gateway).undelivered, Bears delivery
      rw [undelivered]
      exact on.bears
  mirrors mirrored same _ :=
    ⟨rfl, ⟨mirrors mirrored.gateway, mirrored.issued, mirrored.events⟩, same⟩

/-- An action that looks at the gateway, but only at what is the same on both sides. -/
theorem look {next : Gateway (StateM Seen) → GatewayM (StateM Seen) α}
    (same : ∀ {gateway relayed}, Gateway.Mirrored node orderly gateway relayed →
      next relayed = next gateway)
    (parallel : ∀ gateway, Parallel node orderly (next gateway)) :
    Parallel node orderly (Gateway.current >>= next) where
  grows on seen := (parallel _).grows on seen
  mirrors {ahead session relayed seen image} mirrored reordered serves := by
    have asked : (Gateway.current >>= next) relayed image = next session.gateway relayed image := by
      rw [Gateway.current_bind, same mirrored.gateway]
    rw [asked]
    exact (parallel _).mirrors mirrored reordered serves

/-! ## Asking the node -/

theorem inquire {query : Query α} (relayable : query.Relayable) :
    Parallel node orderly (Gateway.inquire query) where
  grows {session} on seen := by
    cases found : session.gateway.wallet with
    | error error =>
        rw [Gateway.inquire_refused found]
        exact ⟨on, .refl seen⟩
    | ok connection =>
        have fronts := on.fronts connection (Gateway.connection_of_wallet found)
        rw [Gateway.inquire_connected found]
        have bears : ∀ delivery ∈
            (Traffic.start connection.numbered session.gateway.undelivered).undelivered,
            Bears delivery := on.bears
        have grown := relayable.runWith_grows fronts bears seen
        refine ⟨⟨?_, grown.2⟩, grown.1⟩
        intro later equal
        cases equal
        exact fronts
  mirrors {ahead session relayed seen image} mirrored same serves := by
    rcases mirrored.gateway.wallet_cases with
      ⟨error, refused, refusedToo⟩ | ⟨connection, other, found, foundToo, connects⟩
    · rw [Gateway.inquire_refused refused, Gateway.inquire_refused refusedToo]
      exact ⟨rfl, mirrored, same⟩
    · have twins : node.Twins orderly connection.backend other.backend := by
        cases connects with
        | some flavor capacity numbered generation inOrder =>
            exact ⟨rfl, .direct _, .relay node.serve flavor capacity _, inOrder⟩
      have start : Traffic.Shifted orderly
          (.start connection.numbered session.gateway.undelivered)
          (.start other.numbered relayed.gateway.undelivered) := by
        refine ⟨?_, .nil, mirrored.gateway.undelivered, mirrored.gateway.relayUndelivered⟩
        cases connects
        rfl
      rw [Gateway.inquire_connected found] at serves ⊢
      rw [Gateway.inquire_connected foundToo]
      rcases relayable.runWith_parallel twins start same serves with ⟨outcome, traffic, later⟩
      exact ⟨congrArg Except.ok outcome, mirrored.answered connects traffic, later⟩

theorem ask {query : Query α} (relayable : query.Relayable) :
    Parallel node orderly (Gateway.ask query) :=
  (inquire relayable).bind require

/-! ## Putting down what was learned -/

theorem resolve (kind : ContractKind) (address : Address) :
    Parallel node orderly (Gateway.resolve kind address) := by
  apply look
  · intro gateway relayed mirrored
    rw [mirrored.versions]
  intro gateway
  apply bind (ask (.resolve gateway.versions kind address))
  intro found
  apply bind
  · refine update (fun _ => rfl) (fun _ => rfl) fun mirrored => ?_
    exact { mirrored with versions := rfl }
  · intro _
    exact pure _

theorem joinNetwork : Parallel node orderly Gateway.joinNetwork := by
  apply bind (ask .network)
  intro network
  apply look
  · intro gateway relayed mirrored
    rw [mirrored.config]
  intro gateway
  cases gateway.config.checkNetwork network with
  | error error => exact bind (emit _) fun _ => throw error
  | ok accepted =>
      apply bind
      · refine update (fun _ => rfl) (fun _ => rfl) fun mirrored => ?_
        exact { mirrored with networkId := rfl }
      · intro _
        exact emit _

theorem getAccount : Parallel node orderly Gateway.getAccount := by
  apply bind (ask .firstAccount)
  intro found
  cases found with
  | none => exact pure none
  | some account =>
      apply bind
      · refine update (fun _ => rfl) (fun _ => rfl) fun mirrored => ?_
        exact { mirrored with account := rfl, ready := rfl }
      · intro _
        exact bind (emit _) fun _ => bind (emit _) fun _ => pure _

/-- Whatever is put together from these parts does the same on both sides. -/
theorem of_composed {scope : Scope} {action : GatewayM (StateM Seen) α}
    (composed : action.Composed scope) : Parallel node orderly action := by
  induction composed with
  | require outcome => exact require outcome
  | bind early late earlyParallel lateParallel => exact earlyParallel.bind lateParallel
  | attempt composed parallel => exact parallel.attempt
  | look same parts parallel => exact look (fun mirrored => same mirrored.looksLike) parallel
  | tell outward => exact emitAll _
  | inquire relayable within => exact inquire relayable
  | joinNetwork may => exact joinNetwork
  | getAccount may => exact getAccount
  | resolve may kind address => exact resolve kind address

end Parallel

end LockGateway
