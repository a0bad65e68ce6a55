import Mathlib.Logic.ExistsUnique
import LockGateway.Proofs.Gateway.Asking
import LockGateway.Proofs.Gateway.Encoding

/-! The ends of an order. It is refused before anything is handed in, or its
transaction is handed in once and is accepted or fails; the events tell which. Only an
amount that is cut inside a character leaves an order without an end. -/

namespace LockGateway

variable {m : Type → Type} {σ : Type}

/-! ## The transaction that is sent -/

/-- What the reply to a call that was handed in says of the transaction. -/
def ContractCall.sent (call : ContractCall) (reply : Reply) :
    Except GatewayError SentTransaction := do
  let answer ← reply.result
  let hash ← readTransactionHash answer
  return { hash, sender := call.sender, receiver := call.receiver, data := call.data }

/-- The reply that a call would have now, over the connection of a gateway. -/
def Gateway.replyTo (gateway : Gateway (StateM σ)) (method : String) (params : Json)
    (world : σ) : Reply :=
  match gateway.wallet with
  | .ok connection =>
      (connection.backend.caller.call method params
        (.start connection.numbered gateway.undelivered) world).1.1
  | .error error => .error error

theorem Query.handIn_eq (call : ContractCall) :
    Query.handIn call =
      .call "eth_sendTransaction" (.list [call.request]) fun reply => .done (call.sent reply) := by
  refine congrArg (Query.call "eth_sendTransaction" (.list [call.request])) ?_
  funext reply
  have hashed (answer : Json) : (do
      let hash ← ofExcept (readTransactionHash answer)
      return { hash, sender := call.sender, receiver := call.receiver, data := call.data } :
        Query SentTransaction) = .done (do
      let hash ← readTransactionHash answer
      return { hash, sender := call.sender, receiver := call.receiver, data := call.data }) :=
    done_bind (readTransactionHash answer) _
  change (done reply.result >>= fun answer => _) = _
  simp only [hashed]
  exact done_bind reply.result _

namespace Gateway

theorem dispatch_connected {session : Session (StateM σ)} {connection : Connection (StateM σ)}
    (connected : session.gateway.wallet = .ok connection) (call : ContractCall) (world : σ) :
    dispatch call session world =
      let replied := connection.backend.caller.call "eth_sendTransaction" (.list [call.request])
        (.start connection.numbered session.gateway.undelivered) world
      let after := session.answered connection replied.1.2
      match call.kind.track (call.sent replied.1.1) with
      | (.ok transaction, events) =>
          ((.ok transaction, { after with events := after.events ++ events }), replied.2)
      | (.error error, events) =>
          ((.error error, { after with events := after.events ++ events ++ [.error error] }),
            replied.2) := by
  have answered : connection.answer session.gateway.undelivered (.handIn call) world =
      let replied := connection.backend.caller.call "eth_sendTransaction" (.list [call.request])
        (.start connection.numbered session.gateway.undelivered) world
      ((call.sent replied.1.1, replied.1.2), replied.2) := by
    rw [Query.handIn_eq]
    rfl
  rw [dispatch, GatewayM.bind_ok (inquire_connected connected world), answered]
  dsimp only
  rcases call.kind.track _ with ⟨error | transaction, events⟩
  · rfl
  · rfl

/-- Whatever becomes of it, the call is sent exactly once. -/
theorem dispatch_issued {session : Session (StateM σ)} {connection : Connection (StateM σ)}
    (connected : session.gateway.wallet = .ok connection) (call : ContractCall) (world : σ) :
    (dispatch call session world).1.2.issued =
      session.issued ++ [⟨connection.generation, .make (UInt64.ofNat (connection.numbered + 1))
        "eth_sendTransaction" (.list [call.request])⟩] := by
  have named : "eth_sendTransaction" ≠ "" := by decide
  have sent := connection.backend.call_sent [call.request] named
    (.start connection.numbered session.gateway.undelivered) world
  have recorded (traffic : Traffic (StateM σ)) :
      (session.answered connection traffic).issued =
        session.issued ++ traffic.sent.map fun request => ⟨connection.generation, request⟩ :=
    rfl
  rw [dispatch_connected connected]
  dsimp only
  rcases call.kind.track _ with ⟨error | transaction, events⟩
  · dsimp only
    rw [recorded, sent]
    rfl
  · dsimp only
    rw [recorded, sent]
    rfl

end Gateway

/-! ## Before anything is sent -/

namespace Order

/-- The version that the order's contract turns out to have. -/
def resolution (order : Order) (gateway : Gateway (StateM σ)) (world : σ) :
    Except GatewayError ContractVersion :=
  let contract := order.contract gateway.config.unlockAddress
  (Gateway.resolve contract.1 contract.2 (.start gateway) world).1.1

/-- Why an order is refused before anything is handed in. -/
inductive Refuses (order : Order) (gateway : Gateway (StateM σ)) (world : σ) :
    GatewayError → Prop
  | unsigned {error : GatewayError} (refused : order.signer gateway = .error error) :
      Refuses order gateway world error
  | unresolved {error : GatewayError} {signer : Address}
      (signed : order.signer gateway = .ok signer)
      (refused : order.resolution gateway world = .error error) :
      Refuses order gateway world error
  | unencoded {error : GatewayError} {signer : Address} {version : ContractVersion}
      (signed : order.signer gateway = .ok signer)
      (resolved : order.resolution gateway world = .ok version)
      (refused : order.encode gateway.config.unlockAddress signer version = .error error)
      (answered : error ≠ .aborted) :
      Refuses order gateway world error

/-- The order comes to an amount that is cut inside a character. -/
def Breaks (order : Order) (gateway : Gateway (StateM σ)) (world : σ) : Prop :=
  ∃ signer version, order.signer gateway = .ok signer ∧
    order.resolution gateway world = .ok version ∧ order.Splits version

theorem prepare_asks (order : Order) :
    GatewayM.Keeps (Session.Asks readsContract) (order.prepare (m := StateM σ)) := by
  apply Session.Asks.bind
  · exact .of_same .refl fun _ _ => rfl
  · intro gateway
    apply Session.Asks.bind
    · exact .of_same .refl fun _ _ => rfl
    · intro signer
      apply Session.Asks.bind (Gateway.resolve_asks _ _)
      intro version
      exact .of_same .refl fun _ _ => rfl

variable {order : Order} {gateway : Gateway (StateM σ)} {world : σ}

theorem prepare_eq (order : Order) (gateway : Gateway (StateM σ)) (world : σ) :
    order.prepare (.start gateway) world =
      match order.signer gateway with
      | .error error => ((.error error, .start gateway), world)
      | .ok signer =>
          match Gateway.resolve (order.contract gateway.config.unlockAddress).1
            (order.contract gateway.config.unlockAddress).2 (.start gateway) world with
          | ((.error error, after), later) => ((.error error, after), later)
          | ((.ok version, after), later) =>
              ((order.encode gateway.config.unlockAddress signer version, after), later) := by
  change (do
    let signer ← Gateway.require (order.signer gateway)
    let version ← Gateway.resolve (order.contract gateway.config.unlockAddress).1
      (order.contract gateway.config.unlockAddress).2
    Gateway.require (order.encode gateway.config.unlockAddress signer version) :
      GatewayM (StateM σ) ContractCall) (.start gateway) world = _
  cases order.signer gateway with
  | error error => rfl
  | ok signer =>
      rw [GatewayM.bind_ok (Gateway.require_eq _ _ _), GatewayM.bind_eq]
      dsimp only
      rcases Gateway.resolve (order.contract gateway.config.unlockAddress).1
        (order.contract gateway.config.unlockAddress).2 (.start gateway) world with
        ⟨⟨error | version, after⟩, later⟩
      · rfl
      · rfl

theorem prepare_outcome (order : Order) (gateway : Gateway (StateM σ)) (world : σ) :
    (order.prepare (.start gateway) world).1.1 = (do
      let signer ← order.signer gateway
      let version ← order.resolution gateway world
      order.encode gateway.config.unlockAddress signer version) := by
  rw [prepare_eq]
  unfold resolution
  cases order.signer gateway with
  | error error => rfl
  | ok signer =>
      dsimp only
      rcases Gateway.resolve (order.contract gateway.config.unlockAddress).1
        (order.contract gateway.config.unlockAddress).2 (.start gateway) world with
        ⟨⟨error | version, after⟩, later⟩
      · rfl
      · rfl

/-- An order that is not prepared is refused with a cause, or breaks off. -/
theorem prepare_error {error : GatewayError}
    (fails : (order.prepare (.start gateway) world).1.1 = .error error) :
    order.Refuses gateway world error ∨ (error = .aborted ∧ order.Breaks gateway world) := by
  rw [prepare_outcome] at fails
  rcases Outcome.bind_eq_error_iff.mp fails with unsigned | ⟨signer, signed, fails⟩
  · exact .inl (.unsigned unsigned)
  rcases Outcome.bind_eq_error_iff.mp fails with unresolved | ⟨version, resolved, fails⟩
  · exact .inl (.unresolved signed unresolved)
  by_cases aborted : error = .aborted
  · subst aborted
    exact .inr ⟨rfl, signer, version, signed, resolved, (encode_aborted_iff order).mp fails⟩
  · exact .inl (.unencoded signed resolved fails aborted)

theorem prepare_ok {call : ContractCall}
    (prepared : (order.prepare (.start gateway) world).1.1 = .ok call) :
    ∃ signer version, order.signer gateway = .ok signer ∧
      order.resolution gateway world = .ok version ∧
      order.encode gateway.config.unlockAddress signer version = .ok call := by
  rw [prepare_outcome] at prepared
  rcases Outcome.bind_eq_ok_iff.mp prepared with ⟨signer, signed, prepared⟩
  rcases Outcome.bind_eq_ok_iff.mp prepared with ⟨version, resolved, encoded⟩
  exact ⟨signer, version, signed, resolved, encoded⟩

/-- A version is only learned over a connection that is of use. -/
theorem wallet_of_resolution {version : ContractVersion}
    (resolved : order.resolution gateway world = .ok version) :
    ∃ connection, gateway.wallet = .ok connection := by
  cases found : gateway.wallet with
  | ok connection => exact ⟨connection, rfl⟩
  | error error =>
      unfold resolution at resolved
      dsimp only at resolved
      rw [Gateway.resolve_eq, GatewayM.bind_error (Gateway.ask_refused found world)] at resolved
      cases resolved

end Order

/-! ## The three ends -/

/-- The transactions that are handed in during a turn. -/
def Turn.handedIn (turn : Turn) : List Rpc.Request :=
  (turn.issued.map (·.request)).filter (·.method = "eth_sendTransaction")

/-- The answer to a transaction is its hash. The zero hash stands for none. -/
def NamesHash (answer : Json) (hash : Hash) : Prop :=
  hash ≠ Hash.zero ∧ ∃ text, answer.string? = some text ∧ Hash.ofText text = .ok hash

theorem namesHash_iff {answer : Json} {hash : Hash} :
    NamesHash answer hash ↔ hash ≠ Hash.zero ∧ readTransactionHash answer = .ok hash := by
  unfold NamesHash readTransactionHash
  cases answer.string? with
  | none => simp
  | some text =>
      by_cases empty : text = "" ∨ text = "0x"
      · have unread (hash : Hash) : Hash.ofText text ≠ .ok hash := by
          rcases empty with equal | equal
          · subst equal
            intro read
            cases read
          · subst equal
            intro read
            cases read
        simp only [empty, if_true]
        constructor
        · rintro ⟨_, other, equal, read⟩
          cases equal
          exact absurd read (unread hash)
        · rintro ⟨named, read⟩
          cases read
          exact absurd rfl named
      · simp only [empty, if_false]
        simp [Outcome.mapError_eq_ok_iff]

theorem readTransactionHash_error {answer : Json} {error : GatewayError}
    (unread : readTransactionHash answer = .error error) :
    ∃ fault, error = .invalidResponse fault := by
  unfold readTransactionHash at unread
  cases found : answer.string? with
  | none =>
      rw [found] at unread
      cases unread
      exact ⟨_, rfl⟩
  | some text =>
      rw [found] at unread
      dsimp only at unread
      split at unread
      · cases unread
      · cases read : Hash.ofText text with
        | error fault =>
            rw [read] at unread
            cases unread
            exact ⟨_, rfl⟩
        | ok hash =>
            rw [read] at unread
            cases unread

/-- The call as a transaction that a node just accepted. -/
def ContractCall.submitted (call : ContractCall) (kind : TransactionKind) (hash : Hash) :
    Transaction where
  hash
  sender := call.sender
  receiver := call.receiver
  data := call.data
  kind
  status := .submitted
  blockNumber := none

inductive OrderEnd where
  | refused (error : GatewayError)
  | accepted (transaction : Transaction)
  | failed (error : GatewayError)

namespace Order

def turn (order : Order) (gateway : Gateway (StateM σ)) (world : σ) : Turn :=
  (order.operation.perform gateway world).1.1

/-- The order comes to a call, and the call comes to a reply. -/
structure HandsIn (order : Order) (gateway : Gateway (StateM σ)) (world : σ)
    (call : ContractCall) (reply : Reply) : Prop where
  encoded : (do
    let signer ← order.signer gateway
    let version ← order.resolution gateway world
    order.encode gateway.config.unlockAddress signer version) = .ok call
  replied :
    let prepared := order.prepare (.start gateway) world
    prepared.1.2.gateway.replyTo "eth_sendTransaction" (.list [call.request]) prepared.2 = reply
  handedIn : (order.turn gateway world).handedIn.map (·.params) = [.list [call.request]]

inductive EndsIn (order : Order) (gateway : Gateway (StateM σ)) (world : σ) : OrderEnd → Prop
  | refused {error : GatewayError}
      (cause : order.Refuses gateway world error)
      (handedIn : (order.turn gateway world).handedIn = [])
      (events : (order.turn gateway world).events = [])
      (outcome : (order.turn gateway world).outcome = .error error) :
      EndsIn order gateway world (.refused error)
  | accepted {call : ContractCall} {reply : Reply} {answer : Json} {hash : Hash}
      (handsIn : order.HandsIn gateway world call reply)
      (answered : reply.result = .ok answer) (named : NamesHash answer hash)
      (events : (order.turn gateway world).events =
        [.transactionPending order.kind, .transactionNew (call.submitted order.kind hash)])
      (outcome : (order.turn gateway world).outcome =
        .ok (.transaction (call.submitted order.kind hash))) :
      EndsIn order gateway world (.accepted (call.submitted order.kind hash))
  | failed {call : ContractCall} {reply : Reply} {error : GatewayError}
      (handsIn : order.HandsIn gateway world call reply)
      (cause : reply.result = .error error ∨
        ∃ answer fault, reply.result = .ok answer ∧ (∀ hash, ¬ NamesHash answer hash) ∧
          error = .invalidResponse fault)
      (events : (order.turn gateway world).events =
        [.transactionPending order.kind, .error error])
      (outcome : (order.turn gateway world).outcome = .error error) :
      EndsIn order gateway world (.failed error)

/-- What the reply to a call comes to. -/
theorem track_sent (call : ContractCall) (kind : TransactionKind) (reply : Reply) :
    (∃ answer hash, reply.result = .ok answer ∧ NamesHash answer hash ∧
      kind.track (call.sent reply) = (.ok (call.submitted kind hash),
        [.transactionPending kind, .transactionNew (call.submitted kind hash)])) ∨
    ∃ error, (reply.result = .error error ∨
        ∃ answer fault, reply.result = .ok answer ∧ (∀ hash, ¬ NamesHash answer hash) ∧
          error = .invalidResponse fault) ∧
      kind.track (call.sent reply) = (.error error, [.transactionPending kind]) := by
  unfold ContractCall.sent
  cases reply.result with
  | error error => exact .inr ⟨error, .inl rfl, rfl⟩
  | ok answer =>
      change (∃ _ _, _ ∧ _ ∧ kind.track (do
          let hash ← readTransactionHash answer
          return { hash, sender := call.sender, receiver := call.receiver, data := call.data }) =
            _) ∨ ∃ _, _ ∧ kind.track (do
          let hash ← readTransactionHash answer
          return { hash, sender := call.sender, receiver := call.receiver, data := call.data }) = _
      cases read : readTransactionHash answer with
      | error error =>
          right
          rcases readTransactionHash_error read with ⟨fault, equal⟩
          refine ⟨error, .inr ⟨answer, fault, rfl, ?_, equal⟩, rfl⟩
          intro hash named
          rw [(namesHash_iff.mp named).2] at read
          cases read
      | ok hash =>
          by_cases zero : hash = Hash.zero
          · right
            refine ⟨.invalidResponse .emptyHash, .inr ⟨answer, .emptyHash, rfl, ?_, rfl⟩, ?_⟩
            · intro other named
              rw [(namesHash_iff.mp named).2] at read
              cases read
              exact named.1 zero
            · simp [TransactionKind.track, SentTransaction.submitted, Except.bind, bind, pure,
                Except.pure, zero]
          · left
            refine ⟨answer, hash, rfl, namesHash_iff.mpr ⟨zero, read⟩, ?_⟩
            simp [TransactionKind.track, SentTransaction.submitted, Except.bind, bind, pure,
              Except.pure, zero, ContractCall.submitted]

variable {order : Order} {gateway : Gateway (StateM σ)} {world : σ}

theorem turn_eq (order : Order) (gateway : Gateway (StateM σ)) (world : σ) :
    order.turn gateway world =
      let placed := order.place (.start gateway) world
      { outcome := placed.1.1.map .transaction
        issued := placed.1.2.issued
        events := placed.1.2.events } := by
  have answers : (order.operation : Operation (StateM σ)).action (.start gateway) world =
      (do return .transaction (← order.place) : GatewayM (StateM σ) Answer) (.start gateway)
        world := by
    rw [order.action_eq]
  change Turn.mk ((order.operation : Operation (StateM σ)).action (.start gateway) world).1.1
    ((order.operation : Operation (StateM σ)).action (.start gateway) world).1.2.issued
    ((order.operation : Operation (StateM σ)).action (.start gateway) world).1.2.events = _
  rw [answers, GatewayM.bind_eq]
  dsimp only
  rcases order.place (.start gateway) world with ⟨⟨error | transaction, after⟩, later⟩
  · rfl
  · rfl

/-- Nothing is handed in while an order is prepared. -/
theorem handedIn_of_asks {before after : Session m}
    (asks : Session.Asks readsContract before after) (start : before.issued = []) :
    (after.issued.map (·.request)).filter (·.method = "eth_sendTransaction") = [] := by
  rcases asks.issues with ⟨sent, equal, fits⟩
  rw [equal, start, List.nil_append, List.filter_eq_nil_iff]
  intro request member
  rcases List.mem_map.mp member with ⟨issued, sentMember, equal⟩
  subst equal
  rcases fits issued sentMember with method | method
  · simp [method]
  · simp [method]

theorem ends_refused {error : GatewayError}
    (fails : (order.prepare (.start gateway) world).1.1 = .error error) :
    (order.turn gateway world).outcome = .error error ∧
      (order.turn gateway world).handedIn = [] ∧ (order.turn gateway world).events = [] := by
  have asks := order.prepare_asks (.start gateway) world
  rw [turn_eq, place, GatewayM.bind_eq]
  revert asks fails
  rcases order.prepare (.start gateway) world with ⟨⟨cause | call, after⟩, later⟩
  · intro fails asks
    cases fails
    exact ⟨rfl, handedIn_of_asks asks rfl, asks.events⟩
  · intro fails
    cases fails

/-- An order that is prepared is handed in. -/
theorem place_prepared {call : ContractCall} {session : Session (StateM σ)}
    (prepared : (order.prepare session world).1.1 = .ok call) :
    order.place session world =
      Gateway.dispatch call (order.prepare session world).1.2 (order.prepare session world).2 := by
  have ends : order.prepare session world =
      ((.ok call, (order.prepare session world).1.2), (order.prepare session world).2) :=
    Prod.ext (Prod.ext prepared rfl) rfl
  exact GatewayM.bind_ok ends _

theorem ends_handed {call : ContractCall}
    (prepared : (order.prepare (.start gateway) world).1.1 = .ok call) :
    ∃ reply, order.HandsIn gateway world call reply ∧
      match order.kind.track (call.sent reply) with
      | (.ok transaction, events) =>
          (order.turn gateway world).events = events ∧
            (order.turn gateway world).outcome = .ok (.transaction transaction)
      | (.error error, events) =>
          (order.turn gateway world).events = events ++ [.error error] ∧
            (order.turn gateway world).outcome = .error error := by
  rcases prepare_ok prepared with ⟨signer, version, signed, resolved, encoded⟩
  rcases wallet_of_resolution resolved with ⟨first, usable⟩
  have asks := order.prepare_asks (.start gateway) world
  rcases asks.connection.wallet_ok usable with ⟨connection, connected, _⟩
  have placed := place_prepared prepared
  let after := (order.prepare (.start gateway) world).1.2
  let later := (order.prepare (.start gateway) world).2
  let replied := connection.backend.caller.call "eth_sendTransaction" (.list [call.request])
    (.start connection.numbered after.gateway.undelivered) later
  refine ⟨replied.1.1, ?_, ?_⟩
  · refine ⟨?_, ?_, ?_⟩
    · rw [← prepare_outcome]
      exact prepared
    · change Gateway.replyTo after.gateway _ _ later = _
      rw [Gateway.replyTo, connected]
    · rw [Turn.handedIn, turn_eq, placed]
      dsimp only
      rw [Gateway.dispatch_issued connected, List.map_append, List.filter_append,
        handedIn_of_asks asks rfl]
      rfl
  · rw [turn_eq, placed, Gateway.dispatch_connected connected, ← encode_kind encoded]
    have told : after.events = [] := asks.events
    change match call.kind.track (call.sent replied.1.1) with
      | (.ok transaction, events) => _
      | (.error error, events) => _
    dsimp only
    rcases call.kind.track (call.sent replied.1.1) with ⟨error | transaction, events⟩
    · refine ⟨?_, rfl⟩
      change after.events ++ events ++ [.error error] = _
      rw [told]
      rfl
    · refine ⟨?_, rfl⟩
      change after.events ++ events = _
      rw [told]
      rfl

theorem EndsIn.unique {first second : OrderEnd} (early : order.EndsIn gateway world first)
    (late : order.EndsIn gateway world second) : first = second := by
  have apart {call : ContractCall} {reply : Reply}
      (handsIn : order.HandsIn gateway world call reply)
      (none : (order.turn gateway world).handedIn = []) : False := by
    have sent := handsIn.handedIn
    rw [none] at sent
    cases sent
  cases early with
  | refused cause none events outcome =>
      cases late with
      | refused cause none events other =>
          rw [outcome] at other
          cases other
          rfl
      | accepted handsIn answered named events other => exact (apart handsIn none).elim
      | failed handsIn cause events other => exact (apart handsIn none).elim
  | accepted handsIn answered named events outcome =>
      cases late with
      | refused cause none events other => exact (apart handsIn none).elim
      | accepted handsIn answered named events other =>
          rw [outcome] at other
          rw [Answer.transaction.inj (Except.ok.inj other)]
      | failed handsIn cause events other =>
          rw [outcome] at other
          cases other
  | failed handsIn cause events outcome =>
      cases late with
      | refused cause none events other => exact (apart handsIn none).elim
      | accepted handsIn answered named events other =>
          rw [outcome] at other
          cases other
      | failed handsIn cause events other =>
          rw [outcome] at other
          cases other
          rfl

/-- A wallet that knows a lock of the first version, on network 1. -/
def lockOwner : Wallet (StateM Unit) :=
  .plain fun request => pure (.ok (.success request.id (
    if request.method = "net_version" then .string "1"
    else if request.method = "eth_getCode" then .string "0x6080"
    else .null)))

def joined : Gateway (StateM Unit) :=
  (Operation.connect (.direct lockOwner)).after (.new .standard) ()

/-- The eighteen places of ether end inside the last character of the price. -/
def cutPrice : Order :=
  .updateKeyPrice
    { lock := .zero, account := .zero, keyPrice := "1.12345678901234567é", currency := none,
      decimals := 18 }

/-- An order has exactly one of the three ends, unless its amount is cut inside a
character. -/
theorem ends_once_iff (order : Order) (gateway : Gateway (StateM σ)) (world : σ) :
    (∃! ending, order.EndsIn gateway world ending) ↔ ¬ order.Breaks gateway world := by
  constructor
  · rintro ⟨ending, ends, _⟩ ⟨signer, version, signed, resolved, splits⟩
    have broken : order.encode gateway.config.unlockAddress signer version = .error .aborted :=
      (encode_aborted_iff order).mpr splits
    have apart {call : ContractCall} {reply : Reply}
        (handsIn : order.HandsIn gateway world call reply) : False := by
      have encoded := handsIn.encoded
      rw [signed, resolved] at encoded
      change order.encode gateway.config.unlockAddress signer version = .ok call at encoded
      rw [broken] at encoded
      cases encoded
    cases ends with
    | refused cause =>
        cases cause with
        | unsigned refused =>
            rw [signed] at refused
            cases refused
        | unresolved _ refused =>
            rw [resolved] at refused
            cases refused
        | unencoded other found refused answered =>
            rw [signed] at other
            cases other
            rw [resolved] at found
            cases found
            rw [broken] at refused
            cases refused
            exact answered rfl
    | accepted handsIn => exact apart handsIn
    | failed handsIn => exact apart handsIn
  · intro whole
    cases prepared : (order.prepare (.start gateway) world).1.1 with
    | error error =>
        rcases prepare_error prepared with cause | ⟨_, breaks⟩
        · rcases ends_refused prepared with ⟨outcome, handedIn, events⟩
          exact ⟨.refused error, .refused cause handedIn events outcome,
            fun other ends => ends.unique (.refused cause handedIn events outcome)⟩
        · exact absurd breaks whole
    | ok call =>
        rcases ends_handed prepared with ⟨reply, handsIn, told⟩
        rcases track_sent call order.kind reply with
          ⟨answer, hash, answered, named, tracked⟩ | ⟨error, cause, tracked⟩
        · rw [tracked] at told
          have ends := EndsIn.accepted handsIn answered named told.1 told.2
          exact ⟨_, ends, fun other otherEnds => otherEnds.unique ends⟩
        · rw [tracked] at told
          have ends := EndsIn.failed handsIn cause told.1 told.2
          exact ⟨_, ends, fun other otherEnds => otherEnds.unique ends⟩

/-- The price is cut inside a character, and the order has none of the three ends. -/
theorem cutPrice_has_no_end : ¬ ∃ ending, cutPrice.EndsIn joined () ending := by
  have aborted : (cutPrice.turn joined ()).outcome = .error .aborted := rfl
  have silent : (cutPrice.turn joined ()).events = [] := rfl
  have resolution : cutPrice.resolution joined () = .ok .v0 := rfl
  rintro ⟨ending, ends⟩
  cases ends with
  | refused cause handedIn events outcome =>
      rw [aborted] at outcome
      cases outcome
      cases cause with
      | unsigned refused => cases refused
      | unresolved signed refused =>
          rw [resolution] at refused
          cases refused
      | unencoded signed resolved refused answered => exact answered rfl
  | accepted handsIn answered named events outcome =>
      rw [aborted] at outcome
      cases outcome
  | failed handsIn cause events outcome =>
      rw [silent] at events
      cases events

end Order

end LockGateway
