import LockGateway.Proofs.Gateway.Consistency
import LockGateway.Proofs.Relay.HostedAccount

/-! The numbers of the requests of a gateway. Each attempt to connect begins a new count, and
every request that is made takes the next number. What an operation makes it also sends, in
that order, but for the reading of a lock over a connection that has no room for all of its
calls: there the calls may change places, and a fault may leave some of them out. -/

namespace LockGateway

variable {σ α : Type}

/-! ## Sessions -/

/-- Requests were made over the connection that there is, and some of them sent. -/
def Session.Tallies (faulted batched : Prop) (before after : Session (StateM σ)) : Prop :=
  ∀ connection, before.gateway.connection = some connection →
    ∃ later made sent, after.gateway.connection = some later ∧
      later.uncounted = connection.uncounted ∧
      after.issued = before.issued ++ sent.map (IssuedRequest.mk connection.generation) ∧
      connection.backend.Makes faulted batched
        (.start connection.numbered before.gateway.undelivered)
        (.start later.numbered after.gateway.undelivered) made sent

/-- Some batch of the query comes to a fault, if there is a wallet to put it to. -/
def Session.Faults (session : Session (StateM σ)) (query : Query α) (world : σ) : Prop :=
  ∃ connection, session.gateway.wallet = .ok connection ∧
    query.Faults connection.backend.caller
      (.start connection.numbered session.gateway.undelivered) world

namespace Session.Tallies

variable {faulted batched : Prop}

theorem mono {faultedToo batchedToo : Prop} {before after : Session (StateM σ)}
    (tallies : Tallies faulted batched before after) (faults : faulted → faultedToo)
    (batches : batched → batchedToo) : Tallies faultedToo batchedToo before after := by
  intro connection connected
  rcases tallies connection connected with ⟨later, made, sent, laterConnected, same, issued, makes⟩
  exact ⟨later, made, sent, laterConnected, same, issued, makes.mono faults batches⟩

theorem trans {first second third : Session (StateM σ)}
    (early : Tallies False batched first second) (late : Tallies faulted batched second third) :
    Tallies faulted batched first third := by
  intro connection connected
  rcases early connection connected with
    ⟨later, made, sent, laterConnected, same, issued, makes⟩
  rcases late later laterConnected with
    ⟨last, madeLater, sentLater, lastConnected, sameLater, issuedLater, makesLater⟩
  have backend := congrArg Connection.backend same
  have generation := congrArg Connection.generation same
  change later.backend = connection.backend at backend
  change later.generation = connection.generation at generation
  rw [backend] at makesLater
  rw [generation] at issuedLater
  refine ⟨last, made ++ madeLater, sent ++ sentLater, lastConnected, sameLater.trans same, ?_,
    makes.trans makesLater⟩
  rw [issuedLater, issued, List.append_assoc, List.map_append]

/-- What is done without the connection does not matter, not even after a fault. -/
theorem beside {before after later : Session (StateM σ)}
    (tallies : Tallies faulted batched before after)
    (connection : later.gateway.connection = after.gateway.connection)
    (undelivered : later.gateway.undelivered = after.gateway.undelivered)
    (issued : later.issued = after.issued) : Tallies faulted batched before later := by
  intro found connected
  rcases tallies found connected with ⟨counted, made, sent, laterConnected, same, recorded, makes⟩
  refine ⟨counted, made, sent, connection.trans laterConnected, same, issued.trans recorded, ?_⟩
  rw [undelivered]
  exact makes

theorem refl (session : Session (StateM σ)) : Tallies faulted batched session session := by
  intro connection connected
  exact ⟨connection, [], [], connected, rfl, (List.append_nil _).symm, .none _ _⟩

theorem inquire {query : Query α} (relayable : query.Relayable) {limit : Nat}
    (within : query.BatchesWithin limit) (few : limit ≤ Backend.largestBatch)
    (session : Session (StateM σ)) (world : σ) :
    Tallies (session.Faults query world) (limit ≠ 0) session
      (Gateway.inquire query session world).1.2 := by
  cases found : session.gateway.wallet with
  | error error =>
      rw [Gateway.inquire_refused found]
      exact .refl session
  | ok connection =>
      rw [Gateway.inquire_connected found]
      intro other connected
      rw [Gateway.connection_of_wallet found] at connected
      cases connected
      rcases query.runWith_makes connection.backend relayable within few
        (.start connection.numbered session.gateway.undelivered) world with
        ⟨made, sent, recorded, makes⟩
      have counted := makes.mono (fun faults => (⟨connection, found, faults⟩ :
        session.Faults query world)) id
      refine ⟨connection.after (connection.answer session.gateway.undelivered query world).1.2,
        made, sent, rfl, rfl, ?_, { counted with }⟩
      change session.issued ++ List.map _ (connection.answer _ query world).1.2.sent = _
      exact congrArg (fun sent => session.issued ++ List.map _ sent) recorded

theorem single {query : Query α} (relayable : query.Relayable) (single : query.BatchesWithin 0) :
    GatewayM.Keeps (Tallies (σ := σ) False False) (Gateway.inquire query) := by
  intro session world
  refine (inquire relayable single (Nat.zero_le _) session world).mono ?_ fun some => some rfl
  intro fault
  rcases fault with ⟨connection, _, faults⟩
  exact single.not_faults connection.backend _ world faults

/-- What single calls tell is put down beside the connection. -/
theorem ask {query : Query α} (relayable : query.Relayable) (alone : query.BatchesWithin 0) :
    GatewayM.Keeps (Tallies (σ := σ) False False) (Gateway.ask query) :=
  .bind .trans (single relayable alone) fun _ => .of_same .refl fun _ _ => rfl

theorem framed {scope : Scope} (alone : scope.batch = 0) :
    Framed scope (Tallies (σ := σ) False False) where
  refl := refl
  trans := trans
  told _ session := (refl session).beside rfl rfl rfl
  asked relayable within := single relayable (alone ▸ within)
  joined _ := by
    apply GatewayM.Keeps.bind .trans (ask .network .network)
    intro network session world
    rw [Gateway.current_bind]
    cases session.gateway.config.checkNetwork network with
    | error error => exact (refl session).beside rfl rfl rfl
    | ok accepted => exact (refl session).beside rfl rfl rfl
  loaded _ := by
    apply GatewayM.Keeps.bind .trans (ask .firstAccount .firstAccount)
    intro found session world
    cases found with
    | none => exact .refl session
    | some account => exact (refl session).beside rfl rfl rfl
  resolved _ kind address session world := by
    rw [Gateway.resolve_eq]
    have asked := ask (σ := σ) (.resolve session.gateway.versions kind address)
      (.resolve session.gateway.versions kind address)
    exact GatewayM.Keeps.bind .trans asked
      (fun _ session _ => (refl session).beside rfl rfl rfl) session world

end Session.Tallies

namespace Gateway

/-- The reading of a lock comes to a fault in one of its batches. -/
def ReadingFaults (lock : Address) (session : Session (StateM σ)) (world : σ) : Prop :=
  ∃ version after later,
    resolve .publicLock lock session world = ((.ok version, after), later) ∧
      after.Faults (version.readLock lock) later

theorem ask_session (query : Query α) (session : Session (StateM σ)) (world : σ) :
    (ask query session world).1.2 = (inquire query session world).1.2 := by
  rw [ask, GatewayM.bind_eq]
  rcases inquire query session world with ⟨⟨error | outcome, after⟩, later⟩
  · rfl
  · rfl

theorem getLock_tallies (lock : Address) (session : Session (StateM σ)) (world : σ) :
    Session.Tallies (ReadingFaults lock session world) True session
      (getLock lock session world).1.2 := by
  have composed : (resolve (m := StateM σ) .publicLock lock).Composed
      { Scope.asking with versions := true } :=
    .resolve rfl .publicLock lock
  have resolves := ((Session.Tallies.framed rfl).keeps composed session world).mono id
    fun batched => (batched.elim : True)
  rw [getLock, GatewayM.bind_eq]
  revert resolves
  cases resolved : resolve .publicLock lock session world with
  | mk ended later =>
      rcases ended with ⟨error | version, after⟩
      · exact fun resolves => resolves.mono False.elim id
      · intro resolves
        have reads := (Session.Tallies.inquire (.readLock version lock) (.readLock version lock)
          (Nat.le_refl _) after later).mono
          (fun faults => (⟨version, after, later, resolved, faults⟩ :
            ReadingFaults lock session world)) fun _ => trivial
        rw [← ask_session] at reads
        have reading := resolves.trans reads
        dsimp only
        rw [GatewayM.bind_eq]
        revert reading
        rcases ask (version.readLock lock) after later with ⟨⟨error | snapshot, last⟩, latest⟩
        · exact id
        · exact fun reading => reading.beside rfl rfl rfl

end Gateway

/-! ## Opening -/

/-- A wallet is asked for with one call, and what is replied is only read. -/
theorem Query.walletInfo_call : ∃ resume : Reply → Query WalletInfo,
    Query.walletInfo = .call walletInfoMethod (.list []) resume ∧
      ∀ reply, ∃ outcome, resume reply = .done outcome := by
  refine ⟨_, rfl, ?_⟩
  intro reply
  dsimp only [attempt, Query.bind]
  rcases reply.result with error | value
  · cases error <;> exact ⟨_, rfl⟩
  · exact ⟨_, rfl⟩

/-- The first request of a connection that asks for the wallet. -/
theorem Backend.walletInfo_called (backend : Backend (StateM σ))
    (undelivered : List (Delivery (StateM σ))) (world : σ) :
    (Query.walletInfo.runWith backend.caller (.start 0 undelivered) world).1.2 =
      backend.carrier.called (.start 0 undelivered) walletInfoRequest := by
  rcases Query.walletInfo_call with ⟨resume, asks, reads⟩
  have named : walletInfoMethod ≠ "" := by decide
  rw [asks, Query.runWith_call]
  dsimp only
  rcases reads (backend.caller.call walletInfoMethod (.list []) (.start 0 undelivered) world).1.1
    with ⟨outcome, done⟩
  rw [done]
  change (backend.caller.call walletInfoMethod (.list []) (.start 0 undelivered) world).1.2 = _
  rw [backend.call_eq [] named]
  rfl

/-- What is sent to open a connection is counted by it. -/
theorem Connection.open_counts (endpoint : Endpoint (StateM σ)) (config : Config)
    (generation : UInt64) (undelivered : List (Delivery (StateM σ))) (world : σ) :
    let ended := (Connection.open endpoint config generation undelivered world).1
    Rpc.Consecutive 0 ended.2.sent ∧
      ∀ connection info, ended.1 = .ok (connection, info) →
        connection.numbered = ended.2.sent.length := by
  cases endpoint with
  | direct wallet =>
      refine ⟨rfl, ?_⟩
      intro connection info opened
      have entered : (openDirect wallet generation world).1 = (connection, info) :=
        Except.ok.inj opened
      rw [openDirect, world_bind] at entered
      rcases enabled : wallet.enable world with ⟨_ | _, later⟩
      · rw [enabled] at entered
        cases entered
        rfl
      · rw [enabled] at entered
        cases entered
        rfl
  | localRpc server schedule =>
      refine ⟨rfl, ?_⟩
      intro connection info opened
      rcases Outcome.bind_eq_ok_iff.mp opened with ⟨url, _, built⟩
      cases built
      rfl
  | relay peer capacity schedule =>
      let fresh : Connection (StateM σ) :=
        { backend := .relay peer capacity schedule, flavor := .generic, generation, numbered := 0 }
      have handshake : (fresh.answer undelivered .walletInfo world).1.2 =
          fresh.backend.carrier.called (.start 0 undelivered) walletInfoRequest :=
        fresh.backend.walletInfo_called undelivered world
      change Rpc.Consecutive 0 (fresh.answer undelivered .walletInfo world).1.2.sent ∧
        ∀ connection info, (fresh.answer undelivered .walletInfo world).1.1.map (fun info =>
          ({ fresh.after (fresh.answer undelivered .walletInfo world).1.2 with
            flavor := info.flavor }, info)) = .ok (connection, info) →
          connection.numbered = (fresh.answer undelivered .walletInfo world).1.2.sent.length
      rw [handshake]
      refine ⟨rfl, ?_⟩
      intro connection info opened
      cases said : (fresh.answer undelivered .walletInfo world).1.1 with
      | error error => simp [said, Except.map] at opened
      | ok found =>
          rw [said] at opened
          cases opened
          rfl

/-- A session that began a count of its own: all that was issued has the first numbers, and
the connection, if there is one, goes on from there. -/
structure Session.Begins (generation : UInt64) (session : Session (StateM σ))
    (made : List Rpc.Request) : Prop where
  issued : session.issued = made.map (IssuedRequest.mk generation)
  consecutive : Rpc.Consecutive 0 made
  counted {connection : Connection (StateM σ)}
    (connected : session.gateway.connection = some connection) :
    connection.generation = generation ∧ connection.numbered = made.length

namespace Gateway

/-- What follows an opening by single calls goes on with its count. -/
theorem begins_of_tallies {generation : UInt64} {before after : Session (StateM σ)}
    {made : List Rpc.Request} (begins : before.Begins generation made)
    {connection : Connection (StateM σ)} (connected : before.gateway.connection = some connection)
    (tallies : Session.Tallies False False before after) :
    ∃ made, after.Begins generation made := by
  rcases tallies connection connected with ⟨later, more, sent, laterConnected, same, issued, makes⟩
  rcases begins.counted connected with ⟨current, numbered⟩
  have exact := makes.ordered False.elim
  have consecutive := makes.consecutive
  have counted := makes.counted
  change Rpc.Consecutive connection.numbered more at consecutive
  change later.numbered = connection.numbered + more.length at counted
  subst exact
  refine ⟨made ++ sent, ?_, ?_, ?_⟩
  · rw [issued, begins.issued, current, List.map_append]
  · rw [numbered, ← Nat.zero_add made.length] at consecutive
    exact begins.consecutive.append consecutive
  · intro last lastConnected
    rw [laterConnected] at lastConnected
    cases lastConnected
    have sameGeneration := congrArg Connection.generation same
    change later.generation = connection.generation at sameGeneration
    refine ⟨sameGeneration.trans current, ?_⟩
    rw [counted, numbered, List.length_append]

theorem connect_begins (endpoint : Endpoint (StateM σ)) (gateway : Gateway (StateM σ)) (world : σ) :
    ∃ made, (connect endpoint (.start gateway) world).1.2.Begins (gateway.generation + 1) made := by
  have counts := Connection.open_counts endpoint gateway.config (gateway.generation + 1)
    gateway.undelivered world
  have opens (connection : Connection (StateM σ)) (info : WalletInfo)
      (ends : (Connection.open endpoint gateway.config (gateway.generation + 1)
        gateway.undelivered world).1.1 = .ok (connection, info)) :=
    Connection.open_ok ends
  rw [connect_eq]
  revert counts opens
  rcases Connection.open endpoint gateway.config (gateway.generation + 1) gateway.undelivered
    world with ⟨⟨error | ⟨connection, info⟩, traffic⟩, later⟩
  · intro counts _
    refine ⟨traffic.sent, rfl, counts.1, ?_⟩
    intro connection connected
    cases connected
  · intro counts opens
    have begins : (opened (.start gateway.disconnected) connection info traffic).Begins
        (gateway.generation + 1) traffic.sent := by
      refine ⟨rfl, counts.1, ?_⟩
      intro found connected
      cases connected
      exact ⟨(opens connection info rfl).1, counts.2 connection info rfl⟩
    have framed : Session.Framed .greeting (Session.Tallies (σ := σ) False False) :=
      Session.Tallies.framed rfl
    exact begins_of_tallies begins rfl (framed.keeps (.greet info) _ later)

end Gateway

end LockGateway
