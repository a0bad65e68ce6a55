import LockGateway.Proofs.Amount.RoundTrip
import LockGateway.Proofs.Connection.Gathering
import LockGateway.Proofs.Hex
import LockGateway.Proofs.Lock.Creation

/-! Locks that are created and read again. A node that answers the getters of a lock with
what stands in the data of the call that created it is read over any connection, and the
snapshot tells of the lock what was asked for. -/

namespace LockGateway

open Abi

variable {σ α : Type} {version : ContractVersion} {lock : Address}

/-! ## What a node tells -/

/-- The parameters with which a method of a contract is called. -/
def contractParameters (contract : Address) (method : Signature) (arguments : List Value) :
    List Json :=
  (Question.callContract .uint256 contract method arguments).params

namespace NodeM

/-- Whenever it is asked, the node has a fitting result. -/
def Tells (node : NodeM σ) (method : String) (params : List Json) (fits : Json → Prop) : Prop :=
  ∀ id world, ∃ value,
    (node (.make id method (.list params)) world).1.result = .ok value ∧ fits value

/-- The node answers a getter of a contract with fitting data. -/
def TellsGetter (node : NodeM σ) (contract : Address) (name : String) (fits : Json → Prop) : Prop :=
  node.Tells "eth_call" (contractParameters contract (.getter name) []) fits

def TellsWord (node : NodeM σ) (contract : Address) (name : String) (fits : Word → Prop) : Prop :=
  node.TellsGetter contract name fun value => ∃ word, value.Carries (wordBytes word) ∧ fits word

def TellsAddress (node : NodeM σ) (contract : Address) (name : String) (fits : Address → Prop) :
    Prop :=
  node.TellsGetter contract name fun value =>
    ∃ address, value.Carries (addressBytes address) ∧ fits address

end NodeM

/-- A number that is kept in 64 bits. -/
def FitsUInt64 (word : Word) : Prop := ∃ number : UInt64, word = BitVec.ofNat 256 number.toNat

/-- Which answers to the getters of a lock are fitting, as far as that depends on the lock. -/
structure LockAnswers where
  price : Word → Prop
  duration : Word → Prop
  limit : Word → Prop
  token : Address → Prop

namespace NodeM

/-- The node answers the getters of a lock. Whatever does not depend on the lock is of its
kind and fits its field. -/
structure TellsLock (node : NodeM σ) (version : ContractVersion) (lock : Address)
    (fits : LockAnswers) : Prop where
  price : node.TellsWord lock "keyPrice" fits.price
  duration : node.TellsWord lock "expirationDuration" fits.duration
  limit : node.TellsWord lock "maxNumberOfKeys" fits.limit
  token (supported : version.supportsTokens = true) :
    node.TellsAddress lock "tokenAddress" fits.token
  owner : node.TellsAddress lock "owner" fun _ => True
  supply : node.TellsWord lock version.supplyGetter FitsUInt64
  publicVersion (reported : version.reportsVersion = true) :
    node.TellsWord lock "publicLockVersion" FitsUInt64
  block : node.Tells "eth_blockNumber" [] fun value =>
    ∃ number : UInt64, Quantity.ofJson value = .ok (BitVec.ofNat 256 number.toNat)

/-- The node answers the getters of a lock as the lock was created. -/
def HoldsLock (node : NodeM σ) (version : ContractVersion) (lock : Address)
    (data : List UInt8) : Prop :=
  node.TellsLock version lock
    { price := fun word =>
        slot? (data.drop 4) (slotSize * version.priceSlot) = some (wordBytes word)
      duration := fun word => slot? (data.drop 4) 0 = some (wordBytes word)
      limit := fun word =>
        slot? (data.drop 4) (slotSize * version.limitSlot) = some (wordBytes word)
      token := fun token => slot? (data.drop 4) slotSize = some (addressBytes token) }

/-- The node tells what a lock owns of its currency, and the places of a token. -/
structure HoldsBalance (node : NodeM σ) (lock token : Address) (decimals : UInt8) : Prop where
  ether (native : token = .zero) :
    node.Tells "eth_getBalance" [.string lock.checksumText, .string "latest"] fun value =>
      ∃ balance, Quantity.ofJson value = .ok balance
  tokens (other : token ≠ .zero) :
    node.Tells "eth_call" (contractParameters token ContractVersion.balanceOf [.address lock])
      fun value => ∃ balance, value.Carries (wordBytes balance)
  places (other : token ≠ .zero) :
    node.TellsGetter token "decimals" (·.Carries (wordBytes (BitVec.ofNat 256 decimals.toNat)))

theorem Tells.mono {node : NodeM σ} {method : String} {params : List Json}
    {fits better : Json → Prop} (tells : node.Tells method params fits)
    (holds : ∀ value, fits value → better value) : node.Tells method params better := by
  intro id world
  rcases tells id world with ⟨value, told, fit⟩
  exact ⟨value, told, holds value fit⟩

/-- The host of a relay puts replies in its own form, but passes results on. -/
theorem Tells.forwarded {node : NodeM σ} {method : String} {params : List Json}
    {fits : Json → Prop} (tells : node.Tells method params fits) {backend : Backend (StateM σ)}
    {reply : Reply} (forwards : backend.Forwards node method (.list params) reply) :
    ∃ value, reply.result = .ok value ∧ fits value := by
  rcases forwards with ⟨id, world, equal⟩
  rcases tells id world with ⟨value, told, fit⟩
  refine ⟨value, ?_, fit⟩
  rw [equal, Backend.passOn]
  cases backend.isRelay with
  | false => exact told
  | true =>
      cases replied : (node (.make id method (.list params)) world).1 with
      | error error =>
          rw [replied] at told
          cases told
      | ok response =>
          rw [replied] at told
          exact (RelayHost.nativeReply_alike id response).result_eq.trans told

end NodeM

/-! ## Questions -/

section Questions

variable {backend : Backend (StateM σ)} {node : NodeM σ} {good : α → Prop}

theorem Question.callContract_answers {kind : ResultKind α} {contract : Address}
    {method : Signature} {arguments : List Value}
    (tells : node.Tells "eth_call" (contractParameters contract method arguments) fun value =>
      ∃ bytes answer, value.Carries bytes ∧ kind.read bytes = .ok answer ∧ good answer) :
    (Question.callContract kind contract method arguments).Answers
      (backend.Forwards node) good := by
  intro reply forwards
  rcases tells.forwarded forwards with ⟨value, told, bytes, answer, carries, read, holds⟩
  exact ⟨answer, callContract_read told (readHexData_carries carries) read, holds⟩

theorem Question.quantity_answers {method : String} {params : List Json} {good : Word → Prop}
    (tells : node.Tells method params fun value =>
      ∃ number, Quantity.ofJson value = .ok number ∧ good number) :
    (Question.quantity method params).Answers (backend.Forwards node) good := by
  intro reply forwards
  rcases tells.forwarded forwards with ⟨value, told, number, read, holds⟩
  refine ⟨number, ?_, holds⟩
  change (reply.result >>= Quantity.ofJson) = .ok number
  rw [told]
  exact read

theorem Question.fitting_answers {replies : String → Json → Reply → Prop}
    {question : Question Word} (answers : question.Answers replies FitsUInt64) (name : String) :
    (question.fitting name).Answers replies fun _ => True := by
  intro reply replied
  rcases answers reply replied with ⟨word, read, number, equal⟩
  refine ⟨number, ?_, trivial⟩
  change (question.read reply >>= fun word => Quantity.toUInt64 word name) = .ok number
  rw [read, equal]
  exact Quantity.toUInt64_wordOfUInt64 number name

theorem Question.word_answers {contract : Address} {name : String} {fits : Word → Prop}
    (tells : node.TellsWord contract name fits) :
    (Question.getter .uint256 contract name).Answers (backend.Forwards node) fits := by
  apply Question.callContract_answers
  apply tells.mono
  rintro value ⟨word, carries, fit⟩
  exact ⟨_, word, carries, ResultKind.read_uint256 word, fit⟩

theorem Question.address_answers {contract : Address} {name : String} {fits : Address → Prop}
    (tells : node.TellsAddress contract name fits) :
    (Question.getter .address contract name).Answers (backend.Forwards node) fits := by
  apply Question.callContract_answers
  apply tells.mono
  rintro value ⟨address, carries, fit⟩
  exact ⟨_, address, carries, ResultKind.read_address address, fit⟩

end Questions

/-! ## The state of a lock -/

/-- The snapshot tells of a lock what was asked for when it was created. -/
structure LockSnapshot.Matches (snapshot : LockSnapshot) (parameters : CreateLockParameters)
    (price : Word) : Prop where
  duration : snapshot.expirationDuration = parameters.expirationDuration
  limit : snapshot.maxNumberOfKeys.toInt = ContractVersion.countedLimit parameters.maxNumberOfKeys
  currency : snapshot.currencyContractAddress = parameters.currency.filter (· ≠ .zero)
  price : Amount.toBaseUnits snapshot.keyPrice parameters.decimals.toNat = .ok price

namespace ContractVersion

variable {backend : Backend (StateM σ)} {node : NodeM σ} {parameters : CreateLockParameters}
  {data : List UInt8} {price : Word}

theorem block_answers
    (tells : node.Tells "eth_blockNumber" [] fun value =>
      ∃ number : UInt64, Quantity.ofJson value = .ok (BitVec.ofNat 256 number.toNat)) :
    Question.blockNumber.Answers (backend.Forwards node) fun _ => True := by
  apply Question.fitting_answers
  apply Question.quantity_answers
  apply tells.mono
  intro value told
  rcases told with ⟨number, read⟩
  exact ⟨_, read, number, rfl⟩

theorem figures_answers {fits : LockAnswers} (tells : node.TellsLock version lock fits) :
    (version.figures lock).Answers (backend.Forwards node) fun figures =>
      fits.price figures.keyPrice ∧ fits.duration figures.expirationDuration ∧
        fits.limit figures.maxNumberOfKeys := by
  refine .seq ?_ (.one (block_answers tells.block))
  refine .seq ?_ (.one (Question.fitting_answers (Question.word_answers tells.supply) _))
  refine .seq ?_ (.one (Question.address_answers tells.owner))
  refine .seq ?_ (.one (Question.word_answers tells.limit))
  refine .seq ?_ (.one (Question.word_answers tells.duration))
  refine .map (.one (Question.word_answers tells.price)) ?_
  intro found price duration lasts limit limited owner _ sold _ asOf _
  exact ⟨price, lasts, limited⟩

/-- The token of a lock is told, or is the native currency if the version has no tokens. -/
theorem readToken_answers {fits : LockAnswers} (tells : node.TellsLock version lock fits)
    {good : Address → Prop}
    (told : version.supportsTokens = true → ∀ token, fits.token token → good token)
    (native : version.supportsTokens = false → good .zero) :
    (version.readToken lock).Answers (backend.Forwards node) good := by
  rw [readToken]
  split
  · rename_i supported
    apply Query.Answers.ask
    intro reply replied
    rcases Question.address_answers (tells.token supported) reply replied with ⟨token, read, fit⟩
    exact ⟨token, read, told supported token fit⟩
  · rename_i unsupported
    exact .pure (native (by simpa using unsupported))

theorem readVersion_answers {fits : LockAnswers} (tells : node.TellsLock version lock fits) :
    (version.readVersion lock).Answers (backend.Forwards node) fun _ => True := by
  rw [readVersion]
  split
  · rename_i reported
    have asked : (Question.getter .uint256 lock "publicLockVersion").Answers
        (backend.Forwards node) FitsUInt64 :=
      Question.word_answers (tells.publicVersion reported)
    apply Query.Answers.bind (.ask (Question.fitting_answers asked _))
    intro number _
    exact .pure trivial
  · exact .pure trivial

theorem readBalance_answers {token : Address} {decimals : UInt8}
    (holds : node.HoldsBalance lock token decimals)
    (native : token = .zero → decimals = 18) :
    (readBalance lock token).Answers (backend.Forwards node) (·.2 = decimals.toNat) := by
  rw [readBalance]
  split
  · rename_i zero
    have asked : (Question.quantity "eth_getBalance"
        [.string lock.checksumText, .string "latest"]).Answers (backend.Forwards node)
        fun _ => True := by
      apply Question.quantity_answers
      apply (holds.ether zero).mono
      intro value told
      rcases told with ⟨balance, read⟩
      exact ⟨balance, read, trivial⟩
    apply Query.Answers.bind (.ask asked)
    intro balance _
    apply Query.Answers.pure
    rw [native zero]
    rfl
  · rename_i other
    have owned : (Question.callContract .uint256 token balanceOf [.address lock]).Answers
        (backend.Forwards node) fun _ => True := by
      apply Question.callContract_answers
      apply (holds.tokens other).mono
      intro value told
      rcases told with ⟨balance, carries⟩
      exact ⟨_, balance, carries, ResultKind.read_uint256 _, trivial⟩
    have places : (Question.getter .uint8 token "decimals").Answers (backend.Forwards node)
        (· = decimals) := by
      apply Question.callContract_answers
      apply (holds.places other).mono
      intro value carries
      exact ⟨_, decimals, carries, ResultKind.read_uint8 _, rfl⟩
    apply Query.Answers.gather
    refine .seq (.map (.one owned) ?_) (.one places)
    intro balance _ found equal
    exact congrArg UInt8.toNat equal

/-- No token is told of just if the lock is priced in the native currency. -/
theorem reportedToken (currency : Option Address) :
    (if tokenOrNative currency = .zero then none else some (tokenOrNative currency)) =
      currency.filter (· ≠ .zero) := by
  cases currency with
  | none => rfl
  | some token => by_cases zero : token = .zero <;> simp [tokenOrNative, Option.filter, zero]

theorem readLock_answers (holds : node.HoldsLock version lock data)
    (created : version.Created parameters data price)
    (balance : node.HoldsBalance lock (tokenOrNative parameters.currency) parameters.decimals)
    (native : tokenOrNative parameters.currency = .zero → parameters.decimals = 18)
    (small : ∀ limit, parameters.maxNumberOfKeys = some limit → limit.toNat < 2 ^ 63) :
    (version.readLock lock).Answers (backend.Forwards node) (·.Matches parameters price) := by
  have tokenless (unsupported : version.supportsTokens = false) :
      (.zero : Address) = tokenOrNative parameters.currency :=
    (native_of_requireNative created.native unsupported).symm
  apply Query.Answers.bind (.gather (figures_answers holds))
  intro figures found
  apply Query.Answers.bind (readToken_answers holds (fun supported token told =>
    addressBytes_injective (Option.some.inj (told.symm.trans (created.token supported)))) tokenless)
  intro token tokenEqual
  apply Query.Answers.bind (readVersion_answers holds)
  intro publicVersion _
  rw [tokenEqual]
  apply Query.Answers.bind (readBalance_answers balance native)
  intro owned places
  have written {word other : Word} {slot : Option (List UInt8)}
      (found : slot = some (wordBytes word))
      (created : slot = some (wordBytes other)) : word = other :=
    wordBytes_injective (Option.some.inj (found.symm.trans created))
  have priceEqual := written found.1 created.price
  have durationEqual := written found.2.1 created.duration
  have limitEqual := written found.2.2 created.limit
  have units := created.units
  rw [created.decimals_eq native] at units
  rcases Amount.toBaseUnits_ok_iff.mp units with ⟨_, _, _, readAs, _⟩
  rcases Amount.reportedUnits_ok price readAs.places with ⟨priceText, priceWritten, priceRead⟩
  rcases Amount.reportedUnits_ok owned.1 readAs.places with ⟨ownedText, ownedWritten, _⟩
  rcases keyCount_keyLimit small with ⟨count, counted, countEqual⟩
  simp only [places, priceEqual, durationEqual, limitEqual, priceWritten, ownedWritten, counted,
    Quantity.toUInt64_wordOfUInt64]
  exact ⟨_, rfl, rfl, countEqual, reportedToken parameters.currency, priceRead⟩

/-- A lock that is created as asked is read as it was asked for. Over any connection to a
node that answers for the lock with what stands in the data of the call, reading succeeds,
and the snapshot has the duration, the limit and the currency of the parameters, and a price
that is read as the number of base units in the data. -/
theorem created_lock_read {unlock sender : Address} {call : ContractCall}
    (created : version.createLock unlock sender parameters = .ok call)
    (small : ∀ limit, parameters.maxNumberOfKeys = some limit → limit.toNat < 2 ^ 63)
    (native : tokenOrNative parameters.currency = .zero → parameters.decimals = 18)
    {connection : Connection (StateM σ)} (fronts : connection.backend.Fronts node)
    (holds : node.HoldsLock version lock call.data)
    (balance : node.HoldsBalance lock (tokenOrNative parameters.currency) parameters.decimals)
    (undelivered : List (Delivery (StateM σ))) (world : σ) :
    ∃ snapshot price,
      (connection.answer undelivered (version.readLock lock) world).1.1 = .ok snapshot ∧
        snapshot.Matches parameters price ∧
        Amount.toBaseUnits parameters.keyPrice parameters.decimals.toNat = .ok price ∧
        slot? (call.data.drop 4) (slotSize * version.priceSlot) = some (wordBytes price) := by
  rcases createLock_created created with ⟨price, known⟩
  rcases (readLock_answers holds known balance native small).runWith fronts.gives
    (Query.Relayable.readLock version lock) (.start connection.numbered undelivered) world with
    ⟨snapshot, answered, agrees⟩
  have units := known.units
  rw [known.decimals_eq native] at units
  exact ⟨snapshot, price, answered, agrees, units, known.price⟩

/-- A wallet that answers every call with the word seven. -/
def sevens : Sender (StateM Unit) := fun _ _ =>
  pure (.ok (.success 0 (.string (Hex.text (wordBytes 7)))))

theorem sevens_tells (method : String) (params : List Json) {fits : Json → Prop}
    (fit : fits (.string (Hex.text (wordBytes 7)))) :
    NodeM.Tells (fun request => sevens request.method request.params) method params fits :=
  fun _ _ => ⟨_, rfl, fit⟩

/-- What that wallet takes a lock to be: in a token whose address ends in seven. -/
def lockOfSevens : CreateLockParameters where
  expirationDuration := 7
  keyPrice := "0.0000007"
  maxNumberOfKeys := some 7
  currency := some ⟨List.replicate 19 0 ++ [7], rfl⟩
  decimals := 7
  name := ""

theorem lock_of_sevens_read : ∃ call,
    v10.createLock .zero .zero lockOfSevens = .ok call ∧
      ∃ snapshot price,
        ((Connection.mk (.relay (RelayHost.native sevens .generic).answer 4 .inTurn)
          .generic 1 1).answer []
          (v10.readLock .zero) ()).1.1 = .ok snapshot ∧
        snapshot.Matches lockOfSevens price ∧
        Amount.toBaseUnits "0.0000007" 7 = .ok price ∧
        slot? (call.data.drop 4) (slotSize * v10.priceSlot) = some (wordBytes price) := by
  have carried : (Json.string (Hex.text (wordBytes 7))).Carries (wordBytes 7) :=
    Json.carries_text _
  have token : addressBytes (tokenOrNative lockOfSevens.currency) = wordBytes 7 := by decide
  obtain ⟨call, created⟩ : ∃ call, v10.createLock .zero .zero lockOfSevens = .ok call := ⟨_, rfl⟩
  rcases createLock_created created with ⟨price, known⟩
  have units : Amount.toBaseUnits "0.0000007" 7 = .ok price := known.units
  have seven : price = 7 := by
    have read : Amount.toBaseUnits "0.0000007" 7 = .ok 7 := by decide
    rw [read] at units
    exact (Except.ok.inj units).symm
  subst seven
  have holds : NodeM.HoldsLock (fun request => sevens request.method request.params) v10 .zero
      call.data :=
    { duration := sevens_tells _ _ ⟨7, carried, known.duration⟩
      token := fun supported => sevens_tells _ _ ⟨_, token ▸ carried, known.token supported⟩
      price := sevens_tells _ _ ⟨7, carried, known.price⟩
      limit := sevens_tells _ _ ⟨7, carried, known.limit⟩
      owner := sevens_tells _ _ ⟨_, token ▸ carried, trivial⟩
      supply := sevens_tells _ _ ⟨7, carried, 7, rfl⟩
      publicVersion := fun _ => sevens_tells _ _ ⟨7, carried, 7, rfl⟩
      block := sevens_tells _ _ ⟨7, rfl⟩ }
  have balance : NodeM.HoldsBalance (fun request => sevens request.method request.params) .zero
      (tokenOrNative lockOfSevens.currency) lockOfSevens.decimals :=
    { ether := fun native => absurd native (by decide)
      tokens := fun _ => sevens_tells _ _ ⟨7, carried⟩
      places := fun _ => sevens_tells _ _ carried }
  have small : ∀ limit, lockOfSevens.maxNumberOfKeys = some limit → limit.toNat < 2 ^ 63 := by
    intro limit equal
    cases equal
    decide
  exact ⟨call, created, created_lock_read created small (fun native => absurd native (by decide))
    (.relay sevens .generic 4 .inTurn) holds balance [] ()⟩

end ContractVersion

end LockGateway
