import LockGateway.Proofs.Lock.ReadBack
import LockGateway.Proofs.Lock.Tokens

/-! Amounts in the native currency. Locks tell of them in ether, which has eighteen places,
and versions without tokens count them so whatever places an order names. The other versions
take the places that the order names, also where no token is named, so there an amount means
ether only if those places are eighteen. -/

namespace LockGateway

open Abi

/-! ## What an order asks for -/

namespace Order

def decimals : Order → UInt8
  | createLock parameters => parameters.decimals
  | purchaseKey parameters => parameters.decimals
  | withdraw parameters | partialWithdraw parameters => parameters.decimals
  | updateKeyPrice parameters => parameters.decimals

/-- A full withdrawal names no amount. -/
def carriesAmount : Order → Bool
  | withdraw _ => false
  | createLock _ | purchaseKey _ | partialWithdraw _ | updateKeyPrice _ => true

/-- The order is in the native currency, and of an amount. -/
structure Native (order : Order) : Prop where
  currency : ContractVersion.tokenOrNative order.currency = .zero
  amount : order.carriesAmount = true

/-- The text of the amount. A withdrawal must not leave it blank. -/
def amountText? : Order → Option String
  | createLock parameters => some parameters.keyPrice
  | purchaseKey parameters => some parameters.keyPrice
  | withdraw _ => none
  | partialWithdraw parameters =>
      parameters.amount.filter fun text => !(Text.trimCharacters text.toList).isEmpty
  | updateKeyPrice parameters => some parameters.keyPrice

/-- With so many places the amount of the order comes to so many base units. -/
def Asks (order : Order) (places : Nat) (units : Word) : Prop :=
  ∃ text, order.amountText? = some text ∧ Amount.toBaseUnits text places = .ok units

/-- The slot of the amount in the data of the call. Before version ten a purchase has no
amount beside its value. -/
def amountSlot? (version : ContractVersion) : Order → Option Nat
  | createLock _ => some version.priceSlot
  | purchaseKey _ => if version = .v10 then some 0 else none
  | withdraw _ => none
  | partialWithdraw _ => some (if version = .v10 then 1 else 0)
  | updateKeyPrice _ => some 0

/-- Wherever the call has an amount it is this one. A purchase also has it as its value. -/
structure Carries (order : Order) (version : ContractVersion) (call : ContractCall)
    (units : Word) : Prop where
  data {slot : Nat} (placed : order.amountSlot? version = some slot) :
    slot? (call.data.drop 4) (slotSize * slot) = some (wordBytes units)
  value (purchased : order.kind = .keyPurchase) : call.value = units

/-- The order succeeds just if its amount can be read in ether, and then it is the amount of
ether that is encoded. -/
structure MeansEther (order : Order) (unlock signer : Address) (version : ContractVersion) :
    Prop where
  succeeds : (∃ call, order.encode unlock signer version = .ok call) ↔ ∃ units, order.Asks 18 units
  encodes {call : ContractCall} {units : Word}
    (encoded : order.encode unlock signer version = .ok call) (asked : order.Asks 18 units) :
    order.Carries version call units

/-! ## What is encoded -/

variable {order : Order} {unlock signer : Address} {version : ContractVersion}
  {call : ContractCall} {places : Nat} {units other : Word}

theorem Asks.eq (asked : order.Asks places units) (again : order.Asks places other) :
    units = other := by
  rcases asked with ⟨text, named, read⟩
  rcases again with ⟨same, namedAgain, readAgain⟩
  rw [named] at namedAgain
  cases namedAgain
  rw [read] at readAgain
  exact Except.ok.inj readAgain

/-- A call has only one amount. -/
theorem Carries.eq (native : order.Native) (carries : order.Carries version call units)
    (again : order.Carries version call other) : units = other := by
  have slotted {slot : Nat} (placed : order.amountSlot? version = some slot) : units = other := by
    have found := carries.data placed
    rw [again.data placed] at found
    exact (wordBytes_injective (Option.some.inj found)).symm
  cases order with
  | createLock parameters => exact slotted rfl
  | purchaseKey parameters => exact (carries.value rfl).symm.trans (again.value rfl)
  | withdraw parameters => cases native.amount
  | partialWithdraw parameters => exact slotted rfl
  | updateKeyPrice parameters => exact slotted rfl

theorem requireNative_native {currency : Option Address}
    (native : ContractVersion.tokenOrNative currency = .zero) :
    version.requireNative currency = .ok () := by
  cases currency with
  | none => rfl
  | some token =>
      change token = .zero at native
      rw [ContractVersion.requireNative, if_neg]
      exact fun guarded => guarded.1 native

theorem requireAmount_ok_iff {named : Option String} {text : String} :
    ContractVersion.requireAmount named = .ok text ↔
      (named.filter fun text => !(Text.trimCharacters text.toList).isEmpty) = some text := by
  cases named with
  | none => simp [ContractVersion.requireAmount]
  | some amount =>
      by_cases blank : Text.trimCharacters amount.toList = []
      · simp [ContractVersion.requireAmount, Option.filter, blank]
      · simp [ContractVersion.requireAmount, Option.filter, blank]

theorem exists_built {α : Type} {check : Except GatewayError α}
    {amount : α → Except GatewayError Word} {build : α → Word → ContractCall} {checked : α}
    (passed : check = .ok checked) (read : amount checked = .ok units) :
    ∃ call, (do
      let checked ← check
      let units ← amount checked
      return build checked units) = Except.ok call := by
  refine ⟨build checked units, ?_⟩
  rw [passed]
  change amount checked >>= _ = _
  rw [read]
  rfl

/-- An order in the native currency succeeds if its amount can be read with the places of
its version. -/
theorem encode_of_asks (native : order.Native)
    (asked : order.Asks (version.decimals order.decimals) units) :
    ∃ call, order.encode unlock signer version = .ok call := by
  have accepted : version.requireNative order.currency = .ok () :=
    requireNative_native native.currency
  rcases asked with ⟨text, named, asked⟩
  have read : Amount.baseUnits text (version.decimals order.decimals) = .ok units :=
    Outcome.mapError_eq_ok_iff.mpr asked
  cases order with
  | createLock parameters =>
      cases named
      exact exists_built accepted read
  | purchaseKey parameters =>
      cases named
      exact exists_built accepted read
  | withdraw parameters => cases named
  | partialWithdraw parameters => exact exists_built (requireAmount_ok_iff.mpr named) read
  | updateKeyPrice parameters =>
      cases named
      exact exists_built accepted read

/-- Only such an amount is encoded, and as what it is read as. -/
theorem carries_of_encode (native : order.Native)
    (encoded : order.encode unlock signer version = .ok call) :
    ∃ units, order.Asks (version.decimals order.decimals) units ∧
      order.Carries version call units := by
  cases order with
  | createLock parameters =>
      rcases ContractVersion.createLock_created encoded with ⟨price, created⟩
      refine ⟨price, ⟨_, rfl, created.units⟩, ?_, ?_⟩
      · intro slot placed
        cases placed
        exact created.price
      · intro purchased
        cases purchased
  | purchaseKey parameters =>
      rcases built_ok encoded with ⟨_, price, _, read, equal⟩
      refine ⟨price, ⟨_, rfl, Outcome.mapError_eq_ok_iff.mp read⟩, ?_, ?_⟩
      · intro slot placed
        subst equal
        cases version with
        | v0 | v01 | v02 => cases placed
        | v10 =>
            cases placed
            exact Method.purchase.slot?_call 0 rfl rfl
      · intro _
        rw [equal]
        exact if_pos native.currency
  | withdraw parameters => cases native.amount
  | partialWithdraw parameters =>
      rcases built_ok encoded with ⟨text, amount, filled, read, equal⟩
      refine ⟨amount, ⟨text, requireAmount_ok_iff.mp filled, Outcome.mapError_eq_ok_iff.mp read⟩,
        ?_, ?_⟩
      · intro slot placed
        subst equal
        cases version with
        | v0 | v01 | v02 =>
            cases placed
            exact Method.partialWithdraw.slot?_call 0 rfl rfl
        | v10 =>
            cases placed
            exact Method.withdrawToken.slot?_call 1 rfl rfl
      · intro purchased
        cases purchased
  | updateKeyPrice parameters =>
      rcases built_ok encoded with ⟨_, price, _, read, equal⟩
      refine ⟨price, ⟨_, rfl, Outcome.mapError_eq_ok_iff.mp read⟩, ?_, ?_⟩
      · intro slot placed
        cases placed
        subst equal
        cases version with
        | v0 | v01 | v02 => exact Method.updateKeyPrice.slot?_call 0 rfl rfl
        | v10 => exact Method.updateKeyPricing.slot?_call 0 rfl rfl
      · intro purchased
        cases purchased

/-- An order means ether just if its amount comes to the same with the places of its version
as with eighteen. -/
theorem meansEther_iff (native : order.Native) :
    order.MeansEther unlock signer version ↔
      ∀ units, order.Asks (version.decimals order.decimals) units ↔ order.Asks 18 units := by
  constructor
  · intro means units
    constructor
    · intro asked
      rcases encode_of_asks native asked with ⟨call, encoded⟩
      rcases carries_of_encode native encoded with ⟨counted, askedCounted, carries⟩
      rcases means.succeeds.mp ⟨call, encoded⟩ with ⟨ether, askedEther⟩
      have same := carries.eq native (means.encodes encoded askedEther)
      rwa [asked.eq askedCounted, same]
    · intro asked
      rcases means.succeeds.mpr ⟨units, asked⟩ with ⟨call, encoded⟩
      rcases carries_of_encode native encoded with ⟨counted, askedCounted, carries⟩
      rwa [(means.encodes encoded asked).eq native carries]
  · intro same
    refine ⟨⟨?_, ?_⟩, ?_⟩
    · rintro ⟨call, encoded⟩
      rcases carries_of_encode native encoded with ⟨units, asked, _⟩
      exact ⟨units, (same units).mp asked⟩
    · rintro ⟨units, asked⟩
      exact encode_of_asks native ((same units).mpr asked)
    · intro call units encoded asked
      rcases carries_of_encode native encoded with ⟨counted, askedCounted, carries⟩
      rwa [asked.eq ((same counted).mp askedCounted)]

/-! ## One unit of currency -/

theorem toBaseUnits_one (few : places ≤ Amount.greatestDecimals) :
    Amount.toBaseUnits "1" places = .ok (BitVec.ofNat 256 (10 ^ places)) := by
  have scaled : Amount.scaledDigits ['1'] places = .ok (['1'], places) := by
    simp [Amount.scaledDigits, Amount.splitAtPoint, Text.byteLength]
  exact Amount.toBaseUnits_ok_iff.mpr
    ⟨['1'], places, 1, ⟨few, by decide, scaled, rfl⟩, (BitVec.one_mul _).symm⟩

theorem places_of_toBaseUnits {text : String} (read : Amount.toBaseUnits text places = .ok units) :
    places ≤ Amount.greatestDecimals := by
  rcases Amount.toBaseUnits_ok_iff.mp read with ⟨_, _, _, readAs, _⟩
  exact readAs.places

/-- No power of ten that is a word goes all the way round. -/
theorem powers_injective {places others : Nat} (few : places ≤ Amount.greatestDecimals)
    (fewOthers : others ≤ Amount.greatestDecimals)
    (same : BitVec.ofNat 256 (10 ^ places) = BitVec.ofNat 256 (10 ^ others)) : places = others := by
  have small {places : Nat} (few : places ≤ Amount.greatestDecimals) : 10 ^ places < 2 ^ 256 := by
    have largest : 10 ^ places ≤ 10 ^ 77 := Nat.pow_le_pow_right (by decide) few
    omega
  have numbers := congrArg BitVec.toNat same
  rw [BitVec.toNat_ofNat, BitVec.toNat_ofNat, Nat.mod_eq_of_lt (small few),
    Nat.mod_eq_of_lt (small fewOthers)] at numbers
  exact Nat.pow_right_injective (by decide) numbers

/-- One unit of the native currency, as the price of the keys of the lock at the zero
address. -/
def pricing (decimals : UInt8) : Order :=
  updateKeyPrice
    { lock := .zero, account := .zero, keyPrice := "1", currency := none, decimals }

theorem pricing_native (decimals : UInt8) : (pricing decimals).Native := ⟨rfl, rfl⟩

theorem pricing_asks_iff (decimals : UInt8) :
    (pricing decimals).Asks places units ↔ Amount.toBaseUnits "1" places = .ok units := by
  constructor
  · rintro ⟨text, named, read⟩
    cases named
    exact read
  · intro read
    exact ⟨"1", rfl, read⟩

/-- One unit tells the places apart. -/
theorem pricing_meansEther_iff {decimals : UInt8} :
    (pricing decimals).MeansEther unlock signer version ↔ version.decimals decimals = 18 := by
  rw [meansEther_iff (pricing_native decimals)]
  change (∀ units, (pricing decimals).Asks (version.decimals decimals) units ↔ _) ↔ _
  constructor
  · intro same
    have few : 18 ≤ Amount.greatestDecimals := by decide
    have ether := toBaseUnits_one few
    have asked := (same _).mpr ((pricing_asks_iff decimals).mpr ether)
    have read := (pricing_asks_iff decimals).mp asked
    have counted := places_of_toBaseUnits read
    rw [toBaseUnits_one counted] at read
    exact powers_injective counted few (Except.ok.inj read)
  · intro eighteen units
    rw [eighteen]

theorem decimals_eq_iff {decimals : UInt8} :
    version.decimals decimals = 18 ↔ version.supportsTokens = false ∨ decimals = 18 := by
  have numbers : decimals.toNat = 18 ↔ decimals = 18 := UInt8.toNat_inj (b := 18)
  cases version with
  | v0 | v01 => exact ⟨fun _ => .inl rfl, fun _ => rfl⟩
  | v02 | v10 => simp [ContractVersion.decimals, ContractVersion.supportsTokens, numbers]

end Order

/-! ## What is read of a lock -/

/-- The node tells of a lock in ether: its price, what it owns, and whatever else a version
tells of its locks. -/
structure NodeM.HoldsEther {σ : Type} (node : NodeM σ) (version : ContractVersion)
    (lock : Address) (price owned : Word) : Prop where
  tells : node.TellsLock version lock
    { price := (· = price)
      duration := FitsUInt64
      limit := fun limit => ∃ count, ContractVersion.keyCount limit = .ok count
      token := (· = .zero) }
  balance : node.Tells "eth_getBalance" [.string lock.checksumText, .string "latest"]
    fun value => Quantity.ofJson value = .ok owned

/-- The snapshot tells of both amounts in ether. -/
structure LockSnapshot.ToldInEther (snapshot : LockSnapshot) (price owned : Word) : Prop where
  currency : snapshot.currencyContractAddress = none
  price : Amount.toBaseUnits snapshot.keyPrice 18 = .ok price
  balance : Amount.toBaseUnits snapshot.balance 18 = .ok owned

namespace ContractVersion

variable {σ : Type} {backend : Backend (StateM σ)} {node : NodeM σ} {version : ContractVersion}
  {lock : Address} {price owned : Word}

theorem etherBalance_answers (holds : node.HoldsEther version lock price owned) :
    (readBalance lock .zero).Answers (backend.Forwards node) (· = (owned, 18)) := by
  have asked : (Question.quantity "eth_getBalance"
      [.string lock.checksumText, .string "latest"]).Answers (backend.Forwards node)
      (· = owned) := by
    apply Question.quantity_answers
    apply holds.balance.mono
    intro value read
    exact ⟨owned, read, rfl⟩
  rw [readBalance, if_pos rfl]
  apply Query.Answers.bind (.ask asked)
  intro balance equal
  rw [equal]
  exact .pure rfl

theorem etherLock_answers (holds : node.HoldsEther version lock price owned) :
    (version.readLock lock).Answers (backend.Forwards node) (·.ToldInEther price owned) := by
  apply Query.Answers.bind (.gather (figures_answers holds.tells))
  intro figures found
  apply Query.Answers.bind (readToken_answers holds.tells (fun _ _ isEther => isEther) fun _ => rfl)
  intro token isEther
  apply Query.Answers.bind (readVersion_answers holds.tells)
  intro publicVersion _
  rw [isEther]
  apply Query.Answers.bind (etherBalance_answers holds)
  intro balance equal
  have isPrice : figures.keyPrice = price := found.1
  obtain ⟨seconds, lasting⟩ : FitsUInt64 figures.expirationDuration := found.2.1
  obtain ⟨count, counted⟩ : ∃ count, keyCount figures.maxNumberOfKeys = .ok count := found.2.2
  have few : 18 ≤ Amount.greatestDecimals := by decide
  rcases Amount.reportedUnits_ok price few with ⟨priceText, priceWritten, priceRead⟩
  rcases Amount.reportedUnits_ok owned few with ⟨ownedText, ownedWritten, ownedRead⟩
  simp only [equal, isPrice, lasting, counted, priceWritten, ownedWritten,
    Quantity.toUInt64_wordOfUInt64]
  exact ⟨_, rfl, rfl, priceRead, ownedRead⟩

/-- Over every connection to a node that tells of a lock in ether, locks of the version are
read, and what they cost and own is told in ether. -/
def TellsEther (version : ContractVersion) : Prop :=
  ∀ (σ : Type) (node : NodeM σ) (connection : Connection (StateM σ)) (lock : Address)
    (price owned : Word), connection.backend.Fronts node →
    node.HoldsEther version lock price owned →
    ∀ undelivered world, ∃ snapshot,
      (connection.answer undelivered (version.readLock lock) world).1.1 = .ok snapshot ∧
        snapshot.ToldInEther price owned

theorem tellsEther (version : ContractVersion) : version.TellsEther := by
  intro σ node connection lock price owned fronts holds undelivered world
  exact (etherLock_answers holds).runWith fronts.gives (Query.Relayable.readLock version lock)
    (.start connection.numbered undelivered) world

end ContractVersion

/-! ## One scale -/

namespace Order

/-- Every version tells of native amounts in ether. What is asked of it in the native currency
means ether if it has no tokens, or if ether's places are named. With other places even one
unit means something else, and an order means ether only if its amount comes to the same with
both. -/
theorem native_amounts (version : ContractVersion) (decimals : UInt8) :
    ((∀ (order : Order) (unlock signer : Address), order.Native → order.decimals = decimals →
        order.MeansEther unlock signer version) ↔
      version.supportsTokens = false ∨ decimals = 18) ∧
      (∀ (order : Order) (unlock signer : Address), order.Native → order.decimals = decimals →
        (order.MeansEther unlock signer version ↔
          ∀ units, order.Asks (version.decimals decimals) units ↔ order.Asks 18 units)) ∧
      version.TellsEther := by
  refine ⟨⟨?_, ?_⟩, ?_, version.tellsEther⟩
  · intro means
    have unit := means (pricing decimals) .zero .zero (pricing_native decimals) rfl
    exact decimals_eq_iff.mp (pricing_meansEther_iff.mp unit)
  · intro sure order unlock signer native named
    rw [meansEther_iff native, named, decimals_eq_iff.mpr sure]
    intro units
    rfl
  · intro order unlock signer native named
    rw [meansEther_iff native, named]

/-- The wallet that answers every call with seven tells of a lock that costs and owns seven
base units of ether. -/
theorem sevens_holdsEther :
    NodeM.HoldsEther (fun request => ContractVersion.sevens request.method request.params) .v0
      .zero 7 7 :=
  have carried : (Json.string (Hex.text (wordBytes 7))).Carries (wordBytes 7) :=
    Json.carries_text _
  have owner : addressBytes
      (ContractVersion.tokenOrNative ContractVersion.lockOfSevens.currency) = wordBytes 7 := by
    decide
  { tells :=
      { price := ContractVersion.sevens_tells _ _ ⟨7, carried, rfl⟩
        duration := ContractVersion.sevens_tells _ _ ⟨7, carried, 7, rfl⟩
        limit := ContractVersion.sevens_tells _ _ ⟨7, carried, 7, rfl⟩
        owner := ContractVersion.sevens_tells _ _ ⟨_, owner ▸ carried, trivial⟩
        supply := ContractVersion.sevens_tells _ _ ⟨7, carried, 7, rfl⟩
        block := ContractVersion.sevens_tells _ _ ⟨7, rfl⟩
        token := fun supported => by cases supported
        publicVersion := fun reported => by cases reported }
    balance := ContractVersion.sevens_tells _ _ rfl }

/-- The oldest version means ether by one unit, though six places are named, and its locks
are read so. -/
theorem pricing_means_ether :
    (pricing 6).MeansEther .zero .zero .v0 ∧ ∃ snapshot,
      ((Connection.mk (.relay (RelayHost.native ContractVersion.sevens .generic).answer 4
          .inTurn) .generic 1 1).answer [] (ContractVersion.readLock .v0 .zero) ()).1.1 =
          .ok snapshot ∧
        snapshot.ToldInEther 7 7 :=
  have means := (native_amounts .v0 6).1.mpr (.inl rfl)
  have told := (native_amounts .v0 6).2.2
  ⟨means (pricing 6) .zero .zero (pricing_native 6) rfl,
    told Unit _ _ .zero 7 7 (.relay ContractVersion.sevens .generic 4 .inTurn)
      sevens_holdsEther [] ()⟩

/-- With the six places of some token, one unit of ether is a millionth of a millionth. -/
theorem pricing_means_other :
    ¬ ∀ (version : ContractVersion) (order : Order) (unlock signer : Address),
      order.Native → order.MeansEther unlock signer version := by
  intro means
  have unit := means .v02 (pricing 6) .zero .zero (pricing_native 6)
  have places := pricing_meansEther_iff.mp unit
  cases places

end Order

end LockGateway
