import LockGateway.Proofs.Gateway.Encoding

/-! Orders in a token for versions that know of ether only. Creating, buying and pricing
refuse the token. Withdrawing does not look at the currency at all: what the order asks for
in tokens is taken in ether. -/

namespace LockGateway

namespace Order

def currency : Order → Option Address
  | createLock parameters => parameters.currency
  | purchaseKey parameters => parameters.currency
  | withdraw parameters | partialWithdraw parameters => parameters.currency
  | updateKeyPrice parameters => parameters.currency

/-- The order as it would be placed in ether. -/
def inEther : Order → Order
  | createLock parameters => createLock { parameters with currency := none }
  | purchaseKey parameters => purchaseKey { parameters with currency := none }
  | withdraw parameters => withdraw { parameters with currency := none }
  | partialWithdraw parameters => partialWithdraw { parameters with currency := none }
  | updateKeyPrice parameters => updateKeyPrice { parameters with currency := none }

variable {order : Order} {unlock signer token : Address} {version : ContractVersion}

theorem requireNative_token (tokenless : version.supportsTokens = false) (other : token ≠ .zero) :
    version.requireNative (some token) =
      .error (.validation (.tokenUnsupported version token)) := by
  rw [ContractVersion.requireNative, if_pos ⟨other, tokenless⟩]

/-- Whatever is to be done with the amount, the token comes first. -/
theorem refused_of_token (tokenless : version.supportsTokens = false) (other : token ≠ .zero)
    (named : order.currency = some token) (kind : order.kind ≠ .withdrawal) :
    order.encode unlock signer version =
      .error (.validation (.tokenUnsupported version token)) := by
  have refused := requireNative_token tokenless other
  cases order with
  | createLock parameters =>
      change parameters.currency = some token at named
      rw [encode, ContractVersion.createLock, named, refused]
      rfl
  | purchaseKey parameters =>
      change parameters.currency = some token at named
      rw [encode, ContractVersion.purchaseKey, named, refused]
      rfl
  | withdraw parameters => exact absurd rfl kind
  | partialWithdraw parameters => exact absurd rfl kind
  | updateKeyPrice parameters =>
      change parameters.currency = some token at named
      rw [encode, ContractVersion.updateKeyPrice, named, refused]
      rfl

theorem withdrawal_encode (tokenless : version.supportsTokens = false)
    (kind : order.kind = .withdrawal) :
    order.encode unlock signer version = order.inEther.encode unlock signer version := by
  cases order with
  | withdraw parameters =>
      cases version with
      | v0 | v01 => rfl
      | v02 | v10 => cases tokenless
  | partialWithdraw parameters =>
      cases version with
      | v0 | v01 => rfl
      | v02 | v10 => cases tokenless
  | createLock parameters => cases kind
  | purchaseKey parameters => cases kind
  | updateKeyPrice parameters => cases kind

/-- An amount is refused for what it is, not for its currency. -/
theorem ofAmount_ne_tokenUnsupported (amount : String) (fault : Amount.Fault) :
    GatewayError.ofAmount amount fault ≠ .validation (.tokenUnsupported version token) := by
  cases fault <;> simp [GatewayError.ofAmount]

theorem withdrawal_not_refused (kind : order.kind = .withdrawal) :
    order.encode unlock signer version ≠
      .error (.validation (.tokenUnsupported version token)) := by
  intro refused
  cases order with
  | withdraw parameters => cases refused
  | partialWithdraw parameters =>
      rcases Outcome.bind_eq_error_iff.mp refused with blank | ⟨amount, _, refused⟩
      · revert blank
        unfold ContractVersion.requireAmount
        repeat' split
        all_goals simp
      · rcases Outcome.bind_eq_error_iff.mp refused with unread | ⟨units, _, built⟩
        · rcases Outcome.mapError_eq_error_iff.mp unread with ⟨fault, _, named⟩
          exact ofAmount_ne_tokenUnsupported amount fault named
        · cases built
  | createLock parameters => cases kind
  | purchaseKey parameters => cases kind
  | updateKeyPrice parameters => cases kind

/-- A version without tokens refuses just the orders in a token that withdraw nothing. A
withdrawal becomes whatever it becomes in ether, so its amount of tokens is one of ether. -/
theorem token_refused_iff (tokenless : version.supportsTokens = false) (other : token ≠ .zero)
    (named : order.currency = some token) :
    (order.encode unlock signer version =
        .error (.validation (.tokenUnsupported version token)) ↔ order.kind ≠ .withdrawal) ∧
      (order.kind = .withdrawal →
        order.encode unlock signer version = order.inEther.encode unlock signer version) := by
  refine ⟨⟨?_, refused_of_token tokenless other named⟩, withdrawal_encode tokenless⟩
  intro refused kind
  exact withdrawal_not_refused kind refused

/-- A token with six places. -/
def sixPlaces : Address := ⟨List.replicate 19 0 ++ [6], rfl⟩

/-- One token, out of the lock at the zero address. -/
def tokenWithdrawal : WithdrawParameters :=
  { lock := .zero, account := .zero, amount := some "1", currency := some sixPlaces, decimals := 6 }

theorem token_withdrawal_in_ether :
    ContractVersion.v0.supportsTokens = false ∧ sixPlaces ≠ .zero ∧
      (partialWithdraw tokenWithdrawal).currency = some sixPlaces ∧
      ((partialWithdraw tokenWithdrawal).encode .zero .zero .v0 =
          .error (.validation (.tokenUnsupported .v0 sixPlaces)) ↔
        (partialWithdraw tokenWithdrawal).kind ≠ .withdrawal) ∧
      ((partialWithdraw tokenWithdrawal).kind = .withdrawal →
        (partialWithdraw tokenWithdrawal).encode .zero .zero .v0 =
          (partialWithdraw tokenWithdrawal).inEther.encode .zero .zero .v0) :=
  have other : sixPlaces ≠ .zero := by decide
  ⟨rfl, other, rfl, token_refused_iff rfl other rfl⟩

/-- One token is withdrawn as `10 ^ 18` base units of ether. -/
theorem token_withdrawal_accepted :
    ¬ ∀ (version : ContractVersion) (order : Order) (unlock signer token : Address),
      version.supportsTokens = false → order.currency = some token → token ≠ .zero →
      ∃ fault, order.encode unlock signer version = .error (.validation fault) := by
  intro refused
  rcases refused .v0 (partialWithdraw tokenWithdrawal) .zero .zero sixPlaces rfl rfl (by decide)
    with ⟨fault, refused⟩
  have accepted : (partialWithdraw tokenWithdrawal).encode .zero .zero .v0 = .ok
      { sender := .zero, receiver := .zero
        data := Method.partialWithdraw.call [.uint (BitVec.ofNat 256 (10 ^ 18))]
        gas := Gas.partialWithdraw, value := 0, kind := .withdrawal } :=
    rfl
  rw [accepted] at refused
  cases refused

end Order

end LockGateway
