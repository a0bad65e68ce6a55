import LockGateway.Proofs.Amount.Number
import LockGateway.Proofs.Lock.NativeAmounts

/-! Amounts and prices that denote no number. What stands behind the places of the currency is
cut off before any character is looked at, and a text without digits is read as zero, so not all
of them are refused. Prices are not looked at again before they are encoded. -/

namespace LockGateway

/-! ## Amounts -/

namespace Amount

/-- Whatever denotes no number is refused for that. -/
def RefusesMalformed (amount : String) (decimals : Nat) : Prop :=
  ¬ IsNumber (Text.trimCharacters amount.toList) →
    ∃ fault, baseUnits amount decimals = .error (.validation fault)

/-- The amount denotes no number, but nothing of what counts shows it: a character that does not
belong there is behind the places of the currency, or there is no digit anywhere. -/
inductive Overlooked (amount : String) (decimals : Nat) : Prop
  | stray {counted unseen : List Char} {power : Nat} {character : Char}
      (counts : CountsAs amount decimals counted unseen power) (behind : character ∈ unseen)
      (other : character.isDigit = false) (visible : character ≠ '_')
  | empty {counted unseen : List Char} {power : Nat}
      (counts : CountsAs amount decimals counted unseen power)
      (none : ∀ character ∈ counted ++ unseen, character.isDigit = false)

variable {amount : String} {decimals power : Nat} {counted unseen : List Char}

/-- What counts is in order, so only what is left unseen may not be. -/
theorem CountsAs.isNumber_iff (counts : CountsAs amount decimals counted unseen power) :
    IsNumber (Text.trimCharacters amount.toList) ↔
      (∀ character ∈ unseen, character.isDigit = true ∨ character = '_') ∧
        ∃ character ∈ counted ++ unseen, character.isDigit = true := by
  rw [counts.cut.isNumber_iff, List.forall_mem_append]
  exact and_congr_left fun _ => and_iff_right counts.decimal

theorem overlooked_iff :
    Overlooked amount decimals ↔
      (∃ units, baseUnits amount decimals = .ok units) ∧
        ¬ IsNumber (Text.trimCharacters amount.toList) := by
  have accepted {counted unseen : List Char} {power : Nat}
      (counts : CountsAs amount decimals counted unseen power) :
      ∃ units, baseUnits amount decimals = .ok units :=
    ⟨_, baseUnits_counts_iff.mpr ⟨counted, unseen, power, counts, BitVec.toNat_ofNat _ _⟩⟩
  constructor
  · intro overlooked
    cases overlooked with
    | stray counts behind other visible =>
        refine ⟨accepted counts, ?_⟩
        intro number
        rcases (counts.isNumber_iff.mp number).1 _ behind with digit | skipped
        · exact Bool.false_ne_true (other.symm.trans digit)
        · exact visible skipped
    | empty counts none =>
        refine ⟨accepted counts, ?_⟩
        intro number
        rcases (counts.isNumber_iff.mp number).2 with ⟨character, member, digit⟩
        exact Bool.false_ne_true ((none character member).symm.trans digit)
  · rintro ⟨⟨units, read⟩, malformed⟩
    rcases baseUnits_counts_iff.mp read with ⟨counted, unseen, power, counts, _⟩
    rw [counts.isNumber_iff] at malformed
    by_cases decimal : ∀ character ∈ unseen, character.isDigit = true ∨ character = '_'
    · apply Overlooked.empty counts
      intro character member
      rw [Bool.eq_false_iff]
      exact fun digit => malformed ⟨decimal, character, member, digit⟩
    · push Not at decimal
      rcases decimal with ⟨character, behind, other, visible⟩
      exact .stray counts behind (Bool.eq_false_iff.mpr other) visible

theorem Splits.malformed (splits : Splits amount decimals) :
    ¬ IsNumber (Text.trimCharacters amount.toList) := by
  intro number
  rcases exists_cut number.single decimals with ⟨counted, unseen, power, cut⟩
  have fails := scaledDigits_error_iff.mpr ⟨rfl, splits.2⟩
  rw [scaledDigits_ok_iff.mpr ⟨unseen, cut⟩] at fails
  cases fails

theorem refusesMalformed_iff :
    RefusesMalformed amount decimals ↔ ¬ Overlooked amount decimals ∧ ¬ Splits amount decimals := by
  rw [RefusesMalformed, overlooked_iff, baseUnits_refused_iff]
  constructor
  · intro refuses
    constructor
    · rintro ⟨⟨units, read⟩, malformed⟩
      exact (refuses malformed).1 units read
    · intro splits
      exact (refuses splits.malformed).2 splits
  · rintro ⟨noneRead, noneSplit⟩ malformed
    refine ⟨?_, noneSplit⟩
    intro units read
    exact noneRead ⟨⟨units, read⟩, malformed⟩

end Amount

/-! ## Prices -/

namespace Order

/-- Withdrawals have no price. -/
def price? : Order → Option String
  | createLock parameters => some parameters.keyPrice
  | purchaseKey parameters => some parameters.keyPrice
  | withdraw _ | partialWithdraw _ => none
  | updateKeyPrice parameters => some parameters.keyPrice

/-- The order is encoded, though its price denotes no number. -/
def EncodesMalformed (order : Order) (unlock signer : Address) (version : ContractVersion) : Prop :=
  ∃ price call, order.price? = some price ∧ ¬ Amount.IsNumber (Text.trimCharacters price.toList) ∧
    order.encode unlock signer version = .ok call

variable {order : Order} {unlock signer : Address} {version : ContractVersion} {price : String}

/-- An order with a price is encoded just if its currency is accepted and its price is read. -/
theorem priced_ok_iff (named : order.price? = some price) :
    (∃ call, order.encode unlock signer version = .ok call) ↔
      version.requireNative order.currency = .ok () ∧
        ∃ units, Amount.baseUnits price (version.decimals order.decimals) = .ok units := by
  have priced {build : Unit → Word → ContractCall} (currency : Option Address)
      (price : String) (decimals : Nat) :
      (∃ call, (do
        let checked ← version.requireNative currency
        let units ← Amount.baseUnits price decimals
        return build checked units) = Except.ok call) ↔
      version.requireNative currency = .ok () ∧
        ∃ units, Amount.baseUnits price decimals = .ok units := by
    constructor
    · rintro ⟨call, built⟩
      rcases built_ok built with ⟨_, units, accepted, read, _⟩
      exact ⟨accepted, units, read⟩
    · rintro ⟨accepted, units, read⟩
      exact exists_built accepted read
  cases order with
  | createLock parameters =>
      cases named
      exact priced _ _ _
  | purchaseKey parameters =>
      cases named
      exact priced _ _ _
  | withdraw parameters => cases named
  | partialWithdraw parameters => cases named
  | updateKeyPrice parameters =>
      cases named
      exact priced _ _ _

theorem encodesMalformed_iff :
    order.EncodesMalformed unlock signer version ↔
      version.requireNative order.currency = .ok () ∧ ∃ price, order.price? = some price ∧
        Amount.Overlooked price (version.decimals order.decimals) := by
  constructor
  · rintro ⟨price, call, named, malformed, encoded⟩
    rcases (priced_ok_iff named).mp ⟨call, encoded⟩ with ⟨accepted, read⟩
    exact ⟨accepted, price, named, Amount.overlooked_iff.mpr ⟨read, malformed⟩⟩
  · rintro ⟨accepted, price, named, overlooked⟩
    rcases Amount.overlooked_iff.mp overlooked with ⟨read, malformed⟩
    rcases (priced_ok_iff named).mpr ⟨accepted, read⟩ with ⟨call, encoded⟩
    exact ⟨price, call, named, malformed, encoded⟩

end Order

namespace Amount

/-- Malformed amounts are refused, unless nothing of what counts shows that they are malformed
or they are cut inside a character. Orders are encoded with just the malformed prices of the
first kind, if their currency is accepted. -/
theorem malformed_overlooked_iff (amount : String) (decimals : Nat) (order : Order)
    (unlock signer : Address) (version : ContractVersion) :
    (RefusesMalformed amount decimals ↔ ¬ Overlooked amount decimals ∧ ¬ Splits amount decimals) ∧
      (order.EncodesMalformed unlock signer version ↔
        version.requireNative order.currency = .ok () ∧ ∃ price, order.price? = some price ∧
          Overlooked price (version.decimals order.decimals)) :=
  ⟨refusesMalformed_iff, Order.encodesMalformed_iff⟩

/-- With one place only the `5` behind the point counts, and the letter behind it is not seen. -/
theorem stray_letter_overlooked : ¬ ∀ amount decimals, RefusesMalformed amount decimals := by
  intro refuses
  have malformed : ¬ IsNumber (Text.trimCharacters "1.5x".toList) := by
    intro number
    rcases number.signs 'x' (by decide) with digit | skipped | point
    · cases digit
    · cases skipped
    · cases point
  have accepted : baseUnits "1.5x" 1 = .ok 15 := by rfl
  rcases refuses "1.5x" 1 malformed with ⟨fault, refused⟩
  rw [accepted] at refused
  cases refused

end Amount

end LockGateway
