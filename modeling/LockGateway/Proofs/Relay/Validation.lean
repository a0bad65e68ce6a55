import Mathlib.Algebra.Order.Field.Power
import Mathlib.Data.Rat.Cast.Order
import Mathlib.Tactic.Linarith
import LockGateway.Relay

/-! Which payloads a relay takes for calls. A call names a method, and has a list of parameters
and an id: a whole number, written as an integer or as a floating-point number. Numbers are
compared here as the exact rationals that they denote. Ids go up to `2 ^ 64 - 1`, but the number
behind the greatest id is let through as well, as if it were the greatest. -/

namespace LockGateway

/-! ## Exact numbers -/

namespace Double

/-- The number that a double denotes. -/
def number (double : Double) : ℚ :=
  (if double.negative then -1 else 1) * (double.significand * 2 ^ double.exponent)

theorem quotient_pos (double : Double) : 0 < double.quotient.2 := by
  rw [quotient]
  split
  · exact Nat.one_pos
  · exact Nat.pow_pos Nat.two_pos

theorem magnitude_eq (double : Double) :
    (double.significand * 2 ^ double.exponent : ℚ) = double.quotient.1 / double.quotient.2 := by
  rw [quotient]
  split
  case isTrue whole =>
    obtain ⟨places, equal⟩ := Int.eq_ofNat_of_zero_le whole
    simp [equal]
  case isFalse fraction =>
    obtain ⟨places, equal⟩ := Int.eq_ofNat_of_zero_le (by omega : 0 ≤ -double.exponent)
    have exponent : double.exponent = -(places : Int) := by omega
    simp [exponent, div_eq_mul_inv]

theorem quotient_eq_natCast_iff {numerator denominator whole : Nat} (positive : 0 < denominator) :
    (numerator / denominator : ℚ) = whole ↔
      numerator % denominator = 0 ∧ numerator / denominator = whole := by
  have unit : (denominator : ℚ) ≠ 0 := Nat.cast_ne_zero.mpr positive.ne'
  rw [div_eq_iff unit]
  constructor
  · intro equal
    have product : numerator = whole * denominator := by exact_mod_cast equal
    rw [product, Nat.mul_mod_left, Nat.mul_div_cancel whole positive]
    exact ⟨rfl, rfl⟩
  · rintro ⟨divides, equal⟩
    have product := Nat.div_add_mod numerator denominator
    rw [divides, equal, Nat.add_zero, Nat.mul_comm] at product
    exact_mod_cast product.symm

/-- A double is read as a natural number just if it denotes that number. -/
theorem toNat?_eq_some_iff {double : Double} {whole : Nat} :
    double.toNat? = some whole ↔ double.number = whole := by
  have positive := double.quotient_pos
  rw [toNat?, number, magnitude_eq]
  generalize double.quotient = parts at positive ⊢
  rcases parts with ⟨numerator, denominator⟩
  have unit : (denominator : ℚ) ≠ 0 := Nat.cast_ne_zero.mpr (Nat.ne_of_gt positive)
  cases double.negative with
  | false => simp [quotient_eq_natCast_iff positive]
  | true =>
      have magnitude : (0 : ℚ) ≤ numerator / denominator :=
        div_nonneg (Nat.cast_nonneg numerator) (Nat.cast_nonneg denominator)
      have number : (0 : ℚ) ≤ whole := Nat.cast_nonneg whole
      -- Below zero there is no natural number, so only a negative zero is read.
      have zero : -(numerator / denominator : ℚ) = whole ↔ numerator = 0 ∧ whole = 0 := by
        constructor
        · intro equal
          have nothing : (numerator / denominator : ℚ) = 0 := by linarith
          have neither : (whole : ℚ) = 0 := by linarith
          rw [div_eq_zero_iff, or_iff_left unit, Nat.cast_eq_zero] at nothing
          exact ⟨nothing, Nat.cast_eq_zero.mp neither⟩
        · rintro ⟨rfl, rfl⟩
          simp
      by_cases none : numerator = 0
      · simp [none, eq_comm]
      · simp [zero, none]

end Double

/-- The number that a JSON value is, if it is one. -/
def Json.number? : Json → Option ℚ
  | .integer number => some number.value
  | .float double => some double.number
  | _ => none

theorem Json.string?_eq_some_iff {value : Json} {text : String} :
    value.string? = some text ↔ value = .string text := by
  cases value <;> simp [string?]

theorem Json.list?_eq_some_iff {value : Json} {elements : List Json} :
    value.list? = some elements ↔ value = .list elements := by
  cases value <;> simp [list?]

/-! ## Calls -/

/-- The payload is an object with the name of a method, these parameters and this id. -/
structure Json.IsCall (payload : Json) (method : String) (params : List Json) (id : ℚ) : Prop where
  object : ∃ members, payload = .object members
  names : payload.member? "method" = some (.string method)
  filled : method ≠ ""
  lists : payload.member? "params" = some (.list params)
  numbers : ∃ value, payload.member? "id" = some value ∧ value.number? = some id

theorem Json.IsCall.id_eq {payload : Json} {method other : String} {params others : List Json}
    {id otherId : ℚ} (call : payload.IsCall method params id)
    (again : payload.IsCall other others otherId) : id = otherId := by
  rcases call.numbers with ⟨value, found, number⟩
  rcases again.numbers with ⟨same, foundAgain, numberAgain⟩
  rw [found] at foundAgain
  cases foundAgain
  rw [number] at numberAgain
  exact Option.some.inj numberAgain

namespace RelayRequest

theorem ofNat_eq_iff {whole : Nat} {id : UInt64} (fits : whole < 2 ^ 64) :
    UInt64.ofNat whole = id ↔ id.toNat = whole := by
  rw [← UInt64.toNat_inj, UInt64.toNat_ofNat', Nat.mod_eq_of_lt fits]
  exact eq_comm

theorem id?_integer {number : Json.Integer} {id : UInt64} :
    id? (.integer number) = some id ↔ number.value = id.toNat := by
  by_cases positive : 0 ≤ number.value
  · have below := number.below
    have fits : number.value.toNat < 2 ^ 64 := by omega
    have read : (Json.integer number).uint64? = some (UInt64.ofNat number.value.toNat) :=
      if_pos positive
    simp only [id?, read, Option.some.injEq, ofNat_eq_iff fits]
    omega
  · have unread : (Json.integer number).uint64? = none := if_neg positive
    simp only [id?, unread, reduceCtorEq, false_iff]
    omega

theorem id?_float {double : Double} {id : UInt64} :
    id? (.float double) = some id ↔
      ∃ whole, double.toNat? = some whole ∧ whole ≤ 2 ^ 64 ∧
        id.toNat = min whole (2 ^ 64 - 1) := by
  have unread : (Json.float double).uint64? = none := rfl
  have size : UInt64.size = 2 ^ 64 := rfl
  simp only [id?, unread, size]
  cases read : double.toNat? with
  | none => simp
  | some whole =>
      have fits : min whole (2 ^ 64 - 1) < 2 ^ 64 := by omega
      by_cases near : whole ≤ 2 ^ 64
      · simp only [near, if_true, Option.some.injEq, ofNat_eq_iff fits]
        constructor
        · intro same
          exact ⟨whole, rfl, near, same⟩
        · rintro ⟨_, rfl, _, same⟩
          exact same
      · simp only [near, if_false, Option.some.injEq, reduceCtorEq, false_iff]
        rintro ⟨_, rfl, near', _⟩
        exact near near'

/-- An id is a whole number that is not beyond the greatest id by more than one. -/
theorem id?_eq_some_iff {value : Json} {id : UInt64} :
    id? value = some id ↔
      ∃ whole : Nat, value.number? = some (whole : ℚ) ∧ whole ≤ 2 ^ 64 ∧
        id.toNat = min whole (2 ^ 64 - 1) := by
  cases value with
  | integer number =>
      have denoted (whole : Nat) : (Json.integer number).number? = some (whole : ℚ) ↔
          number.value = whole := by
        rw [Json.number?, Option.some.injEq, ← Int.cast_natCast, Int.cast_inj]
      have below := number.below
      simp only [id?_integer, denoted]
      constructor
      · intro equal
        exact ⟨id.toNat, equal, by omega, by omega⟩
      · rintro ⟨whole, equal, _, same⟩
        omega
  | float double =>
      simp only [id?_float, Json.number?, Option.some.injEq, Double.toNat?_eq_some_iff]
  | null | boolean | string | list | object => simp [id?, Json.uint64?, Json.number?]

theorem ofPayload?_parts {payload : Json} {request : RelayRequest} :
    ofPayload? payload = some request ↔
      payload.member? "method" = some (.string request.method) ∧ request.method ≠ "" ∧
        payload.member? "params" = some (.list request.params) ∧
        ∃ value, payload.member? "id" = some value ∧ id? value = some request.id := by
  rw [ofPayload?]
  simp only [Option.bind_eq_bind, Option.bind_eq_some_iff, Json.string?_eq_some_iff]
  constructor
  · rintro ⟨_, names, method, rfl, read⟩
    by_cases blank : method.isEmpty
    · rw [if_pos blank] at read
      cases read
    · rw [if_neg blank] at read
      simp only [Option.bind_eq_some_iff, Json.list?_eq_some_iff] at read
      rcases read with ⟨_, lists, params, rfl, value, found, id, numbers, built⟩
      cases built
      exact ⟨names, by simpa using blank, lists, value, found, numbers⟩
  · rintro ⟨names, filled, lists, value, found, numbers⟩
    have visible : ¬ request.method.isEmpty := by simpa using filled
    refine ⟨_, names, request.method, rfl, ?_⟩
    simp [visible, lists, found, numbers, Json.list?]

/-- What a payload is taken for. -/
theorem ofPayload?_eq_some_iff {payload : Json} {request : RelayRequest} :
    ofPayload? payload = some request ↔
      ∃ whole : Nat, payload.IsCall request.method request.params whole ∧ whole ≤ 2 ^ 64 ∧
        request.id.toNat = min whole (2 ^ 64 - 1) := by
  rw [ofPayload?_parts]
  simp only [id?_eq_some_iff]
  constructor
  · rintro ⟨names, filled, lists, value, found, whole, number, bound, same⟩
    have object : ∃ members, payload = .object members := by
      cases payload with
      | object members => exact ⟨members, rfl⟩
      | _ => cases names
    exact ⟨whole, ⟨object, names, filled, lists, value, found, number⟩, bound, same⟩
  · rintro ⟨whole, call, bound, same⟩
    rcases call.numbers with ⟨value, found, number⟩
    exact ⟨call.names, call.filled, call.lists, value, found, whole, number, bound, same⟩

/-! ## Ids -/

variable {payload other : Json} {request otherRequest : RelayRequest}

/-- Only the number behind the greatest id is not kept as it is. -/
theorem keepsId_iff :
    (∀ request, ofPayload? payload = some request ↔
        payload.IsCall request.method request.params request.id.toNat) ↔
      ∀ method params, ¬ payload.IsCall method params (2 ^ 64 : Nat) := by
  simp only [ofPayload?_eq_some_iff]
  constructor
  · intro keeps method params beyond
    -- It would be read as the greatest id, which the payload does not have.
    have greatest := (keeps ⟨method, params, 18446744073709551615⟩).mp
      ⟨2 ^ 64, beyond, Nat.le_refl _, rfl⟩
    have equal : 2 ^ 64 = 18446744073709551615 := Nat.cast_injective (beyond.id_eq greatest)
    omega
  · intro near request
    constructor
    · rintro ⟨whole, call, bound, same⟩
      have other : whole ≠ 2 ^ 64 := by
        rintro rfl
        exact near _ _ call
      have kept : request.id.toNat = whole := by omega
      rwa [kept]
    · intro call
      have fits := request.id.toNat_lt
      exact ⟨request.id.toNat, call, by omega, by omega⟩

/-- Two calls are given one id if they have the same number, or both stand at the end. -/
theorem id_eq_iff {id otherId : ℚ} (read : ofPayload? payload = some request)
    (readOther : ofPayload? other = some otherRequest)
    (call : payload.IsCall request.method request.params id)
    (otherCall : other.IsCall otherRequest.method otherRequest.params otherId) :
    request.id = otherRequest.id ↔
      id = otherId ∨ (2 ^ 64 - 1 : Nat) ≤ id ∧ (2 ^ 64 - 1 : Nat) ≤ otherId := by
  rcases ofPayload?_eq_some_iff.mp read with ⟨whole, named, bound, same⟩
  rcases ofPayload?_eq_some_iff.mp readOther with ⟨otherWhole, otherNamed, otherBound, otherSame⟩
  rw [call.id_eq named, otherCall.id_eq otherNamed, Nat.cast_inj, Nat.cast_le, Nat.cast_le,
    ← UInt64.toNat_inj, same, otherSame]
  omega

/-- A payload is taken for a call just if it is one and its id goes up to `2 ^ 64`. Method,
parameters and id are those of the payload, but `2 ^ 64` becomes the greatest id: so the
payload is validated exactly unless it has this id, and only then shares its id with another. -/
theorem validated_exactly_iff (payload : Json) :
    (∀ request, ofPayload? payload = some request ↔
      ∃ whole : Nat, payload.IsCall request.method request.params whole ∧ whole ≤ 2 ^ 64 ∧
        request.id.toNat = min whole (2 ^ 64 - 1)) ∧
      ((∀ request, ofPayload? payload = some request ↔
          payload.IsCall request.method request.params request.id.toNat) ↔
        ∀ method params, ¬ payload.IsCall method params (2 ^ 64 : Nat)) ∧
      ∀ (other : Json) (request otherRequest : RelayRequest) (id otherId : ℚ),
        ofPayload? payload = some request → ofPayload? other = some otherRequest →
        payload.IsCall request.method request.params id →
        other.IsCall otherRequest.method otherRequest.params otherId →
        (request.id = otherRequest.id ↔
          id = otherId ∨ (2 ^ 64 - 1 : Nat) ≤ id ∧ (2 ^ 64 - 1 : Nat) ≤ otherId) := by
  refine ⟨fun request => ofPayload?_eq_some_iff, keepsId_iff, ?_⟩
  intro other request otherRequest id otherId read readOther call otherCall
  exact id_eq_iff read readOther call otherCall

/-- A call for the accounts, under an id. -/
def asking (id : Json) : Json :=
  .object [("id", id), ("method", .string "eth_accounts"), ("params", .list [])]

/-- The number behind the greatest id. -/
def beyond : Double := ⟨false, Nat.pow 2 52, 12⟩

theorem asking_isCall {id : Json} {number : ℚ} (denoted : id.number? = some number) :
    (asking id).IsCall "eth_accounts" [] number :=
  ⟨⟨_, rfl⟩, rfl, by decide, rfl, id, rfl, denoted⟩

theorem beyond_number : (Json.float beyond).number? = some ((2 ^ 64 : Nat) : ℚ) := by
  rw [Json.number?, Option.some.injEq, ← Double.toNat?_eq_some_iff]
  decide +kernel

def greatest : RelayRequest where
  method := "eth_accounts"
  params := []
  id := 18446744073709551615

/-- Two numbers, one id. -/
theorem greatest_id_shared :
    ofPayload? (asking (.float beyond)) = some greatest ∧
      ofPayload? (asking (.ofUInt64 greatest.id)) = some greatest ∧
      (asking (.float beyond)).IsCall greatest.method greatest.params (2 ^ 64 : Nat) ∧
      (asking (.ofUInt64 greatest.id)).IsCall greatest.method greatest.params
        (18446744073709551615 : Int) ∧
      (greatest.id = greatest.id ↔
        ((2 ^ 64 : Nat) : ℚ) = (18446744073709551615 : Int) ∨
          ((2 ^ 64 - 1 : Nat) : ℚ) ≤ (2 ^ 64 : Nat) ∧
            ((2 ^ 64 - 1 : Nat) : ℚ) ≤ (18446744073709551615 : Int)) := by
  have call := asking_isCall beyond_number
  have read : ofPayload? (asking (.float beyond)) = some greatest :=
    ofPayload?_eq_some_iff.mpr ⟨2 ^ 64, call, Nat.le_refl _, rfl⟩
  have readOther : ofPayload? (asking (.ofUInt64 greatest.id)) = some greatest := rfl
  have written : (Json.ofUInt64 greatest.id).number? =
      some ((18446744073709551615 : Int) : ℚ) := rfl
  have otherCall := asking_isCall written
  exact ⟨read, readOther, call, otherCall,
    (validated_exactly_iff (asking (.float beyond))).2.2 _ _ _ _ _ read readOther call otherCall⟩

/-- The number behind the greatest id is validated to the greatest. -/
theorem id_behind_greatest :
    ¬ ∀ (payload : Json) (request : RelayRequest), ofPayload? payload = some request ↔
      payload.IsCall request.method request.params request.id.toNat := by
  intro exact
  exact keepsId_iff.mp (exact (asking (.float beyond))) _ _ (asking_isCall beyond_number)

end RelayRequest

end LockGateway
