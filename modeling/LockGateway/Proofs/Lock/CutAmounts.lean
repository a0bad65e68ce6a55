import LockGateway.Proofs.Amount.Number
import LockGateway.Proofs.Gateway.Encoding

/-! Amounts and orders without an answer. Places are counted in bytes, so the last place of a
currency can lie inside a character of the fraction. Such an amount is neither read nor refused,
and no order for it is encoded or refused; everything else has an answer. -/

namespace LockGateway

/-! ## Cuts -/

/-- The boundary after these bytes falls inside a character just if there is one that starts
before it and ends behind it. -/
theorem Text.breaksAt_iff {count : Nat} {characters : List Char} :
    BreaksAt count characters ↔
      ∃ before character after, characters = before ++ character :: after ∧
        byteLength before < count ∧ count < byteLength before + character.utf8Size := by
  rw [← takeBytes_eq_none_iff]
  constructor
  · intro broken
    induction characters generalizing count with
    | nil => cases broken
    | cons first rest induction =>
        rw [takeBytes] at broken
        by_cases start : count = 0
        · rw [if_pos start] at broken
          cases broken
        · rw [if_neg start] at broken
          by_cases inside : count < first.utf8Size
          · refine ⟨[], first, rest, rfl, Nat.pos_of_ne_zero start, ?_⟩
            simpa [byteLength] using inside
          · rw [if_neg inside, Option.map_eq_none_iff] at broken
            rcases induction broken with ⟨before, character, after, rfl, started, unended⟩
            refine ⟨first :: before, character, after, rfl, ?_, ?_⟩
            · rw [byteLength]
              omega
            · rw [byteLength]
              omega
  · rintro ⟨before, character, after, rfl, started, unended⟩
    induction before generalizing count with
    | nil =>
        rw [byteLength] at started unended
        rw [List.nil_append, takeBytes, if_neg (by omega), if_pos (by omega)]
    | cons first more induction =>
        rw [byteLength] at started unended
        rw [List.cons_append, takeBytes, if_neg (by omega), if_neg (by omega),
          Option.map_eq_none_iff]
        exact induction (by omega) (by omega)

namespace Amount

/-- The places of the currency end inside this character of the fraction: some of its bytes
would be kept, and some cut off. -/
inductive CutInside (amount : String) (decimals : Nat) : Prop
  | inside {whole before after : List Char} {character : Char}
      (few : decimals ≤ greatestDecimals) (noPoint : '.' ∉ whole)
      (parts : Text.trimCharacters amount.toList = whole ++ '.' :: (before ++ character :: after))
      (started : Text.byteLength before < decimals)
      (unended : decimals < Text.byteLength before + character.utf8Size)

variable {amount : String} {decimals : Nat}

theorem splitAtPoint_some_iff {characters fraction : List Char} :
    (splitAtPoint characters).2 = some fraction ↔
      ∃ whole, '.' ∉ whole ∧ characters = whole ++ '.' :: fraction := by
  constructor
  · intro found
    by_cases point : '.' ∈ characters
    · obtain ⟨whole, rest, rfl, noPoint⟩ := List.eq_append_cons_of_mem point
      rw [splitAtPoint_append noPoint] at found
      cases found
      exact ⟨whole, noPoint, rfl⟩
    · rw [splitAtPoint_whole point] at found
      cases found
  · rintro ⟨whole, noPoint, rfl⟩
    rw [splitAtPoint_append noPoint]

theorem cutInside_iff : CutInside amount decimals ↔ Splits amount decimals := by
  simp only [Splits, splitAtPoint_some_iff, Text.breaksAt_iff]
  constructor
  · rintro ⟨few, noPoint, parts, started, unended⟩
    exact ⟨few, _, ⟨_, noPoint, parts⟩, _, _, _, rfl, started, unended⟩
  · rintro ⟨few, _, ⟨whole, noPoint, parts⟩, before, character, after, rfl, started, unended⟩
    exact .inside few noPoint parts started unended

/-- Every character of the fraction that a currency can have a place for is a single byte. -/
def NarrowFraction (amount : String) : Prop :=
  ∀ whole before after character, '.' ∉ whole →
    Text.trimCharacters amount.toList = whole ++ '.' :: (before ++ character :: after) →
      Text.byteLength before < greatestDecimals → character.utf8Size = 1

theorem narrowFraction_iff :
    NarrowFraction amount ↔ ∀ decimals, ¬ CutInside amount decimals := by
  constructor
  · rintro narrow decimals ⟨few, noPoint, parts, started, unended⟩
    have single := narrow _ _ _ _ noPoint parts (by omega)
    omega
  · intro uncut whole before after character noPoint parts near
    by_contra wide
    have some := character.utf8Size_pos
    apply uncut (Text.byteLength before + 1)
    exact .inside near noPoint parts (Nat.lt_succ_self _) (by omega)

end Amount

/-! ## Answers -/

/-- What was asked for, or what is wrong with the asking. -/
inductive Answered {α : Type} : Except GatewayError α → Prop
  | ok (answer : α) : Answered (.ok answer)
  | refused (fault : ValidationFault) : Answered (.error (.validation fault))

/-- Nothing but an abortion keeps the outcome from being an answer. -/
def Definite {α : Type} (outcome : Except GatewayError α) : Prop :=
  Answered outcome ∨ outcome = .error .aborted

namespace Definite

variable {α β : Type} {outcome : Except GatewayError α}

theorem bind {next : α → Except GatewayError β} (definite : Definite outcome)
    (nextDefinite : ∀ answer, Definite (next answer)) : Definite (outcome >>= next) := by
  rcases definite with (answer | fault) | aborted
  · exact nextDefinite answer
  · exact .inl (.refused fault)
  · right
    rw [aborted]
    rfl

theorem answered_iff (definite : Definite outcome) :
    Answered outcome ↔ outcome ≠ .error .aborted := by
  constructor
  · rintro (answer | fault) aborted
    · cases aborted
    · cases aborted
  · intro ends
    exact definite.resolve_right ends

end Definite

theorem Amount.baseUnits_definite (amount : String) (decimals : Nat) :
    Definite (baseUnits amount decimals) := by
  rw [baseUnits]
  cases toBaseUnits amount decimals with
  | ok units => exact .inl (.ok units)
  | error fault =>
      cases fault with
      | splitCharacter => exact .inr rfl
      | _ => exact .inl (.refused _)

namespace Order

theorem requireNative_definite (version : ContractVersion) (currency : Option Address) :
    Definite (version.requireNative currency) := by
  unfold ContractVersion.requireNative
  repeat' split
  · exact .inl (.refused _)
  · exact .inl (.ok ())
  · exact .inl (.ok ())

theorem requireAmount_definite (amount : Option String) :
    Definite (ContractVersion.requireAmount amount) := by
  unfold ContractVersion.requireAmount
  repeat' split
  · exact .inl (.refused _)
  · exact .inl (.ok _)
  · exact .inl (.refused _)

/-- What is built once something was checked and an amount is read is definite if these are. -/
theorem built_definite {α : Type} {check : Except GatewayError α}
    {amount : α → Except GatewayError Word} {build : α → Word → ContractCall}
    (checks : Definite check) (reads : ∀ checked, Definite (amount checked)) :
    Definite (do
      let checked ← check
      let units ← amount checked
      return build checked units) := by
  apply checks.bind
  intro checked
  apply (reads checked).bind
  exact fun units => .inl (.ok (build checked units))

theorem encode_definite (order : Order) (unlock signer : Address) (version : ContractVersion) :
    Definite (order.encode unlock signer version) := by
  cases order with
  | createLock parameters =>
      exact built_definite (requireNative_definite _ _) fun _ => Amount.baseUnits_definite _ _
  | purchaseKey parameters =>
      exact built_definite (requireNative_definite _ _) fun _ => Amount.baseUnits_definite _ _
  | withdraw parameters => exact .inl (.ok _)
  | partialWithdraw parameters =>
      exact built_definite (requireAmount_definite _) fun _ => Amount.baseUnits_definite _ _
  | updateKeyPrice parameters =>
      exact built_definite (requireNative_definite _ _) fun _ => Amount.baseUnits_definite _ _

end Order

namespace Amount

/-- An amount is answered unless it is cut inside a character, and it is answered whatever the
places of the currency are just if its fraction is one of single bytes. An order is answered by
every version unless it comes to an amount that is cut in this way. -/
theorem answered_unless_cut (amount : String) (decimals : Nat) (order : Order)
    (unlock signer : Address) (version : ContractVersion) :
    (Answered (baseUnits amount decimals) ↔ ¬ CutInside amount decimals) ∧
      ((∀ places, Answered (baseUnits amount places)) ↔ NarrowFraction amount) ∧
      (Answered (order.encode unlock signer version) ↔ ¬ order.Splits version) := by
  have answered (places : Nat) :
      Answered (baseUnits amount places) ↔ ¬ CutInside amount places := by
    rw [(baseUnits_definite amount places).answered_iff, cutInside_iff, Ne, baseUnits_aborted_iff]
  refine ⟨answered decimals, ?_, ?_⟩
  · rw [narrowFraction_iff]
    exact forall_congr' answered
  · rw [(order.encode_definite unlock signer version).answered_iff, Ne, Order.encode_aborted_iff]

/-- With one place the fraction is cut after the first of the two bytes of its only character. -/
theorem two_bytes_unanswered : ¬ ∀ amount decimals, Answered (baseUnits amount decimals) := by
  intro answered
  have cut : baseUnits "1.é" 1 = .error .aborted := by rfl
  have answer := answered "1.é" 1
  rw [cut] at answer
  cases answer

end Amount

end LockGateway
