import LockGateway.Proofs.Abi.Slots
import LockGateway.Proofs.Gateway.VersionProbe
import LockGateway.Proofs.Hex
import LockGateway.Proofs.Rpc.Answering

/-! Which version is detected. Only two kinds of answers lead to a version: the number of one
that there is, in hex data of exactly 32 bytes, or something that no contract with the getter
would answer. Any other number, and any other failure, is an error, and without code nothing is
asked about the version at all. -/

namespace LockGateway

/-! ## Numbers -/

theorem ofBigEndian_lt (bytes : List UInt8) : ofBigEndian bytes < 256 ^ bytes.length := by
  induction bytes using List.reverseRecOn with
  | nil => simp [ofBigEndian]
  | append_singleton bytes byte induction =>
      have small := byte.toNat_lt
      rw [ofBigEndian_append_singleton, List.length_append, List.length_singleton, pow_succ]
      omega

namespace ContractVersion

/-- The number by which contracts tell their version. -/
inductive Numbered : Nat → ContractVersion → Prop
  | v0 : Numbered 0 v0
  | v01 : Numbered 1 v01
  | v02 : Numbered 2 v02
  | v10 : Numbered 3 v10

theorem exists_numbered {number : Nat} (few : number < 4) : ∃ version, Numbered number version := by
  match number, few with
  | 0, _ => exact ⟨_, .v0⟩
  | 1, _ => exact ⟨_, .v01⟩
  | 2, _ => exact ⟨_, .v02⟩
  | 3, _ => exact ⟨_, .v10⟩

theorem ofNumber_beyond {number : Nat} (beyond : 4 ≤ number) (short : number < UInt64.size) :
    ofNumber (UInt64.ofNat number) = .error ⟨Numeral.text 10 number⟩ := by
  have kept : (UInt64.ofNat number).toNat = number := UInt64.toNat_ofNat_of_lt short
  have other (version : ContractVersion) : version.number ≠ UInt64.ofNat number := by
    intro same
    have equal : version.number.toNat = number := by rw [same, kept]
    have few : version.number.toNat < 4 := by cases version <;> decide
    omega
  have none : all.find? (fun version => version.number = UInt64.ofNat number) = none := by
    rw [List.find?_eq_none]
    intro version _
    simpa using other version
  rw [ofNumber, none, kept]

end ContractVersion

theorem versionFound_numbered {number : Nat} {version : ContractVersion}
    (numbered : ContractVersion.Numbered number version) :
    versionFound (.ok (BitVec.ofNat 256 number)) = .ok version := by
  cases numbered <;> rfl

theorem versionFound_beyond {number : Nat} (beyond : 4 ≤ number) (short : number < 2 ^ 64) :
    versionFound (.ok (BitVec.ofNat 256 number)) =
      .error (.unsupportedVersion ⟨Numeral.text 10 number⟩) := by
  have kept : (BitVec.ofNat 256 number).toNat = number := Nat.mod_eq_of_lt (by omega)
  have fits : number < UInt64.size := short
  have numbered : versionNumber (.ok (BitVec.ofNat 256 number)) = .ok (UInt64.ofNat number) := by
    rw [versionNumber, Quantity.toUInt64, kept, if_pos fits]
  rw [versionFound, numbered]
  change (ContractVersion.ofNumber (UInt64.ofNat number)).mapError _ = _
  rw [ContractVersion.ofNumber_beyond beyond fits]
  rfl

/-- Nothing is made of a failure that says nothing about the contract. -/
theorem versionFound_failed {error : GatewayError}
    (noError : ∀ object, error ≠ .transport (.rpc object))
    (noAnswer : ∀ cause, error ≠ .invalidResponse cause) :
    versionFound (.error error) = .error error := by
  cases error with
  | invalidResponse cause => exact absurd rfl (noAnswer cause)
  | transport cause =>
      cases cause with
      | rpc object => exact absurd rfl (noError object)
      | _ => rfl
  | _ => rfl

theorem versionFound_long {number : Nat} (long : 2 ^ 64 ≤ number) (fits : number < 2 ^ 256) :
    versionFound (.ok (BitVec.ofNat 256 number)) =
      .error (.invalidResponse (.exceedsUInt64 "contract version")) := by
  have kept : (BitVec.ofNat 256 number).toNat = number := Nat.mod_eq_of_lt fits
  have exceeds : ¬ number < UInt64.size := Nat.not_lt.mpr long
  have numbered : versionNumber (.ok (BitVec.ofNat 256 number)) =
      .error (.invalidResponse (.exceedsUInt64 "contract version")) := by
    rw [versionNumber, Quantity.toUInt64, kept, if_neg exceeds]
  rw [versionFound, numbered]
  rfl

/-! ## Answers -/

/-- A text other than the two that stand for no code. -/
def Json.IsContractCode (code : Json) : Prop :=
  ∃ text, code = .string text ∧ text ≠ "" ∧ text ≠ "0x"

theorem isContractCode_iff {code : Json} : isContractCode code = true ↔ code.IsContractCode := by
  cases code with
  | string text => simp [isContractCode, Json.string?, Json.IsContractCode]
  | null | boolean | integer | float | list | object =>
      simp [isContractCode, Json.string?, Json.IsContractCode]

namespace Reply

variable {reply : Reply} {number : Nat} {error : GatewayError} {value : Json}
  {kind : ContractKind} {address : Address}

/-- The result is hex data of exactly 32 bytes, which make this number. -/
def TellsWord (reply : Reply) (number : Nat) : Prop :=
  ∃ value bytes, reply.result = .ok value ∧ value.IsHexData bytes ∧ bytes.length = 32 ∧
    ofBigEndian bytes = number

/-- So contracts reply that are older than the getter, and so may something that is no node:
with an error, with a result that is no word, or not in an envelope. -/
inductive Predates (reply : Reply) : Prop
  | refused {error : Rpc.ErrorObject} (failed : reply.result = .error (.transport (.rpc error)))
  | noWord {value : Json} (answered : reply.result = .ok value)
      (other : ∀ bytes, value.IsHexData bytes → bytes.length ≠ 32)
  | invalid {cause : ResponseFault} (failed : reply.result = .error (.invalidResponse cause))

/-- A failure that says nothing about the contract. -/
structure Fails (reply : Reply) (error : GatewayError) : Prop where
  failed : reply.result = .error error
  noError : ∀ object, error ≠ .transport (.rpc object)
  noAnswer : ∀ cause, error ≠ .invalidResponse cause

theorem TellsWord.lt (tells : reply.TellsWord number) : number < 2 ^ 256 := by
  rcases tells with ⟨value, bytes, _, _, length, rfl⟩
  have bound := ofBigEndian_lt bytes
  rw [length] at bound
  exact bound

theorem read_of_tellsWord (tells : reply.TellsWord number) :
    (versionProbe kind address).read reply = .ok (BitVec.ofNat 256 number) := by
  rcases tells with ⟨value, bytes, answered, data, length, rfl⟩
  have word : Abi.ResultKind.uint256.read bytes = .ok (BitVec.ofNat 256 (ofBigEndian bytes)) :=
    Abi.ResultKind.read_slot length rfl
  exact Question.callContract_read answered (readHexData_ok_iff.mpr data) word

theorem read_of_noWord (answered : reply.result = .ok value)
    (other : ∀ bytes, value.IsHexData bytes → bytes.length ≠ 32) :
    ∃ cause, (versionProbe kind address).read reply = .error (.invalidResponse cause) := by
  have ends {error : GatewayError} (fails : (readHexData value >>= fun bytes =>
      (Abi.ResultKind.uint256.read bytes).mapError (.invalidResponse <|
        .undecodable (Abi.Signature.getter kind.versionGetter).text ·)) = .error error) :
      (versionProbe kind address).read reply = .error error :=
    Outcome.bind_eq_error_iff.mpr (.inr ⟨value, answered, fails⟩)
  cases read : readHexData value with
  | error error =>
      rcases readHexData_error read with ⟨cause, rfl⟩
      exact ⟨cause, ends (Outcome.bind_eq_error_iff.mpr (.inl read))⟩
  | ok bytes =>
      have length : bytes.length ≠ Abi.slotSize := other bytes (readHexData_ok_iff.mp read)
      have wrong : ∃ fault, Abi.ResultKind.uint256.read bytes = .error fault := by
        rw [Abi.ResultKind.read]
        by_cases short : bytes.length < Abi.slotSize
        · exact ⟨_, if_pos short⟩
        · exact ⟨_, by rw [if_neg short, if_pos length]⟩
      rcases wrong with ⟨fault, wrong⟩
      refine ⟨.undecodable (Abi.Signature.getter kind.versionGetter).text fault, ends ?_⟩
      apply Outcome.bind_eq_error_iff.mpr
      exact .inr ⟨bytes, read, Outcome.mapError_eq_error_iff.mpr ⟨fault, wrong, rfl⟩⟩

theorem read_of_failed (failed : reply.result = .error error) :
    (versionProbe kind address).read reply = .error error :=
  Outcome.bind_eq_error_iff.mpr (.inl failed)

end Reply

/-! ## Detection -/

section Detection

variable {σ : Type} (sender : Sender (StateM σ)) (kind : ContractKind) (address : Address)
  (world : σ)

/-- The sender's reply to the question for code, and the world after it. -/
def Sender.askedForCode : Reply × σ :=
  sender "eth_getCode" (.list (codeParams address)) world

/-- The sender's reply to the probe that follows, and the world after it. -/
def Sender.probed : Reply × σ :=
  sender "eth_call" (.list (versionProbe kind address).params) (sender.askedForCode address world).2

/-- There is code at the address. -/
def Sender.Deployed : Prop :=
  ∃ code, (sender.askedForCode address world).1.result = .ok code ∧ code.IsContractCode

/-- What becomes of a detection, and the world that it leaves. -/
inductive Detects : Except GatewayError ContractVersion → σ → Prop
  | codeFailed {error : GatewayError}
      (failed : (sender.askedForCode address world).1.result = .error error) :
      Detects (.error error) (sender.askedForCode address world).2
  | noCode {code : Json} (answered : (sender.askedForCode address world).1.result = .ok code)
      (none : ¬ code.IsContractCode) :
      Detects (.error (.validation (.noContract address))) (sender.askedForCode address world).2
  | numbered {number : Nat} {version : ContractVersion} (deployed : sender.Deployed address world)
      (tells : (sender.probed kind address world).1.TellsWord number)
      (numbered : ContractVersion.Numbered number version) :
      Detects (.ok version) (sender.probed kind address world).2
  | predates (deployed : sender.Deployed address world)
      (predates : (sender.probed kind address world).1.Predates) :
      Detects (.ok .v0) (sender.probed kind address world).2
  | unsupported {number : Nat} (deployed : sender.Deployed address world)
      (tells : (sender.probed kind address world).1.TellsWord number)
      (beyond : 4 ≤ number) (short : number < 2 ^ 64) :
      Detects (.error (.unsupportedVersion ⟨Numeral.text 10 number⟩))
        (sender.probed kind address world).2
  | tooLong {number : Nat} (deployed : sender.Deployed address world)
      (tells : (sender.probed kind address world).1.TellsWord number)
      (long : 2 ^ 64 ≤ number) :
      Detects (.error (.invalidResponse (.exceedsUInt64 "contract version")))
        (sender.probed kind address world).2
  | probeFailed {error : GatewayError} (deployed : sender.Deployed address world)
      (fails : (sender.probed kind address world).1.Fails error) :
      Detects (.error error) (sender.probed kind address world).2

theorem detectVersion_run :
    (detectVersion kind address).run sender world =
      match (sender.askedForCode address world).1.result with
      | .error error => (.error error, (sender.askedForCode address world).2)
      | .ok code =>
          if isContractCode code then
            (versionFound ((versionProbe kind address).read (sender.probed kind address world).1),
              (sender.probed kind address world).2)
          else
            (.error (.validation (.noContract address)),
              (sender.askedForCode address world).2) := by
  rw [detectVersion_eq]
  change Query.runWith sender.caller (match (sender.askedForCode address world).1.result with
    | .error error => _
    | .ok code => _) (sender.askedForCode address world).2 = _
  cases (sender.askedForCode address world).1.result with
  | error error => rfl
  | ok code =>
      dsimp only
      cases isContractCode code with
      | false => rfl
      | true => rfl

variable {sender kind address world}

theorem Sender.Deployed.run_eq (deployed : sender.Deployed address world) :
    (detectVersion kind address).run sender world =
      (versionFound ((versionProbe kind address).read (sender.probed kind address world).1),
        (sender.probed kind address world).2) := by
  rcases deployed with ⟨code, answered, isCode⟩
  rw [detectVersion_run, answered]
  dsimp only
  rw [if_pos (isContractCode_iff.mpr isCode)]

theorem Detects.run_eq {outcome : Except GatewayError ContractVersion} {later : σ}
    (detects : Detects sender kind address world outcome later) :
    (detectVersion kind address).run sender world = (outcome, later) := by
  cases detects with
  | codeFailed failed => rw [detectVersion_run, failed]
  | noCode answered none =>
      rw [detectVersion_run, answered]
      dsimp only
      rw [if_neg (mt isContractCode_iff.mp none)]
  | numbered deployed tells numbered =>
      rw [deployed.run_eq, Reply.read_of_tellsWord tells, versionFound_numbered numbered]
  | predates deployed predates =>
      rw [deployed.run_eq]
      cases predates with
      | refused failed =>
          rw [Reply.read_of_failed failed]
          rfl
      | noWord answered other =>
          rcases Reply.read_of_noWord answered other with ⟨cause, read⟩
          rw [read]
          rfl
      | invalid failed =>
          rw [Reply.read_of_failed failed]
          rfl
  | unsupported deployed tells beyond short =>
      rw [deployed.run_eq, Reply.read_of_tellsWord tells, versionFound_beyond beyond short]
  | tooLong deployed tells long =>
      rw [deployed.run_eq, Reply.read_of_tellsWord tells, versionFound_long long tells.lt]
  | probeFailed deployed fails =>
      rw [deployed.run_eq, Reply.read_of_failed fails.failed,
        versionFound_failed fails.noError fails.noAnswer]

/-- Every reply to a probe is a number, tells of an old contract, or fails. -/
theorem Reply.cases_of_probe (reply : Reply) :
    (∃ number, reply.TellsWord number) ∨ reply.Predates ∨ ∃ error, reply.Fails error := by
  cases result : reply.result with
  | ok value =>
      by_cases word : ∃ bytes, value.IsHexData bytes ∧ bytes.length = 32
      · rcases word with ⟨bytes, data, length⟩
        exact .inl ⟨_, value, bytes, result, data, length, rfl⟩
      · push Not at word
        exact .inr (.inl (.noWord result word))
  | error error =>
      right
      by_cases refused : ∃ object, error = .transport (.rpc object)
      · rcases refused with ⟨object, rfl⟩
        exact .inl (.refused result)
      · by_cases invalid : ∃ cause, error = .invalidResponse cause
        · rcases invalid with ⟨cause, rfl⟩
          exact .inl (.invalid result)
        · exact .inr ⟨error, result, not_exists.mp refused, not_exists.mp invalid⟩

theorem exists_detects (sender : Sender (StateM σ)) (kind : ContractKind) (address : Address)
    (world : σ) :
    ∃ outcome later, Detects sender kind address world outcome later := by
  cases answered : (sender.askedForCode address world).1.result with
  | error error => exact ⟨_, _, .codeFailed answered⟩
  | ok code =>
      by_cases isCode : code.IsContractCode
      · have deployed : sender.Deployed address world := ⟨code, answered, isCode⟩
        rcases (sender.probed kind address world).1.cases_of_probe with
          ⟨number, tells⟩ | predates | ⟨error, fails⟩
        · by_cases few : number < 4
          · rcases ContractVersion.exists_numbered few with ⟨version, numbered⟩
            exact ⟨_, _, .numbered deployed tells numbered⟩
          · by_cases short : number < 2 ^ 64
            · exact ⟨_, _, .unsupported deployed tells (Nat.le_of_not_lt few) short⟩
            · exact ⟨_, _, .tooLong deployed tells (Nat.le_of_not_lt short)⟩
        · exact ⟨_, _, .predates deployed predates⟩
        · exact ⟨_, _, .probeFailed deployed fails⟩
      · exact ⟨_, _, .noCode answered isCode⟩

/-- A detection ends by the rule for its two replies and in no other way, and it ends with a
version just if there is code and the reply to the probe has the number of that version, or
tells of an old contract. -/
theorem detected_by_rule (sender : Sender (StateM σ)) (kind : ContractKind) (address : Address)
    (world : σ) :
    (∀ outcome later, (detectVersion kind address).run sender world = (outcome, later) ↔
        Detects sender kind address world outcome later) ∧
      ∀ version, ((detectVersion kind address).run sender world).1 = .ok version ↔
        sender.Deployed address world ∧
          ((∃ number, (sender.probed kind address world).1.TellsWord number ∧
              ContractVersion.Numbered number version) ∨
            (sender.probed kind address world).1.Predates ∧ version = .v0) := by
  have rule (outcome : Except GatewayError ContractVersion) (later : σ) :
      (detectVersion kind address).run sender world = (outcome, later) ↔
        Detects sender kind address world outcome later := by
    constructor
    · intro ends
      -- Some end is by the rule, and a run has no other end than that.
      rcases exists_detects sender kind address world with ⟨found, after, detects⟩
      cases ends.symm.trans detects.run_eq
      exact detects
    · exact Detects.run_eq
  refine ⟨rule, fun version => ?_⟩
  constructor
  · intro found
    obtain ⟨later, ends⟩ : ∃ later,
        (detectVersion kind address).run sender world = (.ok version, later) :=
      ⟨_, Prod.ext found rfl⟩
    cases (rule _ _).mp ends with
    | numbered deployed tells numbered => exact ⟨deployed, .inl ⟨_, tells, numbered⟩⟩
    | predates deployed predates => exact ⟨deployed, .inr ⟨predates, rfl⟩⟩
  · rintro ⟨deployed, ⟨number, tells, numbered⟩ | ⟨predates, rfl⟩⟩
    · rw [(Detects.numbered deployed tells numbered).run_eq]
    · rw [(Detects.predates deployed predates).run_eq]

end Detection

end LockGateway
