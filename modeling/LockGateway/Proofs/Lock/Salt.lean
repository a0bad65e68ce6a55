import LockGateway.Proofs.Abi.RoundTrip
import LockGateway.Proofs.Lock.Creation

/-! What salts tell of the locks that they are made for. Nothing stands between the creator, the
name and the duration in the preimage of a salt, but only the name is of any length, so they can
be told apart. Two locks share a salt only if they agree in all three, or if the shortened hash of
their preimages collides. -/

namespace LockGateway

theorem Text.utf8_injective : Function.Injective utf8 := by
  intro left right same
  have read := Abi.readText?_utf8 left
  rw [same, Abi.readText?_utf8] at read
  exact (Option.some.inj read).symm

/-- Eight bytes tell a number of 64 bits. -/
theorem bigEndian_toNat_injective :
    Function.Injective fun number : UInt64 => bigEndian 8 number.toNat := by
  have read (number : UInt64) : ofBigEndian (bigEndian 8 number.toNat) = number.toNat := by
    rw [ofBigEndian_bigEndian]
    exact Nat.mod_eq_of_lt number.toNat_lt
  intro left right same
  have values := congrArg ofBigEndian same
  rw [read, read] at values
  exact UInt64.toNat_inj.mp values

namespace LockSalt

open Abi

/-! ## Preimages -/

/-- All that the salt of a lock is made from. -/
structure Origin where
  creator : Address
  name : String
  expirationDuration : UInt64
  deriving DecidableEq

namespace Origin

def preimage (origin : Origin) : List UInt8 :=
  LockSalt.preimage origin.creator origin.name origin.expirationDuration

def salt (origin : Origin) : Octets 12 :=
  make origin.creator origin.name origin.expirationDuration

theorem bytes_salt (origin : Origin) :
    origin.salt.bytes = (Keccak.digest origin.preimage).bytes.take 12 := by
  simp only [salt, make, preimage, Octets.ofPrefix]

/-- The creator is cut off in front and the duration at the end. What is left is the name. -/
theorem preimage_injective : Function.Injective preimage := by
  intro origin other same
  have atFront : origin.creator.bytes.length = other.creator.bytes.length := by
    rw [origin.creator.length_eq, other.creator.length_eq]
  have atEnd : (bigEndian 8 origin.expirationDuration.toNat).length =
      (bigEndian 8 other.expirationDuration.toNat).length := by
    rw [length_bigEndian, length_bigEndian]
  rcases List.append_inj' same atEnd with ⟨sameFront, sameDuration⟩
  rcases List.append_inj sameFront atFront with ⟨sameCreator, sameName⟩
  have creator : origin.creator = other.creator := Octets.eq_of_bytes_eq sameCreator
  have name : origin.name = other.name := Text.utf8_injective sameName
  have duration : origin.expirationDuration = other.expirationDuration :=
    bigEndian_toNat_injective sameDuration
  cases origin
  cases other
  cases creator
  cases name
  cases duration
  rfl

end Origin

/-- Two byte strings that differ, though a salt made of the hash of either is the same. -/
def Collide (left right : List UInt8) : Prop :=
  left ≠ right ∧ (Keccak.digest left).bytes.take 12 = (Keccak.digest right).bytes.take 12

theorem salt_eq_iff {origin other : Origin} :
    origin.salt = other.salt ↔ origin = other ∨ Collide origin.preimage other.preimage := by
  constructor
  · intro same
    by_cases equal : origin = other
    · exact .inl equal
    · refine .inr ⟨Origin.preimage_injective.ne equal, ?_⟩
      rw [← origin.bytes_salt, same, other.bytes_salt]
  · rintro (rfl | ⟨_, same⟩)
    · rfl
    · apply Octets.eq_of_bytes_eq
      rw [origin.bytes_salt, same, other.bytes_salt]

/-! ## Creations -/

/-- The call creates such a lock, in the version that has salts. -/
def Origin.Creates (origin : Origin) (call : ContractCall) : Prop :=
  ∃ unlock parameters,
    ContractVersion.v10.createLock unlock origin.creator parameters = .ok call ∧
      parameters.name = origin.name ∧ parameters.expirationDuration = origin.expirationDuration

/-- The salt in the data of a call that creates a lock. It is the sixth argument. -/
def saltIn? (data : List UInt8) : Option (Octets 12) :=
  (slot? (data.drop 4) (slotSize * 5)).bind readBytes12?

theorem saltIn?_of_creates {origin : Origin} {call : ContractCall}
    (creates : origin.Creates call) : saltIn? call.data = some origin.salt := by
  rcases creates with ⟨unlock, parameters, created, name, duration⟩
  rcases Order.built_ok created with ⟨_, price, _, _, equal⟩
  have salt : make origin.creator parameters.name parameters.expirationDuration = origin.salt := by
    rw [name, duration, Origin.salt]
  have placed : (Value.bytes12 origin.salt).placed =
      .inSlot (origin.salt.bytes ++ List.replicate 20 0) := rfl
  have found : slot? (call.data.drop 4) (slotSize * 5) =
      some (origin.salt.bytes ++ List.replicate 20 0) := by
    rw [equal, salt]
    exact Method.createNamedLock.slot?_call 5 rfl placed
  rw [saltIn?, found, Option.bind_some, readBytes12?_octets]

/-- A preimage tells the creator, the name and the duration, a salt is the beginning of its hash,
and that is what the call that creates a lock carries. So two calls carry the same salt just if
they agree in all three, or if the shortened hash collides on their preimages. -/
theorem salt_shared_iff (origin other : Origin) :
    (origin.preimage = other.preimage ↔ origin = other) ∧
      origin.salt.bytes = (Keccak.digest origin.preimage).bytes.take 12 ∧
      ∀ call otherCall, origin.Creates call → other.Creates otherCall →
        saltIn? call.data = some origin.salt ∧
          (saltIn? call.data = saltIn? otherCall.data ↔
            origin = other ∨ Collide origin.preimage other.preimage) := by
  refine ⟨Origin.preimage_injective.eq_iff, origin.bytes_salt, ?_⟩
  intro call otherCall creates otherCreates
  have salt := saltIn?_of_creates creates
  refine ⟨salt, ?_⟩
  rw [salt, saltIn?_of_creates otherCreates, Option.some.injEq]
  exact salt_eq_iff

/-- A lock for members, by the number of seconds that its keys are good for. -/
def membership (expirationDuration : UInt64) : CreateLockParameters :=
  { expirationDuration, keyPrice := "0.01", maxNumberOfKeys := none, currency := none,
    decimals := 18, name := "Members" }

def membershipCall (expirationDuration : UInt64) : ContractCall where
  sender := .zero
  receiver := .zero
  data := Method.createNamedLock.call
    [.uint (BitVec.ofNat 256 expirationDuration.toNat), .address .zero, .uint 10000000000000000,
     .uint (BitVec.allOnes 256), .string "Members",
     .bytes12 (make .zero "Members" expirationDuration)]
  gas := Gas.createLock
  value := 0
  kind := .lockCreation

/-- Memberships of a month and of a day have different preimages, and so different salts unless
the shortened hash collides on just these. -/
theorem membership_salts_apart :
    let month : Origin := ⟨.zero, "Members", 2592000⟩
    let day : Origin := ⟨.zero, "Members", 86400⟩
    month.Creates (membershipCall 2592000) ∧ day.Creates (membershipCall 86400) ∧
      month.preimage ≠ day.preimage ∧
      (saltIn? (membershipCall 2592000).data = saltIn? (membershipCall 86400).data →
        Collide month.preimage day.preimage) := by
  intro month day
  have different : month ≠ day := by decide
  have creates : month.Creates (membershipCall 2592000) :=
    ⟨.zero, membership 2592000, rfl, rfl, rfl⟩
  have otherCreates : day.Creates (membershipCall 86400) :=
    ⟨.zero, membership 86400, rfl, rfl, rfl⟩
  have apart := salt_shared_iff month day
  refine ⟨creates, otherCreates, mt apart.1.mp different, ?_⟩
  intro same
  exact ((apart.2.2 _ _ creates otherCreates).2.mp same).resolve_left different

end LockSalt

end LockGateway
