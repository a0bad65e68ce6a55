import LockGateway.Double

/-! JSON values. Integers and floating-point numbers are different kinds: an
integer is one that fits a signed or an unsigned 64-bit word, which is from
`-2 ^ 63`, included, to `2 ^ 64`. The members of an object stand in the order of
their keys, each key once. -/

namespace LockGateway

structure Json.Integer where
  value : Int
  atLeast : -9223372036854775808 ≤ value
  below : value < 18446744073709551616
  deriving DecidableEq, Repr

inductive Json where
  | null
  | boolean (value : Bool)
  | integer (value : Json.Integer)
  | float (value : Double)
  | string (value : String)
  | list (elements : List Json)
  | object (members : List (String × Json))
  deriving Repr

namespace Json

instance : Inhabited Json := ⟨null⟩

def ofUInt64 (value : UInt64) : Json :=
  .integer
    { value := value.toNat
      atLeast := by omega
      below := by have := value.toNat_lt; omega }

def ofInt64 (value : Int64) : Json :=
  .integer
    { value := value.toInt
      atLeast := by have := value.le_toInt; omega
      below := by have := value.toInt_lt; omega }

def ofOption : Option Json → Json
  | some value => value
  | none => .null

/-! ## Looking inside -/

def string? : Json → Option String
  | .string value => some value
  | _ => none

def list? : Json → Option (List Json)
  | .list elements => some elements
  | _ => none

/-- An integer that fits an unsigned 64-bit word. -/
def uint64? : Json → Option UInt64
  | .integer number =>
      if 0 ≤ number.value then some (UInt64.ofNat number.value.toNat) else none
  | _ => none

def isNull : Json → Bool
  | .null => true
  | _ => false

def lookup (key : String) : List (String × Json) → Option Json
  | [] => none
  | (name, value) :: rest => if name = key then some value else lookup key rest

/-- The value under a key of an object; nothing for any other kind. -/
def member? (key : String) : Json → Option Json
  | .object members => lookup key members
  | _ => none

/-! ## Building objects -/

/-- Puts a value under a key, in its place among the others or over the one that
the key had. -/
def insert (key : String) (value : Json) : List (String × Json) → List (String × Json)
  | [] => [(key, value)]
  | (name, old) :: rest =>
      if key = name then (key, value) :: rest
      else if key < name then (key, value) :: (name, old) :: rest
      else (name, old) :: insert key value rest

/-- The members in the order of their keys; of equal keys the last one counts. -/
def sortMembers (members : List (String × Json)) : List (String × Json) :=
  members.foldl (fun sorted (key, value) => insert key value sorted) []

def ofMembers (members : List (String × Json)) : Json :=
  .object (sortMembers members)

theorem lookup_insert (key other : String) (value : Json) (members : List (String × Json)) :
    lookup key (insert other value members) =
      if other = key then some value else lookup key members := by
  induction members with
  | nil => simp [insert, lookup]
  | cons first rest induction =>
      obtain ⟨name, old⟩ := first
      by_cases equal : other = name
      · subst equal
        simp only [insert, if_pos, lookup]
        split <;> rfl
      · by_cases before : other < name
        · simp [insert, equal, before, lookup]
        · simp only [insert, equal, before, if_false, lookup, induction]
          by_cases found : name = key
          · subst found
            simp [equal]
          · simp [found]

end Json

end LockGateway
