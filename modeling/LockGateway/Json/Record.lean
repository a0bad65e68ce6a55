import LockGateway.Json.Value
import LockGateway.Octets
import LockGateway.Text.Quoted

/-! Typed reading of JSON values. A record stands in an object, where unknown
keys are passed over, or in a list of its fields in their declared order. -/

namespace LockGateway.Json

/-! ## Faults -/

inductive Fault where
  | missing (field : String)
  | mismatch (found : Json) (expected : String)
  | outOfRange (found : Json) (expected : String)
  | tooFew (length : Nat) (record : String) (fields : Nat)
  | tooMany (length : Nat)
  | unknownVariant (found : String) (known : List String)
  | notOneKey
  | malformed (cause : Hex.Fault)
  | byteCount (length : Nat) (expected : Nat)
  deriving Repr

/-- Names and values stand between backticks. -/
def ticked (value : String) : String := "`" ++ value ++ "`"

/-- A value by its kind, and by its text if it is a single one. -/
def describe : Json → String
  | .null => "null"
  | .boolean value => "boolean " ++ ticked (if value then "true" else "false")
  | .integer number => "integer " ++ ticked (String.ofList (Double.integerText number.value))
  | .float number => "floating point " ++ ticked number.text
  | .string value => "string " ++ Text.Quoted.string value
  | .list _ => "sequence"
  | .object _ => "map"

/-- Two alternatives are joined by a word, more of them are listed. -/
def alternatives (known : List String) : String :=
  match known with
  | [first, second] => ticked first ++ " or " ++ ticked second
  | others => "one of " ++ ", ".intercalate (others.map ticked)

def Fault.message : Fault → String
  | .missing field => "missing field " ++ ticked field
  | .mismatch found expected => s!"invalid type: {found.describe}, expected {expected}"
  | .outOfRange found expected => s!"invalid value: {found.describe}, expected {expected}"
  | .tooFew length record fields =>
      let count := Numeral.text 10 fields
      s!"invalid length {Numeral.text 10 length}, expected struct {record} with {count} elements"
  | .tooMany length =>
      s!"invalid length {Numeral.text 10 length}, expected fewer elements in array"
  | .unknownVariant found known =>
      s!"unknown variant {ticked found}, expected {alternatives known}"
  | .notOneKey => "invalid value: map, expected map with a single key"
  | .malformed cause => cause.message
  | .byteCount length expected =>
      let count := Numeral.text 10 expected
      s!"invalid length {Numeral.text 10 length}, expected exactly {count} bytes"

/-! ## Single values -/

/-- An integer in a range is read, one outside is out of range, and any other
value is a mismatch. -/
def readInteger (least bound : Int) (expected : String) : Json → Except Fault Int
  | .integer number =>
      if least ≤ number.value ∧ number.value < bound then .ok number.value
      else .error (.outOfRange (.integer number) expected)
  | other => .error (.mismatch other expected)

def readUInt64 (value : Json) : Except Fault UInt64 := do
  return UInt64.ofNat (← readInteger 0 18446744073709551616 "u64" value).toNat

def readInt64 (value : Json) : Except Fault Int64 := do
  return Int64.ofInt (← readInteger (-9223372036854775808) 9223372036854775808 "i64" value)

def readByte (value : Json) : Except Fault UInt8 := do
  return UInt8.ofNat (← readInteger 0 256 "u8" value).toNat

def readBoolean : Json → Except Fault Bool
  | .boolean value => .ok value
  | other => .error (.mismatch other "a boolean")

def readText : Json → Except Fault String
  | .string value => .ok value
  | other => .error (.mismatch other "a string")

def readList : Json → Except Fault (List Json)
  | .list elements => .ok elements
  | other => .error (.mismatch other "a sequence")

def readAny (value : Json) : Except Fault Json := .ok value

/-- Null is absence. -/
def readOptional (read : Json → Except Fault α) : Json → Except Fault (Option α)
  | .null => .ok none
  | other => (read other).map some

/-- Bytes are a hexadecimal text or a list of bytes. -/
def readBytes : Json → Except Fault (List UInt8)
  | .string value => (Hex.decode value.toList).mapError .malformed
  | .list elements => elements.mapM readByte
  | other => .error (.mismatch other "a valid hex string")

/-- A list may have one element more than the bytes that are asked for, if that
is no byte. -/
def readOctets (size : Nat) : Json → Except Fault (Octets size)
  | .string value => (Octets.ofText size value).mapError .malformed
  | .list elements => do
      let bytes ← (elements.take size).mapM readByte
      match Octets.ofBytes? size bytes, elements.drop size with
      | none, _ => throw (.byteCount bytes.length size)
      | some octets, [] => return octets
      | some octets, surplus :: rest =>
          match readByte surplus with
          | .ok _ => throw (.byteCount (size + 1) size)
          | .error _ =>
              if rest.isEmpty then return octets else throw (.tooMany elements.length)
  | other => .error (.mismatch other "bytes as a hex string or a list")

/-- One of a list of names, alone or as the only key of an object with nothing
under it. -/
def readVariant (known : List (String × α)) (value : Json) : Except Fault α :=
  let named (name : String) : Except Fault α :=
    match known.lookup name with
    | some variant => .ok variant
    | none => .error (.unknownVariant name (known.map (·.1)))
  match value with
  | .string name => named name
  | .object [(name, content)] => do
      let variant ← named name
      if content.isNull then return variant
      else throw (.mismatch content "unit")
  | .object _ => .error .notOneKey
  | other => .error (.mismatch other "string or map")

/-! ## Records -/

/-- A field of a record. `absent` is its value in an object without it; a list
may end before a field that `mayEnd`. -/
structure Field (α : Type) where
  name : String
  read : Json → Except Fault α
  absent : Option α
  mayEnd : Bool

namespace Field

def required (name : String) (read : Json → Except Fault α) : Field α :=
  { name, read, absent := none, mayEnd := false }

def optional (name : String) (read : Json → Except Fault α) : Field (Option α) :=
  { name, read := readOptional read, absent := some none, mayEnd := false }

/-- An optional field that a list may leave out. -/
def omissible (name : String) (read : Json → Except Fault α) : Field (Option α) :=
  { optional name read with mayEnd := true }

end Field

/-- A field without the type of its value. -/
structure FieldShape where
  name : String
  accepts : Json → Except Fault Unit
  mayEnd : Bool

def Field.shape (field : Field α) : FieldShape :=
  { name := field.name
    accepts := fun value => (field.read value).map fun _ => ()
    mayEnd := field.mayEnd }

/-- The first member, in the order of keys, that its field does not accept is
the one that is reported. -/
def checkMembers (shapes : List FieldShape) : List (String × Json) → Except Fault Unit
  | [] => .ok ()
  | (key, value) :: rest => do
      match shapes.find? (·.name = key) with
      | some shape => shape.accepts value
      | none => pure ()
      checkMembers shapes rest

/-- Gives the elements of a list the names of the fields; `position` is the
number of elements before these. -/
def nameElements (record : String) (fields : Nat) :
    (position : Nat) → List FieldShape → List Json → Except Fault (List (String × Json))
  | _, [], [] => .ok []
  | position, [], rest => .error (.tooMany (position + rest.length))
  | position, shape :: shapes, [] =>
      if shape.mayEnd then nameElements record fields position shapes []
      else .error (.tooFew position record fields)
  | position, shape :: shapes, value :: rest => do
      shape.accepts value
      return (shape.name, value) :: (← nameElements record fields (position + 1) shapes rest)

/-- The members of a record under the names of its fields. -/
def openRecord (record : String) (shapes : List FieldShape) :
    Json → Except Fault (List (String × Json))
  | .object members => do
      checkMembers shapes members
      return members
  | .list elements => nameElements record shapes.length 0 shapes elements
  | other => .error (.mismatch other ("struct " ++ record))

def Field.fetch (field : Field α) (members : List (String × Json)) : Except Fault α :=
  match lookup field.name members, field.absent with
  | some value, _ => field.read value
  | none, some value => .ok value
  | none, none => .error (.missing field.name)

end LockGateway.Json
