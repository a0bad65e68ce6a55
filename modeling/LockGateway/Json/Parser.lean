import LockGateway.Json.Value

/-! Reading JSON text. A reader takes the characters before it and returns what
it read with the characters after it. Values nest at most 127 levels deep, and a
number too large for a double is no number. -/

namespace LockGateway.Json

abbrev Reader (α : Type) := List Char → Option (α × List Char)

def skipBlanks (input : List Char) : List Char :=
  input.dropWhile fun character =>
    character = ' ' || character = '\t' || character = '\n' || character = '\r'

/-! ## Strings -/

def hexadecimal? (character : Char) : Option Nat :=
  (Numeral.digitValue? character).filter (· < 16)

/-- The value of four hexadecimal digits. -/
def codeUnit? (first second third fourth : Char) : Option Nat := do
  let first ← hexadecimal? first
  let second ← hexadecimal? second
  let third ← hexadecimal? third
  let fourth ← hexadecimal? fourth
  return ((first * 16 + second) * 16 + third) * 16 + fourth

def simpleEscape? : Char → Option Char
  | '"' => some '"'
  | '\\' => some '\\'
  | '/' => some '/'
  | 'b' => some '\x08'
  | 'f' => some '\x0c'
  | 'n' => some '\n'
  | 'r' => some '\r'
  | 't' => some '\t'
  | _ => none

/-- What one code unit adds after the first half of a surrogate pair, if there
is one pending: a character, or the new first half. -/
def joinUnit (pending : Option Nat) (unit : Nat) : Option (Option Char × Option Nat) :=
  match pending with
  | some high =>
      if 0xdc00 ≤ unit ∧ unit ≤ 0xdfff then
        some (some (Char.ofNat (0x10000 + (high - 0xd800) * 0x400 + (unit - 0xdc00))), none)
      else none
  | none =>
      if 0xd800 ≤ unit ∧ unit ≤ 0xdbff then some (none, some unit)
      else if 0xdc00 ≤ unit ∧ unit ≤ 0xdfff then none
      else some (some (Char.ofNat unit), none)

/-- Reads to the closing quotation mark. -/
def readCharacters : (pending : Option Nat) → Reader (List Char)
  | none, '"' :: rest => some ([], rest)
  | pending, '\\' :: 'u' :: first :: second :: third :: fourth :: rest => do
      let unit ← codeUnit? first second third fourth
      let (character, pending) ← joinUnit pending unit
      let (characters, rest) ← readCharacters pending rest
      return (character.toList ++ characters, rest)
  | none, '\\' :: escaped :: rest => do
      let character ← simpleEscape? escaped
      let (characters, rest) ← readCharacters none rest
      return (character :: characters, rest)
  | none, character :: rest =>
      if character = '\\' ∨ character.toNat < 0x20 then none
      else (readCharacters none rest).map fun (characters, rest) =>
        (character :: characters, rest)
  | _, _ => none

def readString : Reader String := fun input =>
  (readCharacters none input).map fun (characters, rest) => (String.ofList characters, rest)

/-! ## Numbers -/

def spanDigits (input : List Char) : List Char × List Char :=
  (input.takeWhile Char.isDigit, input.dropWhile Char.isDigit)

def digitsValue (digits : List Char) : Nat :=
  digits.foldl (fun value digit => value * 10 + (digit.toNat - 48)) 0

/-- A number as it is written. A missing part is empty. -/
structure Literal where
  negative : Bool
  whole : List Char
  fraction : List Char
  power : Int
  isInteger : Bool

def readSign : List Char → Bool × List Char
  | '-' :: rest => (true, rest)
  | input => (false, input)

/-- A point must be followed by a digit. -/
def readFraction : Reader (Option (List Char))
  | '.' :: rest =>
      match spanDigits rest with
      | ([], _) => none
      | (digits, rest) => some (some digits, rest)
  | input => some (none, input)

def readPowerDigits (negative : Bool) (input : List Char) : Option (Option Int × List Char) :=
  match spanDigits input with
  | ([], _) => none
  | (digits, rest) =>
      let magnitude : Int := digitsValue digits
      some (some (if negative then -magnitude else magnitude), rest)

def readPower : Reader (Option Int)
  | letter :: rest =>
      if letter = 'e' ∨ letter = 'E' then
        match rest with
        | '+' :: rest => readPowerDigits false rest
        | '-' :: rest => readPowerDigits true rest
        | rest => readPowerDigits false rest
      else some (none, letter :: rest)
  | [] => some (none, [])

def readLiteral : Reader Literal := fun input => do
  let (negative, input) := readSign input
  let (whole, input) := spanDigits input
  if whole.isEmpty ∨ (whole.head? = some '0' ∧ 1 < whole.length) then none
  let (fraction, input) ← readFraction input
  let (power, input) ← readPower input
  let literal :=
    { negative, whole, fraction := fraction.getD [], power := power.getD 0
      isInteger := fraction.isNone && power.isNone : Literal }
  return (literal, input)

/-! The digits of a floating-point literal are gathered into 64 bits. Whole
digits that do not fit only raise the power of ten; fraction digits end with the
first that does not fit. -/

def gatherWhole : (significand : Nat) → List Char → Nat × Int
  | significand, [] => (significand, 0)
  | significand, digit :: rest =>
      let extended := significand * 10 + (digit.toNat - 48)
      if extended < UInt64.size then gatherWhole extended rest
      else (significand, (rest.length : Int) + 1)

def gatherFraction : (significand : Nat) → (power : Int) → List Char → Nat × Int
  | significand, power, [] => (significand, power)
  | significand, power, digit :: rest =>
      let extended := significand * 10 + (digit.toNat - 48)
      if extended < UInt64.size then gatherFraction extended (power - 1) rest
      else (significand, power)

def Literal.double? (literal : Literal) : Option Double :=
  let (significand, power) := gatherWhole 0 literal.whole
  let (significand, power) := gatherFraction significand power literal.fraction
  Double.ofDecimal literal.negative significand (power + literal.power)

/-- Minus zero is no integer. -/
def Literal.integer? (literal : Literal) : Option Integer :=
  let magnitude : Int := digitsValue literal.whole
  let value := if literal.negative then -magnitude else magnitude
  if literal.isInteger ∧ ¬(literal.negative ∧ magnitude = 0) then
    if bounds : -9223372036854775808 ≤ value ∧ value < 18446744073709551616 then
      some ⟨value, bounds.1, bounds.2⟩
    else none
  else none

def Literal.value? (literal : Literal) : Option Json :=
  match literal.integer? with
  | some number => some (.integer number)
  | none => literal.double?.map .float

def readNumber : Reader Json := fun input => do
  let (literal, rest) ← readLiteral input
  return (← literal.value?, rest)

/-! ## Values -/

def readScalar : Reader Json
  | 'n' :: 'u' :: 'l' :: 'l' :: rest => some (.null, rest)
  | 't' :: 'r' :: 'u' :: 'e' :: rest => some (.boolean true, rest)
  | 'f' :: 'a' :: 'l' :: 's' :: 'e' :: rest => some (.boolean false, rest)
  | '"' :: rest => (readString rest).map fun (value, rest) => (.string value, rest)
  | input => readNumber input

/-- Items with commas between them up to the closing character. Every item takes
at least one character, so `count` items are enough if that many characters are
left. -/
def readItems (item : Reader α) (close : Char) : (count : Nat) → Reader (List α)
  | 0, _ => none
  | count + 1, input => do
      let (first, rest) ← item input
      match skipBlanks rest with
      | [] => none
      | next :: rest =>
          if next = close then return ([first], rest)
          else if next = ',' then
            let (others, rest) ← readItems item close count rest
            return (first :: others, rest)
          else none

/-- Items between brackets of which the opening one has been read. -/
def readEnclosed (item : Reader α) (close : Char) : Reader (List α) := fun input =>
  match skipBlanks input with
  | [] => none
  | next :: rest =>
      if next = close then some ([], rest)
      else readItems item close (rest.length + 1) (next :: rest)

def readMember (readValue : Reader Json) : Reader (String × Json) := fun input =>
  match skipBlanks input with
  | '"' :: rest => do
      let (key, rest) ← readString rest
      match skipBlanks rest with
      | ':' :: rest =>
          let (value, rest) ← readValue rest
          return ((key, value), rest)
      | _ => none
  | _ => none

/-- Reads a value with at most `depth` levels of lists and objects. -/
def readValue : (depth : Nat) → Reader Json
  | 0, input => readScalar (skipBlanks input)
  | depth + 1, input =>
      match skipBlanks input with
      | '[' :: rest =>
          (readEnclosed (readValue depth) ']' rest).map fun (elements, rest) =>
            (.list elements, rest)
      | '\x7b' :: rest =>
          (readEnclosed (readMember (readValue depth)) '\x7d' rest).map
            fun (members, rest) => (ofMembers members, rest)
      | other => readScalar other

def greatestDepth : Nat := 127

def parseCharacters (input : List Char) : Option Json := do
  let (value, rest) ← readValue greatestDepth input
  if (skipBlanks rest).isEmpty then return value else none

def parse (text : String) : Option Json := parseCharacters text.toList

end LockGateway.Json
