/-! Numbers written in a radix: the digits of a natural number and the reading
of a 256-bit value. Reading takes letters of either case as the digits ten to
thirty-five, skips underscores, and stops at the first fault. -/

namespace LockGateway

/-- An unsigned 256-bit value. -/
abbrev Word := BitVec 256

namespace Numeral

def digitCharacter (digit : Nat) : Char :=
  Char.ofNat (if digit < 10 then 48 + digit else 87 + digit)

def digitValue? (character : Char) : Option Nat :=
  let code := character.toNat
  if 48 ≤ code ∧ code ≤ 57 then some (code - 48)
  else if 97 ≤ code ∧ code ≤ 122 then some (code - 87)
  else if 65 ≤ code ∧ code ≤ 90 then some (code - 55)
  else none

example : digitCharacter 13 = 'd' ∧ digitValue? 'D' = some 13 := by decide

/-- The last `count` digits or fewer, without leading zeros. -/
private def digitsWithin (radix : Nat) : (count : Nat) → Nat → List Char
  | 0, _ => []
  | count + 1, value =>
      if value < radix then [digitCharacter value]
      else digitsWithin radix count (value / radix) ++
        [digitCharacter (value % radix)]

/-- The digits of `value` without leading zeros; zero is one digit. -/
def digits (radix value : Nat) : List Char :=
  digitsWithin radix (value + 1) value

def text (radix value : Nat) : String :=
  String.ofList (digits radix value)

/-- The count only has to be large enough. -/
private theorem digitsWithin_eq {radix count other value : Nat} (large : 1 < radix)
    (enough : value < count) (otherEnough : value < other) :
    digitsWithin radix count value = digitsWithin radix other value := by
  induction count generalizing other value with
  | zero => omega
  | succ count induction =>
      cases other with
      | zero => omega
      | succ other =>
          rw [digitsWithin, digitsWithin]
          split
          · rfl
          · have smaller : value / radix < value := Nat.div_lt_self (by omega) large
            have equal : digitsWithin radix count (value / radix) =
                digitsWithin radix other (value / radix) := induction (by omega) (by omega)
            rw [equal]

theorem digits_of_lt {radix value : Nat} (small : value < radix) :
    digits radix value = [digitCharacter value] := by
  simp [digits, digitsWithin, small]

theorem digits_of_le {radix value : Nat} (large : 1 < radix) (more : radix ≤ value) :
    digits radix value = digits radix (value / radix) ++ [digitCharacter (value % radix)] := by
  have smaller : value / radix < value := Nat.div_lt_self (by omega) large
  rw [digits, digitsWithin, if_neg (Nat.not_lt.mpr more), digits,
    digitsWithin_eq large smaller (Nat.lt_succ_self _)]

example : digits 10 1984 = ['1', '9', '8', '4'] := by decide
example : digits 16 0 = ['0'] := by decide

inductive Fault where
  | invalidDigit (character : Char)
  | outOfRange (digit radix : Nat)
  | tooLarge
  deriving DecidableEq, Repr

def Fault.message : Fault → String
  | .invalidDigit character => s!"invalid digit: {character}"
  | .outOfRange digit radix =>
      s!"digit {text 10 digit} is out of range for base {text 10 radix}"
  | .tooLarge => "the value is too large to fit the target type"

/-- Reads on from the value of the digits seen so far. -/
def readFrom (radix : Nat) : (value : Nat) → List Char → Except Fault Word
  | value, [] => .ok (BitVec.ofNat 256 value)
  | value, character :: rest =>
      if character = '_' then readFrom radix value rest
      else match digitValue? character with
        | none => .error (.invalidDigit character)
        | some digit =>
            if radix ≤ digit then .error (.outOfRange digit radix)
            else if Nat.pow 2 256 ≤ value * radix + digit then .error .tooLarge
            else readFrom radix (value * radix + digit) rest

/-- No digits at all are zero. -/
def read (radix : Nat) (characters : List Char) : Except Fault Word :=
  readFrom radix 0 characters

example : read 16 ['0', '1', '_', 'f', 'F'] = .ok 511 := by rfl
example : read 10 ['7', 'a', '!'] = .error (.outOfRange 10 10) := by rfl

end Numeral

/-! Decimal text of a fixed-width unsigned integer: ASCII digits after at most
one plus sign, and nothing else. -/

private def decimalFrom (limit : Nat) : (value : Nat) → List Char → Option Nat
  | value, [] => some value
  | value, character :: rest =>
      if character.isDigit then
        let extended := value * 10 + (character.toNat - 48)
        if extended < limit then decimalFrom limit extended rest else none
      else none

/-- The value of a decimal text if it is below `limit`. -/
def readDecimalBelow (limit : Nat) (characters : List Char) : Option Nat :=
  let unsigned := match characters with
    | '+' :: rest => rest
    | other => other
  if unsigned.isEmpty then none else decimalFrom limit 0 unsigned

/-- The value of a decimal text if it fits 64 bits. -/
def readUInt64 (text : String) : Option UInt64 :=
  (readDecimalBelow UInt64.size text.toList).map UInt64.ofNat

example : readDecimalBelow 256 ['+', '2', '5', '5'] = some 255 := by decide
example : readDecimalBelow 256 ['2', '5', '6'] = none := by decide

end LockGateway
