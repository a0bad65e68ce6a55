import LockGateway.Numeral
import LockGateway.Text.Blank
import LockGateway.Text.Utf8

/-! Currency amounts as decimal text and as whole base units. With `decimals`
places a unit of currency is `10 ^ decimals` base units; more places than the
currency has are cut off, not rounded. -/

namespace LockGateway.Amount

/-- Ether has eighteen places. -/
def etherDecimals : Nat := 18

/-- No 256-bit value holds a greater power of ten. -/
def greatestDecimals : Nat := 77

inductive Fault where
  | invalidUnit (decimals : Nat)
  | malformed (cause : Numeral.Fault)
  | tooLarge
  | negative
  /-- The cut would fall inside a character; the conversion stops its caller. -/
  | splitCharacter
  deriving DecidableEq, Repr

def Fault.message : Fault → String
  | .invalidUnit decimals => s!"\"{Numeral.text 10 decimals}\" is not a valid unit"
  | .malformed .tooLarge | .tooLarge => "number does not fit in the integer size"
  | .malformed cause => cause.message
  | .negative => "amount must not be negative"
  | .splitCharacter => "amount is cut inside a character"

/-! ## From text -/

/-- The characters before the first point and those after it, if there is one. -/
def splitAtPoint : List Char → List Char × Option (List Char)
  | [] => ([], none)
  | character :: rest =>
      if character = '.' then ([], some rest)
      else
        let (whole, fraction) := splitAtPoint rest
        (character :: whole, fraction)

/-- The digits of an amount without its point, and the power of ten by which
they are multiplied. The places of a fraction are counted in bytes. -/
def scaledDigits (characters : List Char) (decimals : Nat) : Except Fault (List Char × Nat) :=
  let (whole, fraction) := splitAtPoint characters
  let fraction := fraction.getD []
  let places := Text.byteLength fraction
  if places ≤ decimals then .ok (whole ++ fraction, decimals - places)
  else match Text.takeBytes decimals fraction with
    | some kept => .ok (whole ++ kept, 0)
    | none => .error .splitCharacter

/-- An amount with a minus sign is negative even if it is zero, unless it is too
large to be read. -/
def readNegative (digits : List Char) (power : Nat) : Fault :=
  if digits.isEmpty then .negative
  else match Numeral.read 10 digits with
    | .error cause => .malformed cause
    | .ok value =>
        if Nat.pow 2 255 < value.toNat ∨ Nat.pow 2 255 ≤ Nat.pow 10 power then .tooLarge
        else .negative

/-- The product with the power of ten is kept modulo `2 ^ 256`. -/
def parseUnits (characters : List Char) (decimals : Nat) : Except Fault Word := do
  if greatestDecimals < decimals then throw (.invalidUnit decimals)
  let (digits, power) ← scaledDigits characters decimals
  if characters.head? = some '-' then throw (readNegative digits.tail power)
  let value ← (Numeral.read 10 digits).mapError .malformed
  return value * BitVec.ofNat 256 (Nat.pow 10 power)

/-- Blanks around an amount do not matter. -/
def toBaseUnits (amount : String) (decimals : Nat) : Except Fault Word :=
  parseUnits (Text.trimCharacters amount.toList) decimals

example : parseUnits ['0', '.', '0', '1'] 4 = .ok 100 := by rfl
example : parseUnits ['1', '.', '9', '9'] 1 = .ok 19 := by rfl
example : parseUnits ['-', '.', '5'] 0 = .error .negative := by rfl
example : parseUnits ['.', '-', '5'] 1 = .error (.malformed (.invalidDigit '-')) := by rfl
example : parseUnits ['1', '.', 'é'] 1 = .error .splitCharacter := by rfl

/-! ## To text -/

/-- The digits of a number with zeros in front up to a width. -/
def paddedDigits (width value : Nat) : List Char :=
  let digits := Numeral.digits 10 value
  List.replicate (width - digits.length) '0' ++ digits

def withoutTrailingZeros (digits : List Char) : List Char :=
  (digits.reverse.dropWhile (· = '0')).reverse

/-- Zeros at the end of a fraction are not written, and a point only before a
fraction. -/
def unitsCharacters (value : Word) (decimals : Nat) : List Char :=
  let unit := Nat.pow 10 decimals
  let whole := Numeral.digits 10 (value.toNat / unit)
  let fraction := withoutTrailingZeros (paddedDigits decimals (value.toNat % unit))
  if fraction.isEmpty then whole else whole ++ '.' :: fraction

def ofBaseUnits (value : Word) (decimals : Nat) : Except Fault String :=
  if greatestDecimals < decimals then .error (.invalidUnit decimals)
  else .ok (String.ofList (unitsCharacters value decimals))

example : unitsCharacters 1500 3 = ['1', '.', '5'] := by decide
example : unitsCharacters 0 0 = ['0'] := by decide

end LockGateway.Amount
