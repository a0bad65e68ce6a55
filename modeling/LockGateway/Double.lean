import LockGateway.Numeral

/-! Finite double-precision numbers, kept as the exact number that they denote:
a sign, a significand below `2 ^ 53` and a power of two. Rounding is to the
nearest, ties to the even significand, in exact natural-number arithmetic. -/

namespace LockGateway

/-- The number `significand * 2 ^ exponent`, negated if `negative`. The
significand is at least `2 ^ 52` unless the exponent is the least one. -/
structure Double where
  negative : Bool
  significand : Nat
  exponent : Int
  deriving DecidableEq, Repr

namespace Double

def leastExponent : Int := -1074
def greatestExponent : Int := 971

def zero (negative : Bool) : Double := ⟨negative, 0, leastExponent⟩

/-! ## Rounding -/

/-- A positive quotient divided by a power of two, as a quotient again. -/
def scaleDown (numerator denominator : Nat) (exponent : Int) : Nat × Nat :=
  if 0 ≤ exponent then (numerator, denominator * Nat.pow 2 exponent.toNat)
  else (numerator * Nat.pow 2 (-exponent).toNat, denominator)

/-- The integer nearest to a quotient, of two equally near the even one. -/
def nearestEven (numerator denominator : Nat) : Nat :=
  let quotient := numerator / denominator
  let remainder := numerator % denominator
  if 2 * remainder < denominator ∨ (2 * remainder = denominator ∧ quotient % 2 = 0)
  then quotient else quotient + 1

/-- The power of two at which the significand of a quotient is counted. -/
def exponentOf (numerator denominator : Nat) : Int :=
  let estimate : Int := (Nat.log2 numerator : Int) - Nat.log2 denominator - 52
  let (scaled, unit) := scaleDown numerator denominator estimate
  max leastExponent (if scaled < unit * Nat.pow 2 52 then estimate - 1 else estimate)

/-- The double nearest to a quotient, if it is finite. -/
def ofQuotient (negative : Bool) (numerator denominator : Nat) : Option Double :=
  if numerator = 0 then some (zero negative)
  else
    let exponent := exponentOf numerator denominator
    let (scaled, unit) := scaleDown numerator denominator exponent
    let significand := nearestEven scaled unit
    let (significand, exponent) :=
      if significand = Nat.pow 2 53 then (Nat.pow 2 52, exponent + 1) else (significand, exponent)
    if greatestExponent < exponent then none
    else some ⟨negative, significand, exponent⟩

def ofNat? (value : Nat) : Option Double := ofQuotient false value 1

example : ofNat? (Nat.pow 2 53 + 1) = some ⟨false, Nat.pow 2 52, 1⟩ := by decide +kernel
example : ofQuotient true 1 2 = some ⟨true, Nat.pow 2 52, -53⟩ := by decide +kernel

/-- The magnitude as a quotient of natural numbers. -/
def quotient (double : Double) : Nat × Nat :=
  if 0 ≤ double.exponent then (double.significand * Nat.pow 2 double.exponent.toNat, 1)
  else (double.significand, Nat.pow 2 (-double.exponent).toNat)

def times (left right : Double) : Option Double :=
  let (leftNumerator, leftDenominator) := left.quotient
  let (rightNumerator, rightDenominator) := right.quotient
  ofQuotient (left.negative != right.negative)
    (leftNumerator * rightNumerator) (leftDenominator * rightDenominator)

/-- The divisor is not zero. -/
def dividedBy (left right : Double) : Option Double :=
  let (leftNumerator, leftDenominator) := left.quotient
  let (rightNumerator, rightDenominator) := right.quotient
  ofQuotient (left.negative != right.negative)
    (leftNumerator * rightDenominator) (leftDenominator * rightNumerator)

/-! ## Decimal literals

A literal is a significand of up to 64 bits and a power of ten. Significand and
power are rounded separately and then combined, so that the result can differ
from the nearest double by its last bits. Powers go up to `10 ^ 308`; a smaller
number is divided twice. -/

/-- The greatest power of ten that is finite. -/
def greatestPower : Nat := 308

def ofDecimal (negative : Bool) (significand : Nat) (power : Int) : Option Double := do
  let unscaled ← ofQuotient negative significand 1
  if significand = 0 then return unscaled
  else if power.natAbs ≤ greatestPower then
    let scale ← ofNat? (Nat.pow 10 power.natAbs)
    if 0 ≤ power then unscaled.times scale else unscaled.dividedBy scale
  else if 0 ≤ power then none
  else
    let reduced ← unscaled.dividedBy (← ofNat? (Nat.pow 10 greatestPower))
    let remaining := power + greatestPower
    if remaining.natAbs ≤ greatestPower then
      reduced.dividedBy (← ofNat? (Nat.pow 10 remaining.natAbs))
    else return zero negative

/-! ## Whole numbers -/

/-- The natural number that a double denotes, if it denotes one. Negative zero
denotes zero. -/
def toNat? (double : Double) : Option Nat :=
  let (numerator, denominator) := double.quotient
  if numerator % denominator = 0 ∧ (double.negative = false ∨ numerator = 0) then
    some (numerator / denominator)
  else none

example : toNat? ⟨false, 3 * Nat.pow 2 51, -51⟩ = some 3 := by decide +kernel
example : toNat? ⟨true, 0, leastExponent⟩ = some 0 := by decide +kernel

/-! ## The shortest decimal text

Of all decimals that round to the double, the text has one with the fewest
digits, and of these the nearest. -/

/-- A decimal with the digits of `digits`, the first of them in the place of
`10 ^ (point - 1)`. -/
structure Decimal where
  digits : List Char
  point : Int

/-- Where the decimal point of a positive quotient stands: it lies between
`10 ^ (point - 1)`, included, and `10 ^ point`. -/
def pointOf (numerator denominator : Nat) : Int :=
  let whole := numerator / denominator
  if whole ≠ 0 then (Numeral.digits 10 whole).length
  else
    let inverse := (denominator + numerator - 1) / numerator
    1 - ((Numeral.digits 10 (inverse - 1)).length : Int)

/-- Whether a quotient lies among the reals that round to the double. The ends
of their interval belong to it if the significand is even. The interval is
shorter towards zero where the exponent changes. -/
def roundsTo (double : Double) (numerator denominator : Nat) : Bool :=
  let narrow := double.significand = Nat.pow 2 52 ∧ leastExponent < double.exponent
  -- In units of a quarter of the significand's last place.
  let lower := 4 * double.significand - (if narrow then 1 else 2)
  let upper := 4 * double.significand + 2
  let (scaled, unit) := scaleDown (4 * numerator) denominator double.exponent
  if double.significand % 2 = 0 then lower * unit ≤ scaled ∧ scaled ≤ upper * unit
  else lower * unit < scaled ∧ scaled < upper * unit

/-- The decimal with `count` digits nearest to the double, if one with so many
digits rounds to it. -/
def decimalWith (double : Double) (count : Nat) : Option Decimal :=
  let (numerator, denominator) := double.quotient
  let point := pointOf numerator denominator
  let places := (count : Int) - point
  -- The double as a multiple of the last digit's place, and back.
  let (scaled, unit) :=
    if 0 ≤ places then (numerator * Nat.pow 10 places.toNat, denominator)
    else (numerator, denominator * Nat.pow 10 (-places).toNat)
  let restore := fun multiple : Nat =>
    if 0 ≤ places then (multiple, Nat.pow 10 places.toNat)
    else (multiple * Nat.pow 10 (-places).toNat, 1)
  let below := scaled / unit
  let near := nearestEven scaled unit
  let far := if near = below then below + 1 else below
  let accepted := [near, far].find? fun multiple =>
    let (candidate, place) := restore multiple
    multiple ≠ 0 && double.roundsTo candidate place
  accepted.map fun multiple =>
    let digits := Numeral.digits 10 multiple
    { digits := (digits.reverse.dropWhile (· = '0')).reverse
      point := point + ((digits.length : Int) - count) }

/-- Seventeen digits always suffice. -/
def shortest (double : Double) : Decimal :=
  ((List.range 17).findSome? fun fewer => double.decimalWith (fewer + 1)).getD
    { digits := ['0'], point := 1 }

/-! The text is positional from `10 ^ -5`, included, to `10 ^ 16`, with at least
one digit on each side of the point, and in powers of ten outside. -/

def leastPositional : Int := -5
def greatestPositional : Int := 16

def integerText (value : Int) : List Char :=
  if 0 ≤ value then Numeral.digits 10 value.toNat
  else '-' :: Numeral.digits 10 (-value).toNat

def Decimal.characters (decimal : Decimal) : List Char :=
  let count : Int := decimal.digits.length
  if 0 < decimal.point ∧ decimal.point ≤ greatestPositional then
    if count ≤ decimal.point then
      decimal.digits ++ List.replicate (decimal.point - count).toNat '0' ++ ['.', '0']
    else
      decimal.digits.take decimal.point.toNat ++ '.' ::
        decimal.digits.drop decimal.point.toNat
  else if leastPositional < decimal.point ∧ decimal.point ≤ 0 then
    '0' :: '.' :: List.replicate (-decimal.point).toNat '0' ++ decimal.digits
  else
    let power := 'e' :: integerText (decimal.point - 1)
    match decimal.digits with
    | [] => power
    | [single] => single :: power
    | first :: others => first :: '.' :: others ++ power

def characters (double : Double) : List Char :=
  let magnitude :=
    if double.significand = 0 then ['0', '.', '0'] else double.shortest.characters
  if double.negative then '-' :: magnitude else magnitude

def text (double : Double) : String := String.ofList double.characters

end Double

end LockGateway
