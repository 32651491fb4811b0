/-!
# Numbers with 53 binary digits

Numbers with a fraction are kept with 53 binary digits, rounded to the nearest such number, and to
the one with an even last digit if two are equally near. They are written with the fewest decimal
digits that are nearer to them than to any other such number. All arithmetic is exact.
-/

namespace BytePattern

/-- A number that is not negative, kept with at most 53 binary digits: its value is
`significand * 2 ^ exponent`. -/
structure Binary64 where
  significand : Nat
  exponent : Int
deriving DecidableEq, Repr

namespace Binary64

def leastExponent : Int := -1074

/-- The exponent of the largest numbers with all 53 digits. -/
def greatestExponent : Int := 971

def zero : Binary64 := ⟨0, leastExponent⟩

def isZero (value : Binary64) : Bool :=
  value.significand == 0

/-- Whether the number is small enough to be kept. -/
def isFinite (value : Binary64) : Bool :=
  decide (value.exponent ≤ greatestExponent)

/-- A quotient rounded to the nearest whole number, to the even one of two. -/
def roundQuotient (dividend divisor : Nat) : Nat :=
  let quotient := dividend / divisor
  let twice := 2 * (dividend % divisor)
  if twice < divisor then quotient
  else if divisor < twice then quotient + 1
  else quotient + quotient % 2

/-- The fraction `dividend / (divisor * 2 ^ exponent)`. -/
def dividePower (dividend divisor : Nat) (exponent : Int) : Nat × Nat :=
  if 0 ≤ exponent then (dividend, divisor * Nat.pow 2 exponent.toNat)
  else (dividend * Nat.pow 2 (-exponent).toNat, divisor)

/-- The number nearest to a fraction; the number may be too large to be kept. -/
def ofFraction (dividend divisor : Nat) : Binary64 :=
  if dividend = 0 then zero
  else
    let low : Int := max ((dividend.log2 : Int) - divisor.log2 - 53) leastExponent
    let (lowDividend, lowDivisor) := dividePower dividend divisor low
    let exponent := if lowDividend / lowDivisor < Nat.pow 2 53 then low else low + 1
    let (dividend, divisor) := dividePower dividend divisor exponent
    let significand := roundQuotient dividend divisor
    if significand = Nat.pow 2 53 then ⟨Nat.pow 2 52, exponent + 1⟩ else ⟨significand, exponent⟩

def fraction (value : Binary64) : Nat × Nat :=
  if 0 ≤ value.exponent then (value.significand * Nat.pow 2 value.exponent.toNat, 1)
  else (value.significand, Nat.pow 2 (-value.exponent).toNat)

def mul (first second : Binary64) : Binary64 :=
  let (dividend, divisor) := first.fraction
  let (factor, denominator) := second.fraction
  ofFraction (dividend * factor) (divisor * denominator)

def div (first second : Binary64) : Binary64 :=
  let (dividend, divisor) := first.fraction
  let (factor, denominator) := second.fraction
  ofFraction (dividend * denominator) (divisor * factor)

def powerOfTen (exponent : Nat) : Binary64 :=
  ofFraction (Nat.pow 10 exponent) 1

/-- The largest exponent of a power of ten that is small enough to be kept. -/
def greatestPower : Nat := 308

/-- Divides by a power of ten, rounding once for every step of the largest power. -/
def divPowerOfTen (value : Binary64) (exponent : Nat) : Binary64 :=
  if exponent ≤ greatestPower then value.div (powerOfTen exponent)
  else if value.isZero then value
  else divPowerOfTen (value.div (powerOfTen greatestPower)) (exponent - greatestPower)
termination_by exponent
decreasing_by
  have : 0 < greatestPower := by decide
  omega

/-- A whole number with a decimal exponent: it is rounded first, then multiplied or divided by the
rounded power of ten. There is no result if it is too large. -/
def ofDecimal? (digits : Nat) (exponent : Int) : Option Binary64 :=
  let value := ofFraction digits 1
  if exponent < 0 then some (value.divPowerOfTen (-exponent).toNat)
  else if value.isZero then some value
  else if greatestPower < exponent.toNat then none
  else
    let scaled := value.mul (powerOfTen exponent.toNat)
    if scaled.isFinite then some scaled else none

/-- Decimal digits and the power of ten by which they are multiplied. -/
structure Decimal where
  digits : Nat
  exponent : Int

/-- Four times a number and the ends of the interval of what is nearest to it, all in units of
`2 ^ (exponent - 2)`. -/
def interval (value : Binary64) : Nat × Nat × Nat :=
  let middle := 4 * value.significand
  let below := if value.significand = Nat.pow 2 52 ∧ leastExponent < value.exponent then 1 else 2
  (middle - below, middle, middle + 2)

/-- A multiple of a power of ten that is nearest to the number, if it is nearer to it than to any
other number. -/
def onGrid? (value : Binary64) (power : Int) : Option Decimal :=
  let (low, middle, high) := value.interval
  let unit := value.exponent - 2
  let above := Nat.pow 2 unit.toNat * Nat.pow 10 (-power).toNat
  let below := Nat.pow 2 (-unit).toNat * Nat.pow 10 power.toNat
  let inside (candidate : Nat) : Bool :=
    if value.significand % 2 = 0 then
      low * above ≤ candidate * below && candidate * below ≤ high * above
    else low * above < candidate * below && candidate * below < high * above
  let nearest := roundQuotient (middle * above) below
  let floor := middle * above / below
  if inside nearest then some ⟨nearest, power⟩
  else if inside floor then some ⟨floor, power⟩
  else if inside (floor + 1) then some ⟨floor + 1, power⟩
  else none

/-- The powers of ten that grids are tried for, the coarsest first. -/
def gridPowers : List Int :=
  (List.range 660).map fun (index : Nat) => 310 - (index : Int)

/-- The fewest digits that are nearest to a number other than zero. -/
def shortest (value : Binary64) : Decimal :=
  (gridPowers.findSome? value.onGrid?).getD ⟨0, 0⟩

end Binary64

end BytePattern
