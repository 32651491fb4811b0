import BytePattern.Json.Lexeme
import BytePattern.Text.Binary64

/-!
# JSON numbers

What a number in a JSON text stands for. Whole numbers that fit into 64 bits are kept exactly, all
others with 53 binary digits. Digits that no longer fit into 64 bits only count for the size of a
number, not for its value.
-/

namespace BytePattern.Json

inductive Number where
  | natural (value : UInt64)
  /-- A number below zero, by its distance from zero. -/
  | negative (distance : Nat)
  | real (isNegative : Bool) (value : Binary64)
deriving DecidableEq, Repr

/-- A number below 2^64 and the power of ten by which it is multiplied. -/
structure Scaled where
  digits : Nat
  exponent : Int

namespace Scaled

/-- Takes the digits before the point: a digit that does not fit, and every digit behind it,
only counts as a power of ten. -/
def whole (digits : Nat) : List Nat → Scaled
  | [] => ⟨digits, 0⟩
  | digit :: rest =>
    if digits * 10 + digit < UInt64.size then whole (digits * 10 + digit) rest
    else ⟨digits, rest.length + 1⟩

/-- Takes the digits behind the point up to the first that does not fit. -/
def fraction (scaled : Scaled) : List Nat → Scaled
  | [] => scaled
  | digit :: rest =>
    if scaled.digits * 10 + digit < UInt64.size then
      fraction ⟨scaled.digits * 10 + digit, scaled.exponent - 1⟩ rest
    else scaled

end Scaled

namespace Numeral

def ofDigits (digits : List Nat) : Nat :=
  digits.foldl (fun value digit => value * 10 + digit) 0

/-- Exponents from here on are too large for any number but zero. -/
def exponentLimit : Nat := 0x80000000

/-- The value of a number as one with 53 binary digits; there is none if it is too large. -/
def real? (numeral : Numeral) : Option Binary64 :=
  let scaled := (Scaled.whole 0 numeral.whole).fraction (numeral.fraction.getD [])
  match numeral.exponent with
  | none => Binary64.ofDecimal? scaled.digits scaled.exponent
  | some exponent =>
    let size := ofDigits exponent.digits
    let isNegative := decide (exponent.sign = some .minus)
    if size < exponentLimit then
      Binary64.ofDecimal? scaled.digits
        (if isNegative then scaled.exponent - size else scaled.exponent + size)
    else if scaled.digits ≠ 0 ∧ !isNegative then none
    else some .zero

/-- The value of a number; there is none if it is too large. A whole number that does not fit into
64 bits, and zero with a minus sign, count as numbers with a fraction. -/
def value? (numeral : Numeral) : Option Number :=
  let real := numeral.real?.map (Number.real numeral.negative)
  if numeral.fraction.isSome || numeral.exponent.isSome then real
  else
    let size := ofDigits numeral.whole
    if numeral.negative then
      if 0 < size ∧ size ≤ 0x8000000000000000 then some (.negative size) else real
    else if size < UInt64.size then some (.natural (UInt64.ofNat size))
    else real

end Numeral

/-- The digits of an exponent, at least two. -/
def exponentText (size : Nat) : String :=
  if size < 10 then "0" ++ toString size else toString size

/-- A number with a fraction as it stands in messages: with a point if the first digit stands for
10^-5 to 10^15, else with an exponent. -/
def realText (value : Binary64) : String :=
  if value.isZero then "0.0"
  else
    let shortest := value.shortest
    let digits := (toString shortest.digits).toList
    let zeros (count : Nat) : List Char := List.replicate count '0'
    let point := (digits.length : Int) - 1 + shortest.exponent
    if -5 ≤ point ∧ point ≤ 15 then
      if 0 ≤ shortest.exponent then
        String.ofList (digits ++ zeros shortest.exponent.toNat ++ ['.', '0'])
      else if 0 ≤ point then
        let whole := point.toNat + 1
        String.ofList (digits.take whole ++ ['.'] ++ digits.drop whole)
      else String.ofList (['0', '.'] ++ zeros (-point - 1).toNat ++ digits)
    else
      let fraction := if digits.length = 1 then [] else '.' :: digits.drop 1
      let sign := if point < 0 then "-" else "+"
      String.ofList (digits.take 1 ++ fraction) ++ "e" ++ sign ++ exponentText point.natAbs

end BytePattern.Json
