import BytePattern.Expression.Basic
import BytePattern.Region

/-!
# Evaluating expressions

Every operator works modulo 2^64 on unsigned words. A load takes its bytes from the first region
that holds all of them.
-/

namespace BytePattern.Expression

/-- Applies an operator; only a division by zero has no result. -/
def Operator.apply (operator : Operator) (left right : UInt64) : Except EvaluationError UInt64 :=
  match operator with
  | .add => .ok (left + right)
  | .sub => .ok (left - right)
  | .mul => .ok (left * right)
  | .div => if right = 0 then .error .divideByZero else .ok (left / right)
  | .mod => if right = 0 then .error .divideByZero else .ok (left % right)
  | .and => .ok (left &&& right)
  | .xor => .ok (left ^^^ right)
  | .or => .ok (left ||| right)

/-- Extends the sign of a number of the given width to 64 bits: flipping the sign bit and taking
its weight away again leaves small numbers alone and lowers the others by twice that weight. A
number of 64 bits has its sign already. -/
def Width.signExtend (width : Width) (value : UInt64) : UInt64 :=
  if 64 ≤ 8 * width.bytes then value
  else
    let sign := UInt64.ofNat (Nat.pow 2 (8 * width.bytes - 1))
    (value ^^^ sign) - sign

/-- Reads the number of a load at an address from the first region that holds it. -/
def Load.apply (load : Load) (regions : List Region) (address : UInt64) :
    Except EvaluationError UInt64 :=
  match regions.findSome? fun region => region.readNumber? address load.width.bytes with
  | none => .error (.unreadable address load.width.bytes)
  | some stored =>
    let value := if load.signed then load.width.signExtend stored else stored
    .ok (if load.relative then address + value else value)

/-- The value of a term for a match at `here`. The left operand comes before the right one, and
both before the operator. -/
def Term.evaluate (here : UInt64) (regions : List Region) : Term → Except EvaluationError UInt64
  | .number value => .ok value
  | .here => .ok here
  | .binary operator left right => do
    let left ← left.evaluate here regions
    let right ← right.evaluate here regions
    operator.apply left right
  | .load access address => do
    access.apply regions (← address.evaluate here regions)

end BytePattern.Expression

namespace BytePattern

/-- The value of an expression for a match at `here`. -/
def Expression.evaluate (expression : Expression) (here : UInt64) (regions : List Region) :
    Except EvaluationError UInt64 :=
  expression.root.evaluate here regions

end BytePattern
