import BytePattern.Text.Numeral

/-!
# Address expressions

An address expression computes an address from the address of a match and from the bytes in the
regions. Its operators work on 64-bit words; a load reads a little-endian number from memory, and
may extend its sign or add it to the address it was loaded from.
-/

namespace BytePattern

namespace Expression

inductive Operator where
  | add
  | sub
  | mul
  | div
  | mod
  | and
  | xor
  | or
deriving DecidableEq, Repr

namespace Operator

def ofChar? : Char → Option Operator
  | '+' => some .add
  | '-' => some .sub
  | '*' => some .mul
  | '/' => some .div
  | '%' => some .mod
  | '&' => some .and
  | '^' => some .xor
  | '|' => some .or
  | _ => none

/-- How tightly an operator binds; a higher level binds tighter. -/
def level : Operator → Nat
  | .mul | .div | .mod => 6
  | .add | .sub => 5
  | .and => 4
  | .xor => 3
  | .or => 2

end Operator

inductive Width where
  | byte
  | word
  | double
  | quad
deriving DecidableEq, Repr

namespace Width

def bytes : Width → Nat
  | .byte => 1
  | .word => 2
  | .double => 4
  | .quad => 8

def ofChar? : Char → Option Width
  | 'b' => some .byte
  | 'w' => some .word
  | 'd' => some .double
  | 'q' => some .quad
  | _ => none

end Width

/-- What a load does with the number that it reads. -/
structure Load where
  width : Width
  /-- Whether the number is extended by its sign. -/
  signed : Bool
  /-- Whether the number is added to the address it was read from. -/
  relative : Bool
deriving DecidableEq, Repr

/-- The load without a suffix: an unsigned number of eight bytes. -/
def Load.plain : Load := ⟨.quad, false, false⟩

inductive Term where
  | number (value : UInt64)
  | here
  | binary (operator : Operator) (left right : Term)
  | load (access : Load) (address : Term)
deriving DecidableEq, Repr

end Expression

/-- An expression: its text without surrounding blanks, and its tree. -/
structure Expression where
  source : String
  root : Expression.Term
deriving DecidableEq, Repr

/-- Why a text is not an expression. Columns count bytes from the start of the text. -/
inductive ExpressionError where
  | unexpectedEnd
  | unexpected (found : Char) (column : Nat)
  | invalidNumber (text : String) (column : Nat)
  | unknownSymbol (name : String) (column : Nat)
  | invalidLoadSize (column : Nat)
deriving DecidableEq, Repr

def ExpressionError.message : ExpressionError → String
  | .unexpectedEnd => "Unexpected end of expression"
  | .unexpected found column => s!"Unexpected '{found}' at column {column}"
  | .invalidNumber text column => s!"Invalid number \"{text}\" at column {column}"
  | .unknownSymbol name column => s!"Unknown symbol \"{name}\" at column {column}"
  | .invalidLoadSize column => s!"Invalid load suffix at column {column}"

inductive EvaluationError where
  | divideByZero
  | unreadable (address : UInt64) (size : Nat)
deriving DecidableEq, Repr

def EvaluationError.message : EvaluationError → String
  | .divideByZero => "Division by zero"
  | .unreadable address size => s!"Cannot read {size} bytes at {Text.address address}"

end BytePattern
