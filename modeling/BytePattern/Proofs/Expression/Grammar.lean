import BytePattern.Expression.Cursor
import BytePattern.Expression.Basic
import BytePattern.Proofs.Text.Hexadecimal

/-!
# The grammar of expressions

    or      = xor     ( "|" xor )*
    xor     = and     ( "^" and )*
    and     = sum     ( "&" sum )*
    sum     = product ( ( "+" | "-" ) product )*
    product = atom    ( ( "*" | "/" | "%" ) atom )*
    atom    = "(" or ")" | "[" or "]" suffix | "$" | "$here" | "here" | number
    number  = ( "0x" | "0X" )? digit+
    suffix  = ( "." "r"? "s"? ( "b" | "w" | "d" | "q" ) | ".r" "s"? )?

A number has hexadecimal digits and is less than 2^64. Blanks may stand before every token and at
the end of the text; `$here`, a number and a bracket with its suffix are single tokens, so there
are none inside of them. The operators of one tier group to the left.

A derivation is a tree of these rules that records the tokens and the blanks it was written with,
so it determines both a text and a term.
-/

namespace BytePattern.Expression

/-- The tiers of operators, from the one that binds loosest to the one that binds tightest. -/
inductive Tier where
  | or
  | xor
  | and
  | sum
  | product
deriving DecidableEq, Repr

namespace Operator

/-- The tier whose operands the operator joins. -/
def tier : Operator → Tier
  | .or => .or
  | .xor => .xor
  | .and => .and
  | .add | .sub => .sum
  | .mul | .div | .mod => .product

def sign : Operator → Char
  | .add => '+'
  | .sub => '-'
  | .mul => '*'
  | .div => '/'
  | .mod => '%'
  | .and => '&'
  | .xor => '^'
  | .or => '|'

end Operator

def Width.letter : Width → Char
  | .byte => 'b'
  | .word => 'w'
  | .double => 'd'
  | .quad => 'q'

namespace Grammar

/-- What is derived: the operands and operators of a tier, or an operand without operators. -/
inductive Part where
  | tier (tier : Tier)
  | atom
deriving DecidableEq, Repr

/-- The operands of a tier belong to the next tighter one. -/
def operandOf : Tier → Part
  | .or => .tier .xor
  | .xor => .tier .and
  | .and => .tier .sum
  | .sum => .tier .product
  | .product => .atom

/-- A run of blanks, possibly none. -/
abbrev Gap : Type := { run : List Char // ∀ c ∈ run, Text.isBlank c = true }

/-- What may stand before the digits of a number. -/
inductive Mark where
  | none
  | lower
  | upper
deriving DecidableEq, Repr

def Mark.text : Mark → List Char
  | .none => []
  | .lower => ['0', 'x']
  | .upper => ['0', 'X']

structure Numeral where
  mark : Mark
  digits : List Char
  digits_ne_nil : digits ≠ []
  isHexDigit : ∀ c ∈ digits, Text.IsHexDigit c
  hexNumber_lt : Text.hexNumber digits < UInt64.size

/-- The words: three names of the match address, and the numbers. -/
inductive Word where
  | dollar
  | dollarHere
  | here
  | number (numeral : Numeral)

namespace Word

def text : Word → List Char
  | .dollar => ['$']
  | .dollarHere => ['$', 'h', 'e', 'r', 'e']
  | .here => ['h', 'e', 'r', 'e']
  | .number numeral => numeral.mark.text ++ numeral.digits

def term : Word → Term
  | .dollar | .dollarHere | .here => .here
  | .number numeral => .number (UInt64.ofNat (Text.hexNumber numeral.digits))

end Word

/-- What may stand behind the bracket of a load. -/
inductive Suffix where
  | absent
  | sized (relative signed : Bool) (width : Width)
  | unsized (signed : Bool)
deriving DecidableEq, Repr

namespace Suffix

/-- A letter that may be left out. -/
def optional (letter : Char) (present : Bool) : List Char :=
  if present then [letter] else []

def text : Suffix → List Char
  | .absent => []
  | .sized relative signed width =>
    '.' :: (optional 'r' relative ++ optional 's' signed ++ [width.letter])
  | .unsized signed => '.' :: 'r' :: optional 's' signed

/-- Without a suffix a load reads eight unsigned bytes; a relative load without a width reads a
signed number of four bytes. -/
def load : Suffix → Load
  | .absent => ⟨.quad, false, false⟩
  | .sized relative signed width => ⟨width, signed, relative⟩
  | .unsized _ => ⟨.double, true, true⟩

end Suffix

mutual

/-- The derivations of a part of an expression. Each token comes with the blanks before it. -/
inductive Derivation : Part → Type
  | group (gap : Gap) (inner : Derivation (.tier .or)) (closing : Gap) : Derivation .atom
  | load (gap : Gap) (address : Derivation (.tier .or)) (closing : Gap) (suffix : Suffix) :
      Derivation .atom
  | word (gap : Gap) (word : Word) : Derivation .atom
  | chain {tier : Tier} (first : Derivation (operandOf tier)) (rest : Links tier) :
      Derivation (.tier tier)

/-- The operators of one tier and their right operands. -/
inductive Links : Tier → Type
  | nil {tier : Tier} : Links tier
  | cons {tier : Tier} (gap : Gap) (operator : Operator) (fits : operator.tier = tier)
      (operand : Derivation (operandOf tier)) (rest : Links tier) : Links tier

end

mutual

/-- The text that a derivation was written as. -/
def Derivation.text {part : Part} : Derivation part → List Char
  | .group gap inner closing => gap.val ++ '(' :: (inner.text ++ (closing.val ++ [')']))
  | .load gap address closing suffix =>
    gap.val ++ '[' :: (address.text ++ (closing.val ++ ']' :: suffix.text))
  | .word gap word => gap.val ++ word.text
  | .chain first rest => first.text ++ rest.text

def Links.text {tier : Tier} : Links tier → List Char
  | .nil => []
  | .cons gap operator _ operand rest =>
    gap.val ++ operator.sign :: (operand.text ++ rest.text)

end

mutual

def Derivation.term {part : Part} : Derivation part → Term
  | .group _ inner _ => inner.term
  | .load _ address _ suffix => .load suffix.load address.term
  | .word _ word => word.term
  | .chain first rest => rest.join first.term

/-- Joins a term with all the operands that follow, from the left to the right. -/
def Links.join {tier : Tier} (left : Term) : Links tier → Term
  | .nil => left
  | .cons _ operator _ operand rest => rest.join (.binary operator left operand.term)

end

/-- A derivation of a whole text, at whose end blanks may stand. -/
structure Sentence where
  root : Derivation (.tier .or)
  trailing : Gap

namespace Sentence

def text (sentence : Sentence) : List Char :=
  sentence.root.text ++ sentence.trailing.val

def term (sentence : Sentence) : Term :=
  sentence.root.term

end Sentence

end Grammar

end BytePattern.Expression
