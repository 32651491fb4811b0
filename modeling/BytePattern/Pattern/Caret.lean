import BytePattern.Pattern.Source

/-!
# Pointing at a bad token

A rejected pattern is shown with a line of carets below its bad token. What stands before the token
becomes blank, except that blanks stay what they are, so that both lines have the same columns.
-/

namespace BytePattern.Pattern

/-- The characters before a byte column, unless that is inside a character or past the end. -/
def charactersBefore? : Nat → List Char → Option (List Char)
  | 0, _ => some []
  | _ + 1, [] => none
  | column + 1, c :: rest =>
    if c.utf8Size ≤ column + 1 then
      (charactersBefore? (column + 1 - c.utf8Size) rest).map (c :: ·)
    else none
termination_by _ text => text.length

/-- The blanks in front of the carets for a token at a byte column. A column that is none of the
text's own is taken as its end. -/
def caretIndent (source : List Char) (column : Nat) : List Char :=
  ((charactersBefore? column source).getD source).map fun c => if Text.isBlank c then c else ' '

/-- The line below a rejected pattern: one caret for every character of the token. -/
def caretLine (source token : List Char) (column : Nat) : List Char :=
  caretIndent source column ++ List.replicate token.length '^'

end BytePattern.Pattern
