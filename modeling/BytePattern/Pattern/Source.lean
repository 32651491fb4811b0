import BytePattern.Journal
import BytePattern.Pattern.Basic
import BytePattern.Text.Blank
import BytePattern.Text.Width

/-!
# Pattern texts

A pattern is written as words separated by blanks, each word one token. Reading a text walks through
it once to collect its words with their byte columns, reads every word, and blames the first bad
one.
-/

namespace BytePattern

/-- A maximal run of characters that are not blank, and the byte column where it starts. -/
structure Word where
  column : Nat
  characters : List Char
deriving DecidableEq, Repr

namespace Word

/-- Goes on through a text from byte `column` on. A word that has been begun, its characters held
backwards, is ended by the next blank. -/
def collect (column : Nat) (begun : Option Word) : List Char → List Word
  | [] => []
  | c :: rest =>
    let following := column + c.utf8Size
    if Text.isBlank c then
      match begun with
      | some word => ⟨word.column, word.characters.reverse⟩ :: collect following none rest
      | none => collect following none rest
    else
      match begun with
      | some word => collect following (some ⟨word.column, c :: word.characters⟩) rest
      | none => collect following (some ⟨column, [c]⟩) rest

/-- The words of a text. A blank behind the text ends the last of them. -/
def ofText (text : List Char) : List Word :=
  collect 0 none (text ++ [' '])

def text (word : Word) : String :=
  String.ofList word.characters

end Word

inductive PatternError where
  /-- The text holds no word at all. -/
  | empty
  /-- The word of this index, at this byte column, is not a token. -/
  | invalidToken (token : String) (index column : Nat)
deriving DecidableEq, Repr

namespace PatternError

def message : PatternError → String
  | .empty => "Pattern is empty"
  | .invalidToken token index column =>
    s!"Invalid token \"{token}\" at index {index} (column {column})"

end PatternError

namespace Pattern

/-- Reads the words from the one with ordinal `index` on. -/
def readWords (index : Nat) : List Word → Except PatternError (List Token)
  | [] => .ok []
  | word :: rest =>
    match Token.ofWord? word.characters with
    | none => .error (.invalidToken word.text index word.column)
    | some token => do
      let tokens ← readWords (index + 1) rest
      return token :: tokens

/-- The tokens of a text; at least one is required. -/
def readTokens (source : String) : Except PatternError (List Token) :=
  match Word.ofText source.toList with
  | [] => .error .empty
  | words => readWords 0 words

/-- A pattern from tokens; none at all are no pattern. -/
def ofTokens (tokens : List Token) : Except PatternError Pattern :=
  match ofTokens? tokens with
  | some pattern => .ok pattern
  | none => .error .empty

theorem ofTokens_eq_ok_iff {tokens : List Token} {pattern : Pattern} :
    ofTokens tokens = .ok pattern ↔ pattern.tokens = tokens := by
  constructor
  · intro built
    unfold ofTokens at built
    split at built
    · rename_i found
      cases built
      exact tokens_of_ofTokens? found
    · cases built
  · rintro rfl
    rw [ofTokens, ofTokens?, dif_pos pattern.tokens_ne_nil]
    exact congrArg Except.ok (Pattern.ext rfl)

theorem exists_ofTokens {tokens : List Token} (nonempty : tokens ≠ []) :
    ∃ pattern, ofTokens tokens = .ok pattern ∧ pattern.tokens = tokens := by
  let pattern : Pattern := ⟨tokens, _, _, nonempty, rfl, rfl⟩
  exact ⟨pattern, ofTokens_eq_ok_iff.2 rfl, rfl⟩

def compile (source : String) : Except PatternError Pattern := do
  ofTokens (← readTokens source)

def compiledRecord (pattern : Pattern) : Record where
  level := .trace
  message :=
    s!"Compiled pattern \"{pattern.text}\": {pattern.span} tokens, anchor {pattern.anchorText}"

def compileLogged (source : String) : Logged (Except PatternError Pattern) :=
  let compiled := compile source
  ⟨compiled, compiled.toOption.toList.map compiledRecord⟩

@[simp] theorem value_compileLogged (source : String) :
    (compileLogged source).value = compile source := rfl

end Pattern

end BytePattern
