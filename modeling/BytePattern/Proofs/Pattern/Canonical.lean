import BytePattern.Proofs.Pattern.Compiling

/-!
# Canonical texts

A pattern is written as two characters a token with one blank between the tokens. Splitting this
text gives back what was written for each token, so it compiles to the pattern that it was written
for. The canonical text of a compiled source has the words of the source with its letters in upper
case and every question mark doubled, so it depends on nothing else of the source.
-/

namespace BytePattern

namespace Token

theorem spells_toWord (token : Token) : Spells token.toWord token := by
  cases token with
  | wildcard => exact .questions
  | fixed byte =>
      have inRange := byte.toNat_lt
      obtain ⟨highDigit, highValue⟩ := Text.hexDigit_spec .upper
        (show byte.toNat / 16 < 16 by omega)
      obtain ⟨lowDigit, lowValue⟩ := Text.hexDigit_spec .upper
        (show byte.toNat % 16 < 16 by omega)
      refine .digits highDigit lowDigit ?_
      rw [highValue, lowValue, Nat.div_add_mod]

theorem toWord_injective : Function.Injective toWord := by
  intro first second same
  have firstRead := ofWord?_eq_some_iff.2 first.spells_toWord
  have secondRead := ofWord?_eq_some_iff.2 second.spells_toWord
  rw [same, secondRead] at firstRead
  exact (Option.some.inj firstRead).symm

theorem toList_intercalate_text (tokens : List Token) :
    (" ".intercalate (tokens.map Token.text)).toList = [' '].intercalate (tokens.map toWord) := by
  rw [String.toList_intercalate, List.map_map]
  congr 1
  apply List.map_congr_left
  intro token _
  exact String.toList_ofList

theorem Spells.ne_nil {characters : List Char} {token : Token} (spells : Spells characters token) :
    characters ≠ [] := by
  cases spells <;> exact List.cons_ne_nil _ _

theorem Spells.isBlank_eq_false {characters : List Char} {token : Token}
    (spells : Spells characters token) : ∀ c ∈ characters, Text.isBlank c = false := by
  cases spells with
  | question => exact List.forall_mem_singleton.2 rfl
  | questions => exact List.forall_mem_cons.2 ⟨rfl, List.forall_mem_singleton.2 rfl⟩
  | digits highDigit lowDigit =>
      intro c member
      rcases List.mem_pair.1 member with rfl | rfl
      · exact Text.isBlank_of_isHexDigit highDigit
      · exact Text.isBlank_of_isHexDigit lowDigit

end Token

namespace Text

theorem hexDigit_hexDigitValue {c : Char} (digit : IsHexDigit c) :
    hexDigit .upper (hexDigitValue c) = c.toUpper :=
  beq_iff_eq.1 (digit.all (fun c => hexDigit .upper (hexDigitValue c) == c.toUpper) (by decide))

end Text

namespace Word

/-- The characters of a word with its letters in upper case and a lone question mark doubled. -/
def canonical (word : Word) : List Char :=
  if word.characters = ['?'] then ['?', '?'] else word.characters.map Char.toUpper

theorem canonical_eq_toWord {word : Word} {token : Token}
    (spells : Token.Spells word.characters token) : word.canonical = token.toWord := by
  obtain ⟨column, characters⟩ := word
  cases spells with
  | question => rfl
  | questions => rfl
  | @digits high low byte highDigit lowDigit value =>
      have lowLt := Text.hexDigitValue_lt lowDigit
      have highPart : byte.toNat / 16 = Text.hexDigitValue high := by omega
      have lowPart : byte.toNat % 16 = Text.hexDigitValue low := by omega
      rw [canonical, if_neg (by simp), Token.toWord, Text.byteDigits, highPart, lowPart,
        Text.hexDigit_hexDigitValue highDigit, Text.hexDigit_hexDigitValue lowDigit]
      rfl

/-- Runs that are joined by single blanks are the words of the joined text. -/
theorem map_characters_split_intercalate (column : Nat) {runs : List (List Char)}
    (nonempty : ∀ run ∈ runs, run ≠ [])
    (solid : ∀ run ∈ runs, ∀ c ∈ run, Text.isBlank c = false) :
    (split column ([' '].intercalate runs)).map Word.characters = runs := by
  induction runs generalizing column with
  | nil => simp [split]
  | cons run rest ih =>
      obtain ⟨runNonempty, nonempty⟩ := List.forall_mem_cons.1 nonempty
      obtain ⟨runSolid, solid⟩ := List.forall_mem_cons.1 solid
      cases rest with
      | nil =>
          have alone : split column (run ++ []) =
              ⟨column, run⟩ :: split (column + Text.width run) [] :=
            split_append runNonempty runSolid (by simp)
          rw [List.append_nil, split] at alone
          rw [List.intercalate_singleton, alone, List.map_singleton]
      | cons next others =>
          have ends : ∀ c ∈ (' ' :: [' '].intercalate (next :: others)).head?,
              Text.isBlank c = true := by
            rintro _ ⟨⟩
            rfl
          rw [List.intercalate_cons_cons, List.append_assoc, List.singleton_append,
            split_append runNonempty runSolid ends, split_cons_blank rfl, List.map_cons,
            ih _ nonempty solid]

/-- The words of tokens that are written with single blanks between them. -/
theorem map_characters_split_intercalate_text (column : Nat) (tokens : List Token) :
    (split column (" ".intercalate (tokens.map Token.text)).toList).map Word.characters =
      tokens.map Token.toWord := by
  rw [Token.toList_intercalate_text]
  apply map_characters_split_intercalate
  · rw [List.forall_mem_map]
    exact fun token _ => token.spells_toWord.ne_nil
  · rw [List.forall_mem_map]
    exact fun token _ => token.spells_toWord.isBlank_eq_false

end Word

/-- Tokens that are written with single blanks between them are determined by their text. -/
theorem Token.intercalate_text_injective :
    Function.Injective fun tokens : List Token => " ".intercalate (tokens.map Token.text) := by
  intro tokens others same
  have words := Word.map_characters_split_intercalate_text 0 tokens
  rw [show " ".intercalate (tokens.map Token.text) = " ".intercalate (others.map Token.text) from
    same, Word.map_characters_split_intercalate_text] at words
  exact List.map_injective_iff.2 Token.toWord_injective words.symm

namespace Pattern

theorem toList_text (pattern : Pattern) :
    pattern.text.toList = [' '].intercalate (pattern.tokens.map Token.toWord) :=
  Token.toList_intercalate_text pattern.tokens

/-- The canonical text of a pattern compiles to the pattern. -/
theorem compile_text (pattern : Pattern) : compile pattern.text = .ok pattern := by
  have words : (Word.split 0 pattern.text.toList).map Word.characters =
      pattern.tokens.map Token.toWord :=
    Word.map_characters_split_intercalate_text 0 pattern.tokens
  rw [compile_eq_ok_iff, ← List.forall₂_map_left_iff (R := Token.Spells), words,
    List.forall₂_map_left_iff, List.forall₂_same]
  exact fun token _ => token.spells_toWord

theorem text_inj {pattern another : Pattern} : pattern.text = another.text ↔ pattern = another := by
  constructor
  · intro same
    have reread := compile_text pattern
    rw [same, compile_text another] at reread
    exact (Except.ok.inj reread).symm
  · rintro rfl
    rfl

theorem map_canonical_split {source : String} {pattern : Pattern}
    (compiled : compile source = .ok pattern) :
    (Word.split 0 source.toList).map Word.canonical = pattern.tokens.map Token.toWord := by
  have alike := (compile_eq_ok_iff.1 compiled).imp fun _ _ => Word.canonical_eq_toWord
  rw [← List.forall₂_eq_eq_eq, List.forall₂_map_left_iff, List.forall₂_map_right_iff]
  exact alike

/-- Canonical texts are a lossless normal form. Every list of tokens is read back from its
canonical text, with the same search tables. The canonical texts of two sources are equal exactly
if the patterns are, and that is so exactly if the sources have the same words up to the case of
letters and the choice of one or two question marks: a canonical text is these words with single
blanks between them, and compiles to its own pattern. -/
theorem canonical_text_is_lossless_normal_form :
    (∀ tokens : List Token, tokens ≠ [] → ∃ pattern reread,
      ofTokens tokens = .ok pattern ∧ compile pattern.text = .ok reread ∧
      reread.tokens = tokens ∧ reread.anchor = pattern.anchor ∧
      ∀ byte, reread.shifts.get byte = pattern.shifts.get byte) ∧
    (∀ source other pattern another, compile source = .ok pattern → compile other = .ok another →
      (pattern.text = another.text ↔ pattern = another) ∧
      (pattern = another ↔ (Word.split 0 source.toList).map Word.canonical =
        (Word.split 0 other.toList).map Word.canonical)) ∧
    ∀ source pattern, compile source = .ok pattern →
      pattern.text.toList = [' '].intercalate ((Word.split 0 source.toList).map Word.canonical) ∧
      compile pattern.text = .ok pattern := by
  refine ⟨?_, ?_, ?_⟩
  · intro tokens nonempty
    obtain ⟨pattern, built, holds⟩ := exists_ofTokens nonempty
    exact ⟨pattern, pattern, built, compile_text pattern, holds, rfl, fun byte => rfl⟩
  · intro source other pattern another compiled otherCompiled
    refine ⟨text_inj, ?_⟩
    rw [map_canonical_split compiled, map_canonical_split otherCompiled,
      (List.map_injective_iff.2 Token.toWord_injective).eq_iff]
    constructor
    · rintro rfl
      rfl
    · exact Pattern.ext
  · intro source pattern compiled
    rw [map_canonical_split compiled]
    exact ⟨toList_text pattern, compile_text pattern⟩

end Pattern

end BytePattern
