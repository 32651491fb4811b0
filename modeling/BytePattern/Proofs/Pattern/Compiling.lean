import BytePattern.Proofs.Pattern.Spelling
import BytePattern.Proofs.Pattern.Words
import Mathlib.Data.List.Forall2

/-!
# Compiling a pattern text

A text with at least one word, all of which spell tokens, compiles to the pattern of these tokens.
Otherwise the first word that spells no token is blamed, by its ordinal, its text and its column;
all words before it spell tokens.
-/

namespace BytePattern

namespace Word

def IsToken (word : Word) : Prop :=
  ∃ token, Token.Spells word.characters token

theorem ofWord?_eq_none_iff {word : Word} :
    Token.ofWord? word.characters = none ↔ ¬ word.IsToken := by
  simp only [IsToken, ← Token.ofWord?_eq_some_iff, Option.eq_none_iff_forall_ne_some, not_exists,
    ne_eq]

end Word

namespace Pattern

theorem readWords_cons_of_spells {index : Nat} {word : Word} {rest : List Word} {token : Token}
    (spells : Token.Spells word.characters token) :
    readWords index (word :: rest) = (readWords (index + 1) rest).map (token :: ·) := by
  rw [readWords, Token.ofWord?_eq_some_iff.2 spells]
  cases readWords (index + 1) rest with
  | error fault => rfl
  | ok tokens => rfl

theorem readWords_cons_of_not_isToken {index : Nat} {word : Word} {rest : List Word}
    (bad : ¬ word.IsToken) :
    readWords index (word :: rest) = .error (.invalidToken word.text index word.column) := by
  rw [readWords, Word.ofWord?_eq_none_iff.2 bad]

theorem readWords_eq_ok_iff {index : Nat} {words : List Word} {tokens : List Token} :
    readWords index words = .ok tokens ↔
      List.Forall₂ (fun word token => Token.Spells word.characters token) words tokens := by
  induction words generalizing index tokens with
  | nil => rw [readWords, List.forall₂_nil_left_iff, Except.ok.injEq, eq_comm]
  | cons word rest ih =>
      constructor
      · intro read
        by_cases isToken : word.IsToken
        · obtain ⟨token, spells⟩ := isToken
          rw [readWords_cons_of_spells spells] at read
          cases others : readWords (index + 1) rest with
          | error fault =>
              rw [others] at read
              cases read
          | ok tokens =>
              rw [others] at read
              cases read
              exact .cons spells (ih.1 others)
        · rw [readWords_cons_of_not_isToken isToken] at read
          cases read
      · rintro (_ | ⟨spells, others⟩)
        rw [readWords_cons_of_spells spells, ih.2 others]
        rfl

/-- The words before the one that is blamed have been read; their number is its ordinal. -/
theorem readWords_eq_error_iff {index : Nat} {words : List Word} {fault : PatternError} :
    readWords index words = .error fault ↔
      ∃ valid bad rest, words = valid ++ bad :: rest ∧ (∀ word ∈ valid, word.IsToken) ∧
        ¬ bad.IsToken ∧ fault = .invalidToken bad.text (index + valid.length) bad.column := by
  induction words generalizing index fault with
  | nil => simp [readWords]
  | cons word rest ih =>
      constructor
      · intro read
        by_cases isToken : word.IsToken
        · obtain ⟨token, spells⟩ := isToken
          rw [readWords_cons_of_spells spells] at read
          cases others : readWords (index + 1) rest with
          | ok tokens =>
              rw [others] at read
              cases read
          | error fault =>
              rw [others] at read
              cases read
              obtain ⟨valid, bad, behind, split, allValid, isBad, blamed⟩ := ih.1 others
              refine ⟨word :: valid, bad, behind, by rw [split, List.cons_append],
                List.forall_mem_cons.2 ⟨⟨token, spells⟩, allValid⟩, isBad, ?_⟩
              rw [blamed, List.length_cons, Nat.add_assoc, Nat.add_comm 1]
        · rw [readWords_cons_of_not_isToken isToken] at read
          cases read
          exact ⟨[], word, rest, rfl, by simp, isToken, rfl⟩
      · rintro ⟨valid, bad, behind, split, allValid, isBad, rfl⟩
        cases valid with
        | nil =>
            obtain ⟨rfl, rfl⟩ := List.cons.inj split
            exact readWords_cons_of_not_isToken isBad
        | cons first valid =>
            obtain ⟨rfl, rfl⟩ := List.cons.inj split
            obtain ⟨⟨token, spells⟩, others⟩ := List.forall_mem_cons.1 allValid
            have blamed : readWords (index + 1) (valid ++ bad :: behind) =
                .error (.invalidToken bad.text (index + 1 + valid.length) bad.column) :=
              ih.2 ⟨valid, bad, behind, rfl, others, isBad, rfl⟩
            rw [List.append_eq, readWords_cons_of_spells spells, blamed, List.length_cons,
              ← Nat.add_assoc, Nat.add_right_comm]
            rfl

variable {source : String}

/-- A text of blanks alone is no pattern; otherwise its words are read. -/
theorem readTokens_eq (source : String) :
    readTokens source =
      if Word.split 0 source.toList = [] then .error .empty
      else readWords 0 (Word.split 0 source.toList) := by
  rw [← Word.ofText_eq_split, readTokens]
  split
  · rename_i blank
    rw [if_pos blank]
  · rename_i words notBlank
    rw [if_neg notBlank]

theorem compile_eq_ok_iff {pattern : Pattern} :
    compile source = .ok pattern ↔
      List.Forall₂ (fun word token => Token.Spells word.characters token)
        (Word.split 0 source.toList) pattern.tokens := by
  rw [compile, readTokens_eq]
  constructor
  · intro compiled
    split at compiled
    · cases compiled
    · cases read : readWords 0 (Word.split 0 source.toList) with
      | error fault =>
          rw [read] at compiled
          cases compiled
      | ok tokens =>
          rw [read] at compiled
          rw [ofTokens_eq_ok_iff.1 compiled]
          exact readWords_eq_ok_iff.1 read
  · intro spelled
    have notBlank : Word.split 0 source.toList ≠ [] := by
      intro blank
      rw [blank, List.forall₂_nil_left_iff] at spelled
      exact pattern.tokens_ne_nil spelled
    rw [if_neg notBlank, readWords_eq_ok_iff.2 spelled]
    exact ofTokens_eq_ok_iff.2 rfl

theorem compile_eq_error_iff {fault : PatternError} :
    compile source = .error fault ↔
      (Word.split 0 source.toList = [] ∧ fault = .empty) ∨
      ∃ valid bad rest, Word.split 0 source.toList = valid ++ bad :: rest ∧
        (∀ word ∈ valid, word.IsToken) ∧ ¬ bad.IsToken ∧
        fault = .invalidToken bad.text valid.length bad.column := by
  rw [compile, readTokens_eq]
  constructor
  · intro refused
    split at refused
    · rename_i blank
      cases refused
      exact Or.inl ⟨blank, rfl⟩
    · rename_i notBlank
      cases read : readWords 0 (Word.split 0 source.toList) with
      | ok tokens =>
          have nonempty : tokens ≠ [] := by
            rintro rfl
            exact notBlank (List.forall₂_nil_right_iff.1 (readWords_eq_ok_iff.1 read))
          obtain ⟨pattern, built, -⟩ := exists_ofTokens nonempty
          rw [read] at refused
          cases built.symm.trans refused
      | error blamed =>
          rw [read] at refused
          cases refused
          have first := readWords_eq_error_iff.1 read
          simp only [Nat.zero_add] at first
          exact Or.inr first
  · rintro (⟨blank, rfl⟩ | ⟨valid, bad, rest, split, allValid, isBad, rfl⟩)
    · rw [if_pos blank]
      rfl
    · have blamed : readWords 0 (Word.split 0 source.toList) =
          .error (.invalidToken bad.text (0 + valid.length) bad.column) :=
        readWords_eq_error_iff.2 ⟨valid, bad, rest, split, allValid, isBad, rfl⟩
      have notBlank : Word.split 0 source.toList ≠ [] := by
        rw [split]
        exact List.append_ne_nil_of_right_ne_nil _ (List.cons_ne_nil _ _)
      rw [if_neg notBlank, blamed, Nat.zero_add]
      rfl

theorem forall_isToken_of_compile {pattern : Pattern} (compiled : compile source = .ok pattern) :
    ∀ word ∈ Word.split 0 source.toList, word.IsToken := by
  have spelled := compile_eq_ok_iff.1 compiled
  have both := spelled.imp fun word token spells =>
    (⟨⟨token, spells⟩, spells⟩ : word.IsToken ∧ Token.Spells word.characters token)
  exact ((List.forall₂_and_left _ _).1 both).1

theorem exists_compile_iff :
    (∃ pattern, compile source = .ok pattern) ↔
      Word.split 0 source.toList ≠ [] ∧ ∀ word ∈ Word.split 0 source.toList, word.IsToken := by
  constructor
  · rintro ⟨pattern, compiled⟩
    refine ⟨?_, forall_isToken_of_compile compiled⟩
    intro blank
    rw [compile_eq_error_iff.2 (Or.inl ⟨blank, rfl⟩)] at compiled
    cases compiled
  · rintro ⟨notBlank, allTokens⟩
    cases compiled : compile source with
    | ok pattern => exact ⟨pattern, rfl⟩
    | error fault =>
        rcases compile_eq_error_iff.1 compiled with
          ⟨blank, -⟩ | ⟨valid, bad, rest, split, -, isBad, -⟩
        · exact absurd blank notBlank
        · refine absurd (allTokens bad ?_) isBad
          rw [split]
          exact List.mem_append_right _ List.mem_cons_self

/-- Compiling splits a text into its maximal runs of characters that are not blank. It succeeds if
there is a run and every run spells a token, and gives the tokens in the order of the runs. If there
is none, the pattern is empty. Otherwise the first run that spells no token is blamed, with the
number of runs before it and the byte column at which its bytes begin. -/
theorem compile_accepts_token_runs_or_blames_first (source : String) :
    (∀ word, word ∈ Word.split 0 source.toList ↔ word.IsRun 0 source.toList) ∧
    let words := Word.split 0 source.toList
    words.Pairwise (fun first second => first.column < second.column) ∧
    ((∃ pattern, compile source = .ok pattern) ↔ words ≠ [] ∧ ∀ word ∈ words, word.IsToken) ∧
    (∀ pattern, compile source = .ok pattern →
      List.Forall₂ (fun word token => Token.Spells word.characters token) words pattern.tokens) ∧
    (compile source = .error .empty ↔ words = []) ∧
    ∀ token index column, compile source = .error (.invalidToken token index column) ↔
      ∃ valid bad rest, words = valid ++ bad :: rest ∧ valid.length = index ∧
        (∀ word ∈ valid, word.IsToken) ∧ ¬ bad.IsToken ∧ bad.text = token ∧
        bad.column = column ∧ (⟨column⟩ : String.Pos.Raw).IsValid source ∧
        source.toUTF8.extract column (column + token.utf8ByteSize) = token.toUTF8 := by
  refine ⟨fun word => Word.mem_split_iff, Word.pairwise_column_lt_split 0 _, exists_compile_iff,
    fun pattern => compile_eq_ok_iff.1, ?_, ?_⟩
  · rw [compile_eq_error_iff]
    constructor
    · rintro (⟨blank, -⟩ | ⟨_, _, _, -, -, -, impossible⟩)
      · exact blank
      · cases impossible
    · intro blank
      exact Or.inl ⟨blank, rfl⟩
  · intro token index column
    rw [compile_eq_error_iff]
    constructor
    · rintro (⟨-, impossible⟩ | ⟨valid, bad, rest, split, allValid, isBad, blamed⟩)
      · cases impossible
      · cases blamed
        have isRun : bad.IsRun 0 source.toList := by
          rw [← Word.mem_split_iff, split]
          exact List.mem_append_right _ List.mem_cons_self
        exact ⟨valid, bad, rest, split, rfl, allValid, isBad, rfl, rfl, isRun.at_column⟩
    · rintro ⟨valid, bad, rest, split, rfl, allValid, isBad, rfl, rfl, -⟩
      exact Or.inr ⟨valid, bad, rest, split, allValid, isBad, rfl⟩

end Pattern

end BytePattern
