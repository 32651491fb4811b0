import BytePattern.CommandLine.Run
import BytePattern.Proofs.Pattern.Compiling

/-!
# Underlining a bad token

A rejected pattern is shown above a line of carets. The column of its bad token counts bytes, the
line counts characters: in front of the carets stands one blank for each character before the
token, however many bytes that takes, so the carets stand below the token and nowhere else.
-/

namespace BytePattern.Pattern

open Text

/-- The width of what stands before a place is a column of the text, and leads back to the place. -/
theorem charactersBefore?_width_append (before after : List Char) :
    charactersBefore? (width before) (before ++ after) = some before := by
  induction before with
  | nil => rw [width_nil, charactersBefore?]
  | cons c rest ih =>
      have positive := c.utf8Size_pos
      obtain ⟨column, split⟩ : ∃ column, width (c :: rest) = column + 1 :=
        Nat.exists_eq_succ_of_ne_zero (by rw [width_cons]; omega)
      have behind : column + 1 - c.utf8Size = width rest := by
        rw [← split, width_cons, Nat.add_sub_cancel_left]
      have fits : c.utf8Size ≤ column + 1 := by
        rw [← split, width_cons]
        exact Nat.le_add_right _ _
      rw [split, List.cons_append, charactersBefore?, if_pos fits, behind, ih]
      rfl

theorem caretIndent_width_append (before after : List Char) :
    caretIndent (before ++ after) (width before) =
      before.map fun c => if isBlank c then c else ' ' := by
  rw [caretIndent, charactersBefore?_width_append]
  rfl

/-- What stands in front of the carets is blank, so none of it is a caret. -/
theorem caret_notMem_map (before : List Char) :
    '^' ∉ before.map fun c => if isBlank c then c else ' ' := by
  intro member
  obtain ⟨c, -, equal⟩ := List.mem_map.1 member
  split at equal
  · rename_i blank
    rw [equal] at blank
    cases blank
  · cases equal

theorem getElem?_append_replicate_eq_caret_iff {indent : List Char} (none : '^' ∉ indent)
    (count place : Nat) : (indent ++ List.replicate count '^')[place]? = some '^' ↔
      indent.length ≤ place ∧ place < indent.length + count := by
  rcases Nat.lt_or_ge place indent.length with front | behind
  · rw [List.getElem?_append_left front]
    constructor
    · intro found
      exact absurd (List.mem_of_getElem? found) none
    · rintro ⟨behind, -⟩
      exact absurd front (Nat.not_lt.2 behind)
  · rw [List.getElem?_append_right behind, List.getElem?_replicate]
    simp only [ite_eq_left_iff, reduceCtorEq, imp_false, Decidable.not_not]
    omega

/-- The text in front of a bad token, measured in bytes, is the column of the token. -/
theorem exists_split_at_bad_token {source token : String} {index column : Nat}
    (rejected : compile source = .error (.invalidToken token index column)) :
    ∃ before after, source.toList = before ++ (token.toList ++ after) ∧ width before = column ∧
      (⟨column⟩ : String.Pos.Raw).IsValid source := by
  rcases compile_eq_error_iff.1 rejected with
    ⟨-, impossible⟩ | ⟨_, bad, _, words, -, -, blamed⟩
  · cases impossible
  · cases blamed
    have isRun : bad.IsRun 0 source.toList := by
      rw [← Word.mem_split_iff, words]
      exact List.mem_append_right _ List.mem_cons_self
    have valid := isRun.at_column.1
    obtain ⟨before, after, whole, isColumn, -⟩ := isRun
    refine ⟨before, after, ?_, by rw [isColumn, Nat.zero_add], valid⟩
    rw [whole, Word.text, String.toList_ofList]

/-- The user sees the source and the line of carets below it, both as far from the edge. -/
theorem notices_compile {source token : String} {index column : Nat}
    (rejected : compile source = .error (.invalidToken token index column)) :
    (CommandLine.Invocation.compile source).notices =
      [.line ("    " ++ source),
        .line ("    " ++ String.ofList (caretLine source.toList token.toList column))] := by
  have value : (compileLogged source).value =
      .error (.invalidToken token index column) := rejected
  have records : (compileLogged source).records = [] := by
    show (compile source).toOption.toList.map compiledRecord = []
    rw [rejected]
    rfl
  unfold CommandLine.Invocation.compile
  simp only [bind, CommandLine.Session.logged, value, records]
  rfl

/-- A pattern that is rejected for a bad token is shown with carets below just this token. The
column of the token is the place between two characters in front of it, so it is not taken for the
end of the text. Every character in front of the token leaves one blank, itself if it is one and a
space otherwise, and every character of the token gets a caret. -/
theorem carets_stand_below_bad_token {source token : String} {index column : Nat}
    (rejected : compile source = .error (.invalidToken token index column)) :
    (CommandLine.Invocation.compile source).notices =
      [.line ("    " ++ source),
        .line ("    " ++ String.ofList (caretLine source.toList token.toList column))] ∧
    (⟨column⟩ : String.Pos.Raw).IsValid source ∧
    ∃ before after, source.toList = before ++ (token.toList ++ after) ∧ width before = column ∧
      charactersBefore? column source.toList = some before ∧
      (caretIndent source.toList column).length = before.length ∧
      (∀ (place : Nat) (c : Char), before[place]? = some c →
        (caretIndent source.toList column)[place]? = some (if isBlank c then c else ' ')) ∧
      (caretLine source.toList token.toList column).length =
        before.length + token.toList.length ∧
      ∀ place : Nat, (caretLine source.toList token.toList column)[place]? = some '^' ↔
        before.length ≤ place ∧ place < before.length + token.toList.length := by
  obtain ⟨before, after, whole, rfl, valid⟩ := exists_split_at_bad_token rejected
  have indent : caretIndent source.toList (width before) =
      before.map fun c => if isBlank c then c else ' ' := by
    rw [whole, caretIndent_width_append]
  have length : (caretIndent source.toList (width before)).length = before.length := by
    rw [indent, List.length_map]
  refine ⟨notices_compile rejected, valid, before, after, whole, rfl, ?_, length, ?_, ?_, ?_⟩
  · rw [whole, charactersBefore?_width_append]
  · intro place c found
    rw [indent, List.getElem?_map, found, Option.map_some]
  · rw [caretLine, List.length_append, length, List.length_replicate]
  · intro place
    rw [caretLine, getElem?_append_replicate_eq_caret_iff (indent ▸ caret_notMem_map before),
      length]

/-- Four characters, of six bytes, stand in front of this token. -/
theorem carets_stand_behind_wide_blank :
    compile "41\u3000\t4é 90" = .error (.invalidToken "4é" 1 6) ∧
      ∀ place : Nat, (caretLine "41\u3000\t4é 90".toList "4é".toList 6)[place]? = some '^' ↔
        4 ≤ place ∧ place < 6 := by
  have rejected : compile "41\u3000\t4é 90" = .error (.invalidToken "4é" 1 6) := by
    decide +kernel
  obtain ⟨-, -, before, after, -, -, -, length, -, -, carets⟩ :=
    carets_stand_below_bad_token rejected
  have four : before.length = 4 := by
    rw [← length]
    decide +kernel
  rw [four] at carets
  exact ⟨rejected, carets⟩

end BytePattern.Pattern
