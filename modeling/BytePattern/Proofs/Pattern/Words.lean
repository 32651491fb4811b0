import BytePattern.Pattern.Source
import BytePattern.Proofs.Text.Run
import Mathlib.Data.List.TakeWhile

/-!
# The words of a text

A word is a maximal run of characters that are not blank: it can be widened neither to its front nor
to its end. Collecting words character by character splits the text, and splitting a text finds all
of its words and nothing else, in the order of the text. The column of a word is the place in the
encoded text where exactly its bytes begin.
-/

namespace BytePattern

namespace Word

/-- The words of a text whose first character stands at byte `column`. -/
def split (column : Nat) : List Char → List Word
  | [] => []
  | c :: rest =>
    if Text.isBlank c then split (column + c.utf8Size) rest
    else
      let tail := rest.takeWhile fun c => !Text.isBlank c
      ⟨column, c :: tail⟩ ::
        split (column + Text.width (c :: tail)) (rest.dropWhile fun c => !Text.isBlank c)
termination_by text => text.length
decreasing_by
  · simp
  · simpa [Nat.lt_succ_iff] using (List.dropWhile_sublist _).length_le

/-! ### Collecting words -/

section Collecting

variable {c : Char} {rest : List Char} {column : Nat}

theorem split_nil (column : Nat) : split column [] = [] := by
  rw [split]

theorem split_cons_blank (blank : Text.isBlank c = true) :
    split column (c :: rest) = split (column + c.utf8Size) rest := by
  rw [split, if_pos blank]

theorem split_cons_solid (notBlank : Text.isBlank c = false) :
    split column (c :: rest) =
      ⟨column, c :: rest.takeWhile fun c => !Text.isBlank c⟩ ::
        split (column + c.utf8Size + Text.width (rest.takeWhile fun c => !Text.isBlank c))
          (rest.dropWhile fun c => !Text.isBlank c) := by
  rw [split, if_neg (by simp [notBlank])]
  simp only [Text.width_cons, Nat.add_assoc]

/-- What is collected from a text with a blank behind it: the words of the text, or the word that
has been begun with what belongs to it and the words behind that. -/
theorem collect_concat {last : Char} (ends : Text.isBlank last = true) (text : List Char)
    (column : Nat) : collect column none (text ++ [last]) = split column text ∧
      ∀ begun : Word, collect column (some begun) (text ++ [last]) =
        ⟨begun.column, begun.characters.reverse ++ text.takeWhile fun c => !Text.isBlank c⟩ ::
          split (column + Text.width (text.takeWhile fun c => !Text.isBlank c))
            (text.dropWhile fun c => !Text.isBlank c) := by
  induction text generalizing column with
  | nil =>
      refine ⟨?_, fun begun => ?_⟩
      · rw [List.nil_append, collect, if_pos ends, collect, split_nil]
      · rw [List.nil_append, collect, if_pos ends, collect, List.takeWhile_nil, List.append_nil,
          List.dropWhile_nil, split_nil]
  | cons c rest ih =>
      obtain ⟨fresh, carried⟩ := ih (column + c.utf8Size)
      cases blank : Text.isBlank c with
      | true =>
          refine ⟨?_, fun begun => ?_⟩
          · rw [List.cons_append, collect, if_pos blank, fresh, split_cons_blank blank]
          · simp only [List.cons_append, collect, blank, if_true, fresh, List.takeWhile_cons,
              List.dropWhile_cons, Bool.not_true, Bool.false_eq_true, if_false, List.append_nil,
              Text.width_nil, Nat.add_zero, split_cons_blank blank]
      | false =>
          have notBlank : ¬ Text.isBlank c = true := by simp [blank]
          refine ⟨?_, fun begun => ?_⟩
          · rw [List.cons_append, collect, if_neg notBlank, carried, split_cons_solid blank,
              List.reverse_singleton, List.singleton_append]
          · rw [List.cons_append, collect, if_neg notBlank, carried]
            simp only [List.takeWhile_cons, List.dropWhile_cons, blank, Bool.not_false, if_true,
              List.reverse_cons, List.append_assoc, List.cons_append, List.nil_append,
              Text.width_cons, Nat.add_assoc]

theorem ofText_eq_split (text : List Char) : ofText text = split 0 text :=
  (collect_concat (by decide) text 0).1

end Collecting

/-! ### Maximal runs -/

/-- Whether a word is a maximal run of characters that are not blank, in a text whose first
character stands at byte `column`. -/
def IsRun (column : Nat) (text : List Char) (word : Word) : Prop :=
  ∃ before after, text = before ++ (word.characters ++ after) ∧
    word.column = column + Text.width before ∧ word.characters ≠ [] ∧
    (∀ c ∈ word.characters, Text.isBlank c = false) ∧
    (∀ c ∈ before.getLast?, Text.isBlank c = true) ∧ ∀ c ∈ after.head?, Text.isBlank c = true

variable {column : Nat} {run behind rest : List Char} {word : Word}

theorem exists_eq_cons_of_solid (nonempty : run ≠ [])
    (solid : ∀ c ∈ run, Text.isBlank c = false) :
    ∃ first others, run = first :: others ∧ Text.isBlank first = false := by
  obtain ⟨first, others, rfl⟩ := List.exists_cons_of_ne_nil nonempty
  exact ⟨first, others, rfl, solid first List.mem_cons_self⟩

theorem not_isRun_nil (column : Nat) (word : Word) : ¬ word.IsRun column [] := by
  rintro ⟨before, after, split, -, nonempty, -⟩
  have nothing := List.append_eq_nil_iff.1 split.symm
  exact nonempty (List.append_eq_nil_iff.1 nothing.2).1

/-- What stands in front of a text changes the columns of its words and nothing else, as long as it
ends with a blank or the text begins with one. -/
theorem IsRun.append {front : List Char} (isRun : word.IsRun (column + Text.width front) behind)
    (apart : (∀ c ∈ front.getLast?, Text.isBlank c = true) ∨
      ∀ c ∈ behind.head?, Text.isBlank c = true) : word.IsRun column (front ++ behind) := by
  obtain ⟨before, after, split, isColumn, nonempty, solid, starts, ends⟩ := isRun
  refine ⟨front ++ before, after, by rw [split, List.append_assoc], ?_, nonempty, solid, ?_, ends⟩
  · rw [isColumn, Text.width_append, Nat.add_assoc]
  · refine forall_getLast?_append_iff.2 ⟨?_, starts⟩
    rintro rfl
    rcases apart with frontEnds | behindStarts
    · exact frontEnds
    · obtain ⟨first, others, cut, notBlank⟩ := exists_eq_cons_of_solid nonempty solid
      rw [split, cut] at behindStarts
      rw [behindStarts first rfl] at notBlank
      cases notBlank

/-- No word starts at a blank. -/
theorem isRun_cons_blank_iff {c : Char} (blank : Text.isBlank c = true) :
    word.IsRun column (c :: rest) ↔ word.IsRun (column + c.utf8Size) rest := by
  constructor
  · rintro ⟨before, after, split, isColumn, nonempty, solid, starts, ends⟩
    cases before with
    | nil =>
        obtain ⟨first, others, cut, notBlank⟩ := exists_eq_cons_of_solid nonempty solid
        rw [cut, List.nil_append, List.cons_append] at split
        rw [(List.cons.inj split).1, notBlank] at blank
        cases blank
    | cons front before =>
        obtain ⟨rfl, atRest⟩ := List.cons.inj split
        refine ⟨before, after, atRest, ?_, nonempty, solid, ?_, ends⟩
        · rw [isColumn, Text.width_cons, Nat.add_assoc]
        · rw [← List.singleton_append] at starts
          exact (forall_getLast?_append_iff.1 starts).2
  · intro isRun
    have ends : ∀ last ∈ [c].getLast?, Text.isBlank last = true := by
      rintro _ ⟨⟩
      exact blank
    exact isRun.append (Or.inl ends)

/-- A run at the front of a text that a blank or the end follows is a word, and every other word
lies behind it. -/
theorem isRun_append_iff (nonempty : run ≠ []) (solid : ∀ c ∈ run, Text.isBlank c = false)
    (ends : ∀ c ∈ behind.head?, Text.isBlank c = true) :
    word.IsRun column (run ++ behind) ↔
      word = ⟨column, run⟩ ∨ word.IsRun (column + Text.width run) behind := by
  constructor
  · rintro ⟨before, after, split, isColumn, wordNonempty, wordSolid, wordStarts, wordEnds⟩
    rcases List.append_eq_append_iff.1 split with ⟨skipped, cut, atBehind⟩ | ⟨inside, cut, same⟩
    · right
      refine ⟨skipped, after, atBehind, ?_, wordNonempty, wordSolid, ?_, wordEnds⟩
      · rw [isColumn, cut, Text.width_append, Nat.add_assoc]
      · rw [cut] at wordStarts
        exact (forall_getLast?_append_iff.1 wordStarts).2
    · left
      have atFront : before = [] := by
        rcases before.eq_nil_or_concat' with nothing | ⟨others, last, concat⟩
        · exact nothing
        · have notBlank := solid last (by simp [cut, concat])
          rw [wordStarts last (by simp [concat])] at notBlank
          cases notBlank
      rw [atFront, List.nil_append] at cut
      have wordPasses : ∀ c ∈ word.characters, (!Text.isBlank c) = true := by simpa using wordSolid
      have insidePasses : ∀ c ∈ inside, (!Text.isBlank c) = true := by simpa [cut] using solid
      obtain ⟨characters, -⟩ := run_append_inj wordPasses insidePasses (by simpa using wordEnds)
        (by simpa using ends) same
      rw [Word.mk.injEq]
      exact ⟨by rw [isColumn, atFront]; rfl, by rw [characters, cut]⟩
  · rintro (rfl | isRun)
    · exact ⟨[], behind, rfl, rfl, nonempty, solid, by simp, ends⟩
    · exact isRun.append (Or.inr ends)

/-- Splitting finds the words of a text. The induction follows the split: it passes over a blank or
takes a word off the front. -/
theorem mem_split_iff {text : List Char} : word ∈ split column text ↔ word.IsRun column text := by
  fun_induction split column text with
  | case1 column => simp [not_isRun_nil]
  | case2 column c rest blank ih => rw [isRun_cons_blank_iff blank, ih]
  | case3 column c rest notBlank tail ih =>
      have whole : c :: rest = (c :: tail) ++ rest.dropWhile fun c => !Text.isBlank c := by
        rw [List.cons_append, List.takeWhile_append_dropWhile]
      have solid : ∀ other ∈ c :: tail, Text.isBlank other = false := by
        intro other member
        rcases List.mem_cons.1 member with rfl | inTail
        · simpa using notBlank
        · simpa using List.mem_takeWhile_imp inTail
      have ends : ∀ other ∈ (rest.dropWhile fun c => !Text.isBlank c).head?,
          Text.isBlank other = true := by
        intro other isHead
        have stopped := List.head?_dropWhile_not (fun c => !Text.isBlank c) rest
        rw [Option.mem_def.1 isHead] at stopped
        simpa using stopped
      rw [List.mem_cons, ih, whole, isRun_append_iff (List.cons_ne_nil c tail) solid ends]

theorem split_append (nonempty : run ≠ []) (solid : ∀ c ∈ run, Text.isBlank c = false)
    (ends : ∀ c ∈ behind.head?, Text.isBlank c = true) :
    split column (run ++ behind) = ⟨column, run⟩ :: split (column + Text.width run) behind := by
  obtain ⟨c, tail, rfl, notBlank⟩ := exists_eq_cons_of_solid nonempty solid
  have passes : ∀ other ∈ tail, (!Text.isBlank other) = true := by
    simpa using fun other member => solid other (List.mem_cons_of_mem c member)
  have stops : ∀ other ∈ behind.head?, (!Text.isBlank other) = false := by simpa using ends
  rw [List.cons_append, split, if_neg (by simp [notBlank])]
  simp only [takeWhile_run passes stops, dropWhile_run passes stops]

theorem le_column_of_mem_split {text : List Char} (member : word ∈ split column text) :
    column ≤ word.column := by
  obtain ⟨before, after, -, isColumn, -⟩ := mem_split_iff.1 member
  rw [isColumn]
  exact Nat.le_add_right _ _

theorem pairwise_column_lt_split (column : Nat) (text : List Char) :
    (split column text).Pairwise fun first second => first.column < second.column := by
  fun_induction split column text with
  | case1 column => exact List.Pairwise.nil
  | case2 column c rest blank ih => exact ih
  | case3 column c rest notBlank tail ih =>
      refine List.pairwise_cons.2 ⟨?_, ih⟩
      intro word member
      have behind := le_column_of_mem_split member
      have positive := c.utf8Size_pos
      rw [Text.width_cons] at behind
      show column < word.column
      omega

/-- The bytes of a word begin at its column, which is no place inside a character. -/
theorem IsRun.at_column {source : String} (isRun : word.IsRun 0 source.toList) :
    (⟨word.column⟩ : String.Pos.Raw).IsValid source ∧
      source.toUTF8.extract word.column (word.column + word.text.utf8ByteSize) =
        word.text.toUTF8 := by
  obtain ⟨before, after, split, isColumn, -⟩ := isRun
  have spelled : source = String.ofList before ++ (word.text ++ String.ofList after) := by
    rw [text, ← String.ofList_append, ← String.ofList_append, ← split, String.ofList_toList]
  have atColumn : word.column = (String.ofList before).utf8ByteSize := by
    rw [isColumn, Nat.zero_add, ← Text.width_toList, String.toList_ofList]
  constructor
  · rw [isColumn, Nat.zero_add]
    exact Text.isValid_width split
  · have bytes : source.toUTF8 = (String.ofList before).toUTF8 ++
        (word.text.toUTF8 ++ (String.ofList after).toUTF8) := by
      rw [spelled]
      simp only [String.toUTF8, String.toByteArray_append]
    have begins : word.column = (String.ofList before).toUTF8.size :=
      atColumn.trans String.size_toByteArray.symm
    calc source.toUTF8.extract word.column (word.column + word.text.utf8ByteSize)
        = (word.text.toUTF8 ++ (String.ofList after).toUTF8).extract 0 word.text.utf8ByteSize := by
          rw [bytes]
          exact ByteArray.extract_append_size_add' (i := 0) begins
      _ = word.text.toUTF8 := ByteArray.extract_append_eq_left String.size_toByteArray.symm

end Word

end BytePattern
