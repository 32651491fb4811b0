import BytePattern.Proofs.Expression.Passing

/-!
# Reading operands

The words and suffixes of the grammar are what the readers take for words and suffixes. A reader
that succeeds has passed over the text of one, and it passes over any that is not followed by
another character of a token.
-/

namespace BytePattern.Expression

open Text Cursor Grammar

variable {start stop : Cursor} {term : Term}

/-! ## Suffixes -/

theorem passes_takeLetter (letter : Char) (start : Cursor) :
    start.Passes (Suffix.optional letter (takeLetter letter start).1)
      (takeLetter letter start).2 := by
  obtain ⟨column, rest⟩ := start
  cases rest with
  | nil => exact passes_refl _
  | cons c rest =>
      by_cases equal : c = letter
      · subst equal
        simp only [takeLetter, if_true]
        exact passes_cons
      · simp only [takeLetter, if_neg equal]
        exact passes_refl _

theorem takeLetter_snd_of_absent {letter : Char} (absent : (takeLetter letter start).1 = false) :
    (takeLetter letter start).2 = start := by
  have passes := passes_takeLetter letter start
  rw [absent] at passes
  exact passes.stop_unique (passes_refl start)

theorem takeLetter_of_passes {letter : Char} {present : Bool}
    (passes : start.Passes (Suffix.optional letter present) stop)
    (other : present = false → letter ∉ stop.rest.head?) :
    takeLetter letter start = (present, stop) := by
  cases present with
  | false =>
      obtain rfl := (passes_refl start).stop_unique passes
      unfold takeLetter
      split
      · rename_i c rest front
        rw [if_neg]
        rintro rfl
        exact other rfl (by rw [front]; rfl)
      · rfl
  | true =>
      have front : start.rest = letter :: stop.rest := passes.rest
      have taken : start.Passes [letter] ⟨start.column + letter.utf8Size, stop.rest⟩ :=
        ⟨front, rfl⟩
      simp only [takeLetter, front, if_true]
      rw [taken.stop_unique passes]

theorem takeWidth?_eq_some_iff {width : Width} :
    takeWidth? start = some (width, stop) ↔ start.Passes [width.letter] stop := by
  obtain ⟨column, rest⟩ := start
  cases rest with
  | nil =>
      constructor
      · intro taken
        cases taken
      · intro passes
        cases passes.rest
  | cons c rest =>
      simp only [takeWidth?, Option.map_eq_some_iff, Width.ofChar?_eq_some_iff]
      constructor
      · rintro ⟨_, rfl, ⟨⟩⟩
        exact passes_cons
      · intro passes
        cases passes.rest
        exact ⟨width, rfl, by rw [passes_cons.stop_unique passes]⟩

theorem suffixAt_eq (start : Cursor) :
    suffixAt start =
      if (takeLetter '.' start).1 = true then
        let relative := takeLetter 'r' (takeLetter '.' start).2
        let signed := takeLetter 's' relative.2
        match takeWidth? signed.2 with
        | some (width, after) => .ok (⟨width, signed.1, relative.1⟩, after)
        | none =>
          if relative.1 = true then .ok (⟨.double, true, true⟩, signed.2)
          else .error (.invalidLoadSize signed.2.column)
      else .ok (.plain, start) := by
  rw [suffixAt, readSuffix]
  split
  · dsimp only
    split
    · rename_i taken
      simp only [taken]
      rfl
    · rename_i taken
      simp only [taken]
      split <;> rfl
  · rfl

/-- Whether a suffix goes on with a character. -/
def Grammar.Suffix.goesOnWith : Suffix → Char → Bool
  | .absent, c => c == '.'
  | .sized _ _ _, _ => false
  | .unsized signed, c => (Width.ofChar? c).isSome || (!signed && c == 's')

theorem head?_takeLetter_ne {letter : Char} (absent : (takeLetter letter start).1 = false) :
    ∀ c ∈ (takeLetter letter start).2.rest.head?, (c == letter) = false := by
  obtain ⟨column, rest⟩ := start
  cases rest with
  | nil => simp [takeLetter]
  | cons c rest =>
      by_cases equal : c = letter
      · simp [takeLetter, equal] at absent
      · simp [takeLetter, equal]

theorem takeWidth?_eq_none_iff :
    takeWidth? start = none ↔ ∀ c ∈ start.rest.head?, (Width.ofChar? c).isSome = false := by
  obtain ⟨column, rest⟩ := start
  cases rest <;> simp [takeWidth?]

/-- All letters of a suffix are taken that are there. -/
theorem passes_of_suffixAt {load : Load} (read : suffixAt start = .ok (load, stop)) :
    ∃ suffix : Suffix, suffix.load = load ∧ start.Passes suffix.text stop ∧
      ∀ c ∈ stop.rest.head?, suffix.goesOnWith c = false := by
  have dot := passes_takeLetter '.' start
  have relative := passes_takeLetter 'r' (takeLetter '.' start).2
  have signed := passes_takeLetter 's' (takeLetter 'r' (takeLetter '.' start).2).2
  have flags := dot.trans (relative.trans signed)
  rw [suffixAt_eq] at read
  split at read
  · rename_i dotted
    rw [dotted] at flags
    dsimp only at read
    split at read
    · rename_i width after taken
      cases read
      refine ⟨.sized _ _ width, rfl, ?_, fun _ _ => rfl⟩
      have letters := flags.trans (takeWidth?_eq_some_iff.1 taken)
      rwa [List.append_assoc] at letters
    · rename_i unsized
      split at read
      · rename_i present
        cases read
        rw [present] at flags
        refine ⟨.unsized _, rfl, flags, fun c front => ?_⟩
        rw [Suffix.goesOnWith, takeWidth?_eq_none_iff.1 unsized c front, Bool.false_or]
        cases taken : (takeLetter 's' (takeLetter 'r' (takeLetter '.' start).2).2).1 with
        | false => exact head?_takeLetter_ne taken c front
        | true => rfl
      · cases read
  · rename_i undotted
    cases read
    have absent := Bool.eq_false_iff.2 undotted
    have unlike := head?_takeLetter_ne absent
    rw [takeLetter_snd_of_absent absent] at unlike
    exact ⟨.absent, rfl, passes_refl _, unlike⟩

/-- The letters of a suffix are taken one after the other; whether one is there shows in the
letters behind it. -/
theorem suffixAt_of_ends {suffix : Suffix} (passes : start.Passes suffix.text stop)
    (ends : ∀ c ∈ stop.rest.head?, suffix.goesOnWith c = false) :
    suffixAt start = .ok (suffix.load, stop) := by
  rw [suffixAt_eq]
  cases suffix with
  | absent =>
      have undotted : takeLetter '.' start = (false, stop) :=
        takeLetter_of_passes passes fun _ dot => absurd (ends '.' dot) (by decide)
      obtain rfl := (passes_refl start).stop_unique passes
      rw [undotted]
      rfl
  | sized relative signed width =>
      have letters : start.Passes (Suffix.optional '.' true ++ (Suffix.optional 'r' relative ++
          (Suffix.optional 's' signed ++ [width.letter]))) stop := by
        simpa [Suffix.text, Suffix.optional] using passes
      obtain ⟨afterDot, dot, letters⟩ := letters.split
      obtain ⟨afterRelative, r, letters⟩ := letters.split
      obtain ⟨afterSigned, s, letter⟩ := letters.split
      have sTaken := takeLetter_of_passes s fun _ => by
        rw [letter.rest]
        exact Suffix.s_notMem_head?_letter width _
      have rTaken := takeLetter_of_passes r fun _ => by
        rw [s.rest, letter.rest]
        exact Suffix.r_notMem_head?_optional signed width _
      have dotTaken := takeLetter_of_passes dot (by simp)
      simp only [dotTaken, rTaken, sTaken, takeWidth?_eq_some_iff.2 letter, if_true]
      rfl
  | unsized signed =>
      have letters : start.Passes (Suffix.optional '.' true ++ (Suffix.optional 'r' true ++
          Suffix.optional 's' signed)) stop := by
        simpa [Suffix.text, Suffix.optional] using passes
      obtain ⟨afterDot, dot, letters⟩ := letters.split
      obtain ⟨afterRelative, r, s⟩ := letters.split
      have unsized : takeWidth? stop = none := takeWidth?_eq_none_iff.2 fun c front =>
        (Bool.or_eq_false_iff.1 (ends c front)).1
      have sTaken := takeLetter_of_passes s fun absent front => by
        have goesOn := ends 's' front
        rw [Suffix.goesOnWith, absent] at goesOn
        exact absurd goesOn (by decide)
      have rTaken := takeLetter_of_passes r (by simp)
      have dotTaken := takeLetter_of_passes dot (by simp)
      simp only [dotTaken, rTaken, sTaken, unsized, if_true]
      rfl

theorem Grammar.Suffix.isTokenCharacter_of_goesOnWith {suffix : Suffix} {c : Char}
    (goesOn : suffix.goesOnWith c = true) : isTokenCharacter c = true := by
  have dot : isTokenCharacter '.' = true ∧ isTokenCharacter 's' = true := by decide
  cases suffix with
  | absent => rw [eq_of_beq goesOn]; exact dot.1
  | sized relative signed width => cases goesOn
  | unsized signed =>
      rw [goesOnWith, Bool.or_eq_true, Bool.and_eq_true, Option.isSome_iff_exists] at goesOn
      rcases goesOn with ⟨width, found⟩ | ⟨-, letter⟩
      · rw [Width.ofChar?_eq_some_iff.1 found]
        cases width <;> rfl
      · rw [eq_of_beq letter]
        exact dot.2

theorem suffixAt_of_passes {suffix : Suffix} (passes : start.Passes suffix.text stop)
    (bounded : Bounded stop.rest) : suffixAt start = .ok (suffix.load, stop) := by
  refine suffixAt_of_ends passes fun c front => Bool.eq_false_iff.2 fun goesOn => ?_
  exact bounded.notMem_head? (Suffix.isTokenCharacter_of_goesOnWith goesOn) front

/-! ## Words -/

theorem here_ne_number_text (numeral : Numeral) :
    (Word.number numeral).text ≠ "here".toList := by
  obtain ⟨c, rest, text, digit⟩ := numeral.exists_text_eq_cons
  rw [text]
  rintro ⟨⟩
  exact absurd digit (by decide)

/-- A run of word characters is read as the word that it is the text of. -/
theorem readWord_eq_ok_iff {word : List Char} {column : Nat}
    (all : ∀ c ∈ word, isWordCharacter c = true) :
    readWord word column = .ok term ↔ ∃ named : Word, named.text = word ∧ named.term = term := by
  constructor
  · intro read
    unfold readWord at read
    split at read
    · rename_i here
      cases read
      exact ⟨.here, here.symm, rfl⟩
    · split at read
      · rename_i value number
        cases read
        obtain ⟨mark, whole⟩ := exists_mark_append word
        have unsigned : '+' ∉ dropHexMark word := fun member =>
          absurd (all '+' (whole ▸ List.mem_append_right _ member)) (by decide)
        obtain ⟨digits, hexadecimal, equal⟩ := (word64?_eq_some_iff unsigned).1 number
        refine ⟨.number ⟨mark, _, digits, hexadecimal, equal ▸ value.toNat_lt⟩, whole, ?_⟩
        simp only [Word.term, equal, UInt64.ofNat_toNat]
      · cases read
  · rintro ⟨named, rfl, rfl⟩
    cases named with
    | here => rfl
    | number numeral =>
        rw [readWord, if_neg (here_ne_number_text numeral), Numeral.dropHexMark_text,
          Numeral.word64?_digits]
        rfl
    | dollar => exact absurd (all '$' List.mem_cons_self) (by decide)
    | dollarHere => exact absurd (all '$' List.mem_cons_self) (by decide)

/-! ## Operands -/

section Operands

variable {next behind closed : Cursor} {address : Term}

theorem operandAt_of_parenthesis (found : start.next? = some ('(', next))
    (inside : termAt 0 next = .ok (term, behind)) (closing : behind.next? = some (')', stop)) :
    operandAt start = .ok (term, stop) := by
  rw [operandAt_eq, found]
  simp only [if_true, inside, Except.bind, closeAt_eq_ok_iff.2 closing]

theorem operandAt_of_bracket {load : Load} (found : start.next? = some ('[', next))
    (inside : termAt 0 next = .ok (address, behind)) (closing : behind.next? = some (']', closed))
    (ending : suffixAt closed = .ok (load, stop)) :
    operandAt start = .ok (.load load address, stop) := by
  rw [operandAt_eq, found]
  simp only [if_neg (show ¬ '[' = '(' by decide), if_true, inside, Except.bind,
    closeAt_eq_ok_iff.2 closing, ending]

theorem Cursor.passes_skipWord (start : Cursor) : start.Passes start.word start.skipWord :=
  passes_skipWhile isWordCharacter start

theorem Cursor.isWordCharacter_of_mem_word (start : Cursor) :
    ∀ c ∈ start.word, isWordCharacter c = true :=
  fun _ => List.mem_takeWhile_imp

theorem Cursor.head?_skipWord (start : Cursor) :
    ∀ c ∈ start.skipWord.rest.head?, isWordCharacter c = false :=
  head?_skipWhile isWordCharacter start

theorem Cursor.Passes.word_eq {run : List Char} (passes : start.Passes run stop)
    (all : ∀ c ∈ run, isWordCharacter c = true)
    (ends : ∀ c ∈ stop.rest.head?, isWordCharacter c = false) :
    start.word = run ∧ start.skipWord = stop := by
  refine ⟨?_, passes.skipWhile_eq all ends⟩
  rw [Cursor.word, passes.rest, takeWhile_run all ends]

theorem operandAt_of_dollarSign (found : start.next? = some ('$', next)) :
    operandAt start =
      if next.word = [] ∨ next.word = "here".toList then .ok (.here, next.skipWord)
      else .error (.unknownSymbol (String.ofList next.word) start.skipBlanks.column) := by
  rw [operandAt_eq, found]
  simp only [if_neg (show ¬ '$' = '(' by decide), if_neg (show ¬ '$' = '[' by decide), if_true]

/-- Behind a dollar sign stands nothing, or a name at once. -/
theorem operandAt_of_dollar {name : List Char} {gap : Gap}
    (passes : start.Passes (gap.val ++ '$' :: name) stop) (bounded : Bounded stop.rest)
    (known : name = [] ∨ name = "here".toList) : operandAt start = .ok (.here, stop) := by
  rw [← List.singleton_append, ← List.append_assoc] at passes
  obtain ⟨next, sign, letters⟩ := passes.split
  have found := next?_eq_some_iff.2 ⟨by rfl, gap, sign⟩
  have all : ∀ c ∈ name, isWordCharacter c = true := by
    rcases known with rfl | rfl <;> exact List.all_eq_true.1 (by decide)
  obtain ⟨word, ended⟩ := letters.word_eq all bounded.isWordCharacter
  rw [operandAt_of_dollarSign found, word, ended, if_pos known]

theorem operandAt_of_alphanum {c : Char} (found : start.next? = some (c, next))
    (member : c.isAlphanum = true) :
    operandAt start = (readWord start.skipBlanks.word start.skipBlanks.column).bind
      fun operand => .ok (operand, start.skipBlanks.skipWord) := by
  have other (sign : Char) (outside : sign.isAlphanum = false) : ¬ c = sign := by
    rintro rfl
    rw [member] at outside
    cases outside
  rw [operandAt_eq, found]
  simp only [if_neg (other '(' rfl), if_neg (other '[' rfl), if_neg (other '$' rfl), member,
    if_true]

theorem operandAt_of_plain {word : Word} {gap : Gap}
    (passes : start.Passes (gap.val ++ word.text) stop) (bounded : Bounded stop.rest)
    (all : ∀ c ∈ word.text, isWordCharacter c = true) {c : Char} {rest : List Char}
    (front : word.text = c :: rest) (member : c.isAlphanum = true) :
    operandAt start = .ok (word.term, stop) := by
  obtain ⟨middle, blanks, letters⟩ := passes.split
  have solid : isBlank c = false :=
    isBlank_of_isTokenCharacter (isTokenCharacter_of_isWordCharacter
      (isWordCharacter_of_isAlphanum member))
  obtain rfl : start.skipBlanks = middle :=
    blanks.skipWhile_eq gap.property (by rw [letters.rest, front]; rintro _ ⟨⟩; exact solid)
  obtain ⟨named, ended⟩ := letters.word_eq all bounded.isWordCharacter
  have found : start.next? = some (c, ⟨_, rest ++ stop.rest⟩) :=
    next?_of_cons (by rw [letters.rest, front]; rfl)
  rw [operandAt_of_alphanum found member, named, ended,
    (readWord_eq_ok_iff all).2 ⟨word, rfl, rfl⟩]
  rfl

theorem isAlphanum_of_isHexDigit {c : Char} (digit : IsHexDigit c) : c.isAlphanum = true :=
  digit.all Char.isAlphanum (by decide)

theorem operandAt_of_word {word : Word} {gap : Gap}
    (passes : start.Passes (gap.val ++ word.text) stop) (bounded : Bounded stop.rest) :
    operandAt start = .ok (word.term, stop) := by
  cases word with
  | dollar => exact operandAt_of_dollar passes bounded (.inl rfl)
  | dollarHere => exact operandAt_of_dollar passes bounded (.inr rfl)
  | here => exact operandAt_of_plain passes bounded (List.all_eq_true.1 (by decide)) rfl rfl
  | number numeral =>
      obtain ⟨c, rest, front, digit⟩ := numeral.exists_text_eq_cons
      exact operandAt_of_plain passes bounded (fun _ => Numeral.isWordCharacter_of_mem_text) front
        (isAlphanum_of_isHexDigit digit)

/-- An operand is in parentheses, in brackets with a suffix, or a word. -/
theorem operandAt_eq_ok_cases (read : operandAt start = .ok (term, stop)) :
    (∃ next behind, start.next? = some ('(', next) ∧ termAt 0 next = .ok (term, behind) ∧
      behind.next? = some (')', stop)) ∨
    (∃ next address behind closed, ∃ suffix : Suffix, start.next? = some ('[', next) ∧
      termAt 0 next = .ok (address, behind) ∧ behind.next? = some (']', closed) ∧
      closed.Passes suffix.text stop ∧ term = .load suffix.load address) ∨
    ∃ gap : Gap, ∃ word : Word, start.Passes (gap.val ++ word.text) stop ∧ term = word.term := by
  rw [operandAt_eq] at read
  split at read
  · cases read
  rename_i c next found
  split at read
  · rename_i round
    obtain ⟨⟨inner, behind⟩, inside, closing⟩ := bind_eq_ok_iff.1 read
    obtain ⟨after, closed, ⟨⟩⟩ := bind_eq_ok_iff.1 closing
    exact .inl ⟨next, behind, round ▸ found, inside, closeAt_eq_ok_iff.1 closed⟩
  split at read
  · rename_i square
    obtain ⟨⟨address, behind⟩, inside, others⟩ := bind_eq_ok_iff.1 read
    obtain ⟨closed, closing, ending⟩ := bind_eq_ok_iff.1 others
    obtain ⟨⟨load, after⟩, suffixed, ⟨⟩⟩ := bind_eq_ok_iff.1 ending
    obtain ⟨suffix, rfl, letters, -⟩ := passes_of_suffixAt suffixed
    exact .inr (.inl ⟨next, address, behind, closed, suffix, square ▸ found, inside,
      closeAt_eq_ok_iff.1 closing, letters, rfl⟩)
  split at read
  · rename_i dollar
    subst dollar
    obtain ⟨-, gap, sign⟩ := next?_eq_some_iff.1 found
    have letters := sign.trans next.passes_skipWord
    rw [List.append_assoc, List.singleton_append] at letters
    split at read
    · rename_i known
      cases read
      rcases known with bare | named
      · rw [bare] at letters
        exact .inr (.inr ⟨gap, .dollar, letters, rfl⟩)
      · rw [named] at letters
        exact .inr (.inr ⟨gap, .dollarHere, letters, rfl⟩)
    · cases read
  split at read
  · obtain ⟨operand, named, ⟨⟩⟩ := bind_eq_ok_iff.1 read
    obtain ⟨word, text, rfl⟩ :=
      (readWord_eq_ok_iff start.skipBlanks.isWordCharacter_of_mem_word).1 named
    refine .inr (.inr ⟨start.gap, word, ?_, rfl⟩)
    rw [text]
    exact start.passes_gap.trans start.skipBlanks.passes_skipWord
  · cases read

end Operands

end BytePattern.Expression
