import BytePattern.Proofs.Expression.Operand

/-!
# How far the readers look

What a reader makes of a place depends on the text that it passes over and on the character behind
it, and a bracket behind it, or the end of the text, does as well as the character that is there. A
reader fails for one of two reasons. Either a word or a suffix is misspelt, or the reader is stuck
at a character that cannot stand there. What it has passed over when it is stuck is the beginning
of something that it reads.
-/

namespace BytePattern.Expression

open Text Cursor Grammar

/-- A text that ends here or goes on with a bracket. Brackets belong to no word, suffix or
operator. -/
def Shut (after : List Char) : Prop :=
  ∀ c ∈ after.head?, c ∈ ['(', ')', '[', ']']

/-- A text that a reader can find in the place of another one behind what it passes over. -/
def Replaces (other after : List Char) : Prop :=
  other.head? = after.head? ∨ Shut other

section Replaces

variable {c : Char} {text after other : List Char}

theorem shut_nil : Shut [] := by
  intro c front
  cases front

theorem shut_cons (bracket : c ∈ ['(', ')', '[', ']']) : Shut (c :: after) := by
  rintro _ ⟨⟩
  exact bracket

theorem Shut.append (shut : Shut text) (others : Shut after) : Shut (text ++ after) := by
  cases text with
  | nil => exact others
  | cons c rest => exact shut_cons (shut c rfl)

theorem Shut.forall_head? {test : Char → Bool} (shut : Shut after)
    (brackets : ['(', ')', '[', ']'].any test = false) : ∀ c ∈ after.head?, test c = false :=
  fun c front => Bool.eq_false_iff.2 (List.any_eq_false.1 brackets c (shut c front))

/-- What the next character is not, it is not in the other text either, if brackets are not. -/
theorem Replaces.forall_head? {test : Char → Bool} (replaces : Replaces other after)
    (brackets : ['(', ')', '[', ']'].any test = false)
    (front : ∀ c ∈ after.head?, test c = false) : ∀ c ∈ other.head?, test c = false := by
  rcases replaces with same | shut
  · rwa [same]
  · exact shut.forall_head? brackets

theorem Replaces.append (replaces : Replaces other after) :
    Replaces (text ++ other) (text ++ after) := by
  cases text with
  | nil => exact replaces
  | cons c rest => exact .inl rfl

end Replaces

/-! ## Places in front of other texts -/

namespace Cursor

/-- The same place in front of another text. -/
def facing (cursor : Cursor) (text : List Char) : Cursor :=
  ⟨cursor.column, text⟩

/-- The fault of a reader that is stuck at a place. -/
def fault (place : Cursor) : ExpressionError :=
  match place.rest with
  | [] => .unexpectedEnd
  | c :: _ => .unexpected c place.column

section Facing

variable {start next stop : Cursor} {c : Char} {text other : List Char}

theorem Passes.facing (passes : start.Passes text stop) (other : List Char) :
    (start.facing (text ++ other)).Passes text (stop.facing other) :=
  ⟨rfl, passes.column⟩

theorem facing_rest (start : Cursor) : start.facing start.rest = start :=
  rfl

theorem skipBlanks_facing (start : Cursor) (other : List Char)
    (ends : ∀ c ∈ other.head?, isBlank c = false) :
    (start.facing (start.gap.val ++ other)).skipBlanks = start.skipBlanks.facing other :=
  (start.passes_gap.facing other).skipWhile_eq start.gap.property ends

/-- The next character is met again, whatever stands behind it. -/
theorem next?_facing (found : start.next? = some (c, next)) :
    ∃ gap : Gap, start.Passes (gap.val ++ [c]) next ∧
      ∀ other, (start.facing (gap.val ++ [c] ++ other)).next? = some (c, next.facing other) := by
  obtain ⟨solid, gap, passes⟩ := next?_eq_some_iff.1 found
  exact ⟨gap, passes, fun other => next?_eq_some_iff.2 ⟨solid, gap, passes.facing other⟩⟩

end Facing

end Cursor

/-! ## Local readers -/

abbrev Reader (α : Type) : Type :=
  Cursor → Except ExpressionError (α × Cursor)

/-- A word or a suffix at a place, or ending there, is not one of the grammar. -/
def Misspelt (before : List Char) (place : Cursor) : ExpressionError → Prop
  | .invalidNumber text column =>
    place.column = column ∧ place.word = text.toList ∧ text ≠ "" ∧ text ≠ "here" ∧
      ∀ numeral : Numeral, (Word.number numeral).text ≠ text.toList
  | .unknownSymbol name column =>
    place.column = column ∧ ∃ next, place.Passes ['$'] next ∧ next.word = name.toList ∧
      name ≠ "" ∧ name ≠ "here"
  | .invalidLoadSize column =>
    place.column = column ∧
      (∃ front signed, before = front ++ ']' :: '.' :: Suffix.optional 's' signed) ∧
      ∀ width : Width, width.letter ∉ place.rest.head?
  | .unexpectedEnd | .unexpected _ _ => False

theorem Misspelt.append {before : List Char} {place : Cursor} {reason : ExpressionError}
    (misspelt : Misspelt before place reason) (text : List Char) :
    Misspelt (text ++ before) place reason := by
  cases reason with
  | invalidLoadSize column =>
      obtain ⟨column, ⟨front, signed, rfl⟩, other⟩ := misspelt
      exact ⟨column, ⟨text ++ front, signed, (List.append_assoc ..).symm⟩, other⟩
  | invalidNumber number column => exact misspelt
  | unknownSymbol name column => exact misspelt
  | unexpectedEnd => exact misspelt
  | unexpected found column => exact misspelt

section Local

variable {α β : Type} {start next : Cursor}

/-- A reader finishes what it reads with a given text, whatever may follow that is shut. -/
def FinishedBy (read : Reader α) (completion : List Char) : Prop :=
  ∀ (start : Cursor) (other : List Char), Shut other → start.rest = completion ++ other →
    ∃ value stop, read start = .ok (value, stop) ∧ stop.rest = other

/-- A reader is stuck at a place as long as the character there is the same, and what it has passed
over can be completed. -/
structure StuckAt (read : Reader α) (start : Cursor) (before : List Char) (place : Cursor)
    (reason : ExpressionError) : Prop where
  reason_eq : reason = place.fault
  fails : ∀ other : List Char, other.head? = place.rest.head? →
    read (start.facing (before ++ other)) = .error (place.facing other).fault
  completes : ∃ completion, Shut completion ∧ ∀ other, Shut other →
    ∃ value stop, read (start.facing (before ++ (completion ++ other))) = .ok (value, stop) ∧
      stop.rest = other

/-- A reader looks no further than at the character behind what it passes over. -/
structure LocalAt (read : Reader α) (start : Cursor) : Prop where
  passes : ∀ {value : α} {stop : Cursor}, read start = .ok (value, stop) →
    ∃ text, start.Passes text stop ∧ ∀ other, Replaces other stop.rest →
      read (start.facing (text ++ other)) = .ok (value, stop.facing other)
  fails : ∀ {reason : ExpressionError}, read start = .error reason →
    ∃ before place, start.Passes before place ∧
      (Misspelt before place reason ∨ StuckAt read start before place reason)

section Cases

variable {read inner : Reader α} {middle place : Cursor} {text before : List Char}
  {reason : ExpressionError}

theorem LocalAt.of_ok {value : α} {stop : Cursor} (success : read start = .ok (value, stop))
    (passes : start.Passes text stop)
    (again : ∀ other, Replaces other stop.rest →
      read (start.facing (text ++ other)) = .ok (value, stop.facing other)) :
    LocalAt read start where
  passes found := by
    rw [success] at found
    cases found
    exact ⟨text, passes, again⟩
  fails failure := by
    rw [success] at failure
    cases failure

theorem LocalAt.of_error (failure : read start = .error reason)
    (passes : start.Passes before place)
    (faulty : Misspelt before place reason ∨ StuckAt read start before place reason) :
    LocalAt read start where
  passes success := by
    rw [failure] at success
    cases success
  fails found := by
    rw [failure] at found
    cases found
    exact ⟨before, place, passes, faulty⟩

theorem LocalAt.done (value : α) (start : Cursor) :
    LocalAt (fun start => .ok (value, start)) start :=
  .of_ok rfl (passes_refl start) fun _ _ => rfl

/-- A reader that passes over a text first and then reads what another one reads behind it. -/
theorem LocalAt.after (passes : start.Passes text middle)
    (again : ∀ other, Replaces other middle.rest →
      read (start.facing (text ++ other)) = inner (middle.facing other))
    (inside : LocalAt inner middle) : LocalAt read start := by
  have same : read start = inner middle := by
    have own := again middle.rest (.inl rfl)
    rwa [← passes.rest, facing_rest, facing_rest] at own
  constructor
  · intro value stop success
    obtain ⟨others, more, further⟩ := inside.passes (same ▸ success)
    refine ⟨text ++ others, passes.trans more, fun other replaces => ?_⟩
    rw [List.append_assoc, again _ (more.rest ▸ replaces.append), further other replaces]
  · intro reason failure
    obtain ⟨before, place, more, misspelt | stuck⟩ := inside.fails (same ▸ failure)
    · exact ⟨text ++ before, place, passes.trans more, .inl (misspelt.append text)⟩
    · refine ⟨text ++ before, place, passes.trans more,
        .inr ⟨stuck.reason_eq, fun other front => ?_, ?_⟩⟩
      · rw [List.append_assoc, again _ (more.rest ▸ Replaces.append (.inl front)),
          stuck.fails other front]
      · obtain ⟨completion, shut, completes⟩ := stuck.completes
        refine ⟨completion, shut, fun other shutOther => ?_⟩
        rw [List.append_assoc, again _ (more.rest ▸ Replaces.append (.inr (shut.append shutOther)))]
        exact completes other shutOther

/-- A reader that does what another one does behind a certain character. -/
theorem LocalAt.of_next? (inner : Reader α) {c : Char} (found : start.next? = some (c, next))
    (agrees : ∀ {other behind : Cursor}, other.next? = some (c, behind) → read other = inner behind)
    (inside : LocalAt inner next) : LocalAt read start := by
  obtain ⟨gap, front, again⟩ := next?_facing found
  exact .after front (fun other _ => agrees (again other)) inside

/-- A reader that is stuck at the next character, or at the end, because it wants another one. -/
theorem LocalAt.of_stuck (wanted : Char → Prop) {completion : List Char}
    (stuck : ∀ other : Cursor, (∀ c ∈ other.skipBlanks.rest.head?, ¬ wanted c) →
      read other = .error other.skipBlanks.fault)
    (shut : Shut completion) (finishes : FinishedBy read completion)
    (blind : ∀ other : Cursor, read other.skipBlanks = read other)
    (unwanted : ∀ c ∈ start.skipBlanks.rest.head?, ¬ wanted c) : LocalAt read start := by
  refine .of_error (stuck start unwanted) start.passes_gap (.inr ⟨rfl, ?_, ?_⟩)
  · intro other same
    have skipped := start.skipBlanks_facing other (same ▸ start.isBlank_head?_skipBlanks)
    rw [← skipped]
    exact stuck _ (by rw [skipped]; exact same ▸ unwanted)
  · refine ⟨completion, shut, fun other shutOther => ?_⟩
    have skipped := start.skipBlanks_facing (completion ++ other)
      ((shut.append shutOther).forall_head? (by decide))
    rw [← blind, skipped]
    exact finishes _ other shutOther rfl

end Cases

/-- A reader that is stuck is completed, and the one behind it is finished. -/
theorem StuckAt.bind {first : Reader α} {second : α → Reader β} {before completion : List Char}
    {place : Cursor} {reason : ExpressionError} (stuck : StuckAt first start before place reason)
    (shut : Shut completion) (finishes : ∀ value, FinishedBy (second value) completion) :
    StuckAt (fun start => (first start).bind fun result => second result.1 result.2) start before
      place reason where
  reason_eq := stuck.reason_eq
  fails other same := by simp only [stuck.fails other same, Except.bind]
  completes := by
    obtain ⟨text, shutText, completes⟩ := stuck.completes
    refine ⟨text ++ completion, shutText.append shut, fun other shutOther => ?_⟩
    obtain ⟨value, middle, reached, rest⟩ := completes _ (shut.append shutOther)
    obtain ⟨result, stop, finished, ended⟩ := finishes value middle other shutOther rest
    refine ⟨result, stop, ?_, ended⟩
    simp only [List.append_assoc, reached, Except.bind, finished]

/-- One reader after the other. If the first one is stuck, its completion goes on with what the
second one is finished by. -/
theorem LocalAt.bind {first : Reader α} {second : α → Reader β} {completion : List Char}
    (shut : Shut completion) (finishes : ∀ value, FinishedBy (second value) completion)
    (front : LocalAt first start)
    (behind : ∀ {value middle}, first start = .ok (value, middle) → LocalAt (second value) middle) :
    LocalAt (fun start => (first start).bind fun result => second result.1 result.2) start := by
  cases read : first start with
  | ok result =>
      obtain ⟨value, middle⟩ := result
      obtain ⟨text, passes, again⟩ := front.passes read
      refine .after passes (fun other replaces => ?_) (behind read)
      rw [again other replaces, Except.bind]
  | error reason =>
      obtain ⟨before, place, passes, misspelt | stuck⟩ := front.fails read
      · exact .of_error (by rw [read, Except.bind]) passes (.inl misspelt)
      · exact .of_error (by rw [read, Except.bind]) passes (.inr (stuck.bind shut finishes))

end Local

end BytePattern.Expression
