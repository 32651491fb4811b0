import BytePattern.Proofs.Expression.Operand
import BytePattern.Proofs.Expression.Unambiguity

/-!
# Reading is deriving

The reader climbs by the levels of operators where the grammar has tiers. What it has read so far
is always a derivation of some part, and the next operator is not tighter than this part; so the
operator can be linked to the derivation, taken as one of the operator's own tier.
-/

namespace BytePattern.Expression

open Text Cursor Grammar

namespace Grammar

/-! ## Derivations that grow -/

theorem level_injective : Function.Injective Part.level := by
  intro part other same
  rcases part with (_ | _ | _ | _ | _) | _ <;> rcases other with (_ | _ | _ | _ | _) | _ <;>
    first | rfl | cases same

/-- A part that is tighter than another one is the operand of some tier. -/
theorem exists_eq_operandOf {part target : Part} (tighter : target.level < part.level) :
    ∃ tier, part = operandOf tier := by
  rcases part with (_ | _ | _ | _ | _) | _
  · rcases target with (_ | _ | _ | _ | _) | _ <;> exact absurd tighter (by decide)
  · exact ⟨.or, rfl⟩
  · exact ⟨.xor, rfl⟩
  · exact ⟨.and, rfl⟩
  · exact ⟨.sum, rfl⟩
  · exact ⟨.product, rfl⟩

/-- A derivation of a part is also one of every looser part, without operators of its own. -/
theorem Derivation.exists_loosened {part target : Part} (derivation : Derivation part)
    (looser : target.level ≤ part.level) :
    ∃ same : Derivation target, same.text = derivation.text ∧ same.term = derivation.term := by
  -- By induction on how much tighter the part is; each step makes it the only operand of a tier.
  obtain ⟨distance, apart⟩ := Nat.exists_eq_add_of_le looser
  induction distance generalizing part with
  | zero =>
      obtain rfl := level_injective apart
      exact ⟨derivation, rfl, rfl⟩
  | succ distance ih =>
      have tighter : target.level < part.level := by omega
      obtain ⟨tier, rfl⟩ := exists_eq_operandOf tighter
      rw [level_operandOf] at apart
      have nearer : (Part.tier tier).level = target.level + distance := by
        rw [Part.level]
        omega
      obtain ⟨same, text, term⟩ := ih (.chain derivation .nil) (by omega) nearer
      refine ⟨same, ?_, ?_⟩
      · rw [text, Derivation.text, Links.text, List.append_nil]
      · rw [term, Derivation.term, Links.join]

/-- One more link at the end. -/
def Links.snoc {tier : Tier} (gap : Gap) (operator : Operator) (fits : operator.tier = tier)
    (operand : Derivation (operandOf tier)) : Links tier → Links tier
  | .nil => .cons gap operator fits operand .nil
  | .cons first sign own second rest =>
    .cons first sign own second (rest.snoc gap operator fits operand)

section Snoc

variable {tier : Tier} {gap : Gap} {operator : Operator} {fits : operator.tier = tier}
  {operand : Derivation (operandOf tier)}

theorem Links.text_snoc : (links : Links tier) →
    (links.snoc gap operator fits operand).text =
      links.text ++ (gap.val ++ operator.sign :: operand.text)
  | .nil => by simp [Links.snoc, Links.text]
  | .cons _ _ _ _ rest => by simp [Links.snoc, Links.text, rest.text_snoc]

theorem Links.join_snoc : (links : Links tier) → (left : Term) →
    (links.snoc gap operator fits operand).join left =
      .binary operator (links.join left) operand.term
  | .nil, _ => by simp only [Links.snoc, Links.join]
  | .cons _ _ _ _ rest, left => by simp only [Links.snoc, Links.join, rest.join_snoc]

end Snoc

end Grammar

/-! ## What was read is derivable -/

/-- A derivation of the part that stands for the term was written from the start on, and at most
blanks between its end and the stop. -/
def Derives (part : Part) (term : Term) (start stop : Cursor) : Prop :=
  ∃ (derivation : Derivation part) (behind : Cursor), derivation.term = term ∧
    start.Passes derivation.text behind ∧ behind.skipBlanks = stop.skipBlanks

section Derives

variable {part target : Part} {floor : Nat} {left right term address : Term}
  {start origin next behind stop : Cursor}

theorem Derives.loosen (derives : Derives part term start stop)
    (looser : target.level ≤ part.level) : Derives target term start stop := by
  obtain ⟨derivation, behind, rfl, passes, blanks⟩ := derives
  obtain ⟨same, text, equal⟩ := derivation.exists_loosened looser
  exact ⟨same, behind, equal, text ▸ passes, blanks⟩

/-- The next character follows the blanks behind a derivation. -/
theorem Derives.next?_eq_some {c : Char} (derives : Derives part term start stop)
    (found : stop.next? = some (c, next)) :
    ∃ (derivation : Derivation part) (gap : Gap), derivation.term = term ∧
      start.Passes (derivation.text ++ (gap.val ++ [c])) next := by
  obtain ⟨derivation, behind, equal, passes, blanks⟩ := derives
  rw [← next?_congr blanks, next?_eq_some_iff] at found
  obtain ⟨-, gap, letter⟩ := found
  exact ⟨derivation, gap, equal, passes.trans letter⟩

/-- Links an operand to a derivation of the tier of the operator between them. -/
theorem Derives.link {operator : Operator}
    (leftward : Derives (.tier operator.tier) left origin start)
    (found : start.next? = some (operator.sign, next))
    (rightward : Derives (operandOf operator.tier) right next stop) :
    Derives (.tier operator.tier) (.binary operator left right) origin stop := by
  obtain ⟨derivation, gap, rfl, passes⟩ := leftward.next?_eq_some found
  obtain ⟨operand, behind, rfl, more, blanks⟩ := rightward
  cases derivation with
  | chain first rest =>
      refine ⟨.chain first (rest.snoc gap operator rfl operand), behind, ?_, ?_, blanks⟩
      · simp only [Derivation.term, Links.join_snoc]
      · have whole := passes.trans more
        simpa only [Derivation.text, Links.text_snoc, List.append_assoc, List.cons_append,
          List.nil_append] using whole

theorem Derives.parenthesized (opening : start.next? = some ('(', next))
    (inside : Derives (.tier .or) term next behind) (closing : behind.next? = some (')', stop)) :
    Derives .atom term start stop := by
  obtain ⟨-, gap, front⟩ := next?_eq_some_iff.1 opening
  obtain ⟨inner, blanks, rfl, passes⟩ := inside.next?_eq_some closing
  refine ⟨.group gap inner blanks, stop, by rw [Derivation.term], ?_, rfl⟩
  have whole := front.trans passes
  simpa only [Derivation.text, List.append_assoc, List.cons_append, List.nil_append] using whole

theorem Derives.bracketed {closed : Cursor} {suffix : Suffix}
    (opening : start.next? = some ('[', next))
    (inside : Derives (.tier .or) address next behind)
    (closing : behind.next? = some (']', closed)) (ending : closed.Passes suffix.text stop) :
    Derives .atom (.load suffix.load address) start stop := by
  obtain ⟨-, gap, front⟩ := next?_eq_some_iff.1 opening
  obtain ⟨inner, blanks, rfl, passes⟩ := inside.next?_eq_some closing
  refine ⟨.load gap inner blanks suffix, stop, by rw [Derivation.term], ?_, rfl⟩
  have whole := front.trans (passes.trans ending)
  simpa only [Derivation.text, List.append_assoc, List.cons_append, List.nil_append] using whole

end Derives

theorem stopsAt_of_level_lt {floor : Nat} {start : Cursor} (high : 6 < floor) :
    StopsAt floor start := by
  intro operator _ _
  cases operator <;> simp only [Operator.level] <;> omega

/-- Every operator belongs to the loosest part, and any operand is tighter than that. -/
theorem or_loose (operator : Operator) (_ : 0 ≤ operator.level) :
    (Part.tier .or).level ≤ operator.level := by
  cases operator <;> decide

theorem operandOf_loose (tier : Tier) (operator : Operator)
    (tight : tier.level + 1 ≤ operator.level) : (operandOf tier).level ≤ operator.level :=
  level_operandOf tier ▸ tight

theorem operandOf_le_atom (tier : Tier) : (operandOf tier).level ≤ Part.atom.level := by
  cases tier <;> decide

mutual

-- These recursions are those of the readers. The invariant is that what was read so far derives from
-- a part to which the next operator is not too tight, and that the target is loose enough for every
-- operator that the floor lets pass.
theorem derives_of_termAt {floor : Nat} {target : Part} {term : Term} {start stop : Cursor}
    (loose : ∀ operator : Operator, floor ≤ operator.level → target.level ≤ operator.level)
    (bound : target.level ≤ Part.atom.level)
    (read : termAt floor start = .ok (term, stop)) :
    Derives target term start stop ∧ StopsAt floor stop := by
  rw [termAt_eq] at read
  obtain ⟨⟨left, behind⟩, operand, operators⟩ := bind_eq_ok_iff.1 read
  have nearer := length_lt_of_operandAt operand
  exact derives_of_operatorsAt loose bound (derives_of_operandAt operand)
    (stopsAt_of_level_lt (by decide)) operators
termination_by (start.rest.length, 2)

theorem derives_of_operatorsAt {floor : Nat} {part target : Part} {left term : Term}
    {origin start stop : Cursor}
    (loose : ∀ operator : Operator, floor ≤ operator.level → target.level ≤ operator.level)
    (bound : target.level ≤ part.level) (leftward : Derives part left origin start)
    (next : StopsAt (part.level + 1) start)
    (read : operatorsAt floor left start = .ok (term, stop)) :
    Derives target term origin stop ∧ StopsAt floor stop := by
  rcases operatorsAt_eq_ok_cases read with
    ⟨stops, rfl, rfl⟩ | ⟨operator, next', right, behind, found, tight, operand, others⟩
  · obtain ⟨derivation, behind, equal, passes, blanks⟩ := leftward.loosen bound
    refine ⟨⟨derivation, behind, equal, passes, ?_⟩, stops.congr ?_⟩
    · rw [blanks, skipBlanks_skipBlanks]
    · rw [skipBlanks_skipBlanks]
  · have after := length_lt_of_next? found
    have farther := length_lt_of_termAt operand
    rw [Operator.level_eq] at operand
    obtain ⟨rightward, stops⟩ :=
      derives_of_termAt (operandOf_loose operator.tier) (operandOf_le_atom operator.tier) operand
    -- The next operator is not tighter than what was read, which is thus a left operand of it.
    have own : Derives (.tier operator.tier) left origin start := by
      refine leftward.loosen ?_
      have := next operator next' found
      rw [Operator.level_eq] at this
      exact Nat.le_of_lt_succ this
    refine derives_of_operatorsAt loose ?_ (own.link found rightward) ?_ others
    · rw [Part.level, ← Operator.level_eq]
      exact loose operator tight
    · exact stops
termination_by (start.rest.length, 1)

theorem derives_of_operandAt {term : Term} {start stop : Cursor}
    (read : operandAt start = .ok (term, stop)) : Derives .atom term start stop := by
  rcases operandAt_eq_ok_cases read with
    ⟨next, behind, opening, inside, closing⟩ |
    ⟨next, address, behind, closed, suffix, opening, inside, closing, ending, rfl⟩ |
    ⟨gap, word, passes, rfl⟩
  · have shorter := length_lt_of_next? opening
    have inner := derives_of_termAt or_loose (by decide) inside
    exact .parenthesized opening inner.1 closing
  · have shorter := length_lt_of_next? opening
    have inner := derives_of_termAt or_loose (by decide) inside
    exact .bracketed opening inner.1 closing ending
  · exact ⟨.word gap word, stop, rfl, passes, rfl⟩
termination_by (start.rest.length, 0)

end

/-! ## What is derivable is read -/

section Stopping

variable {part : Part} {tier : Tier} {floor : Nat} {start next : Cursor}

theorem Grammar.Closes.stopsAt (closes : Closes part start.rest) : StopsAt part.level start := by
  intro operator next found
  rw [Operator.level_eq]
  refine closes.looser operator ?_
  obtain ⟨solid, gap, passes⟩ := next?_eq_some_iff.1 found
  rw [passes.rest, List.append_assoc, List.singleton_append, dropWhile_gap gap solid]
  rfl

theorem stopsAt_of_bracket {c : Char} (found : start.next? = some (c, next))
    (closing : c = ')' ∨ c = ']') : StopsAt floor start := by
  intro operator other same
  rw [found] at same
  cases same
  cases operator <;> simp [Operator.sign] at closing

theorem closes_of_bracket {c : Char} (found : start.next? = some (c, next))
    (closing : c = ')' ∨ c = ']') : Closes part start.rest := by
  obtain ⟨-, gap, passes⟩ := next?_eq_some_iff.1 found
  rw [passes.rest, List.append_assoc]
  exact closes_bracket closing gap _

/-- A text in brackets starts behind the opening one and ends before the closing one. -/
theorem Cursor.Passes.enclosed {stop : Cursor} {gap blanks : Gap} {opening closing : Char}
    {inside : List Char}
    (passes : start.Passes (gap.val ++ opening :: (inside ++ (blanks.val ++ [closing]))) stop)
    (solid : isBlank opening = false) (solid' : isBlank closing = false) :
    ∃ next behind, start.next? = some (opening, next) ∧ next.Passes inside behind ∧
      behind.next? = some (closing, stop) := by
  rw [← List.singleton_append, ← List.append_assoc] at passes
  obtain ⟨next, front, others⟩ := passes.split
  obtain ⟨behind, text, back⟩ := others.split
  exact ⟨next, behind, next?_eq_some_iff.2 ⟨solid, gap, front⟩, text,
    next?_eq_some_iff.2 ⟨solid', blanks, back⟩⟩

end Stopping

mutual

-- The induction is on the derivation. The reader passes over it with its term in hand, since the
-- floor lets pass all of its operators; what it makes of the rest of the text is left open.
theorem Grammar.Derivation.termAt_eq {part : Part} {start stop : Cursor} :
    (derivation : Derivation part) → start.Passes derivation.text stop → Closes part stop.rest →
      ∀ floor ≤ part.level, termAt floor start = operatorsAt floor derivation.term stop
  | .group gap inner closing, passes, closes, floor, _ => by
      obtain ⟨next, behind, opening, inside, closed⟩ := passes.enclosed rfl rfl
      have read : termAt 0 next = .ok (inner.term, behind.skipBlanks) := by
        rw [inner.termAt_eq inside (closes_of_bracket closed (.inl rfl)) 0 (Nat.zero_le _),
          operatorsAt_of_stopsAt (stopsAt_of_bracket closed (.inl rfl))]
      rw [Expression.termAt_eq,
        operandAt_of_parenthesis opening read (by rw [next?_skipBlanks, closed])]
      rfl
  | .load gap address closing suffix, passes, closes, floor, _ => by
      have parts : start.Passes ((gap.val ++ '[' :: (address.text ++ (closing.val ++ [']']))) ++
          suffix.text) stop := by
        simpa only [Derivation.text, List.append_assoc, List.cons_append, List.nil_append]
          using passes
      obtain ⟨after, enclosed, ending⟩ := parts.split
      obtain ⟨next, behind, opening, inside, closed⟩ := enclosed.enclosed rfl rfl
      have read : termAt 0 next = .ok (address.term, behind.skipBlanks) := by
        rw [address.termAt_eq inside (closes_of_bracket closed (.inr rfl)) 0 (Nat.zero_le _),
          operatorsAt_of_stopsAt (stopsAt_of_bracket closed (.inr rfl))]
      rw [Expression.termAt_eq,
        operandAt_of_bracket opening read (by rw [next?_skipBlanks, closed])
          (suffixAt_of_passes ending closes.bounded)]
      rfl
  | .word gap word, passes, closes, floor, _ => by
      rw [Expression.termAt_eq, operandAt_of_word passes closes.bounded]
      rfl
  | .chain first rest, passes, closes, floor, tight => by
      obtain ⟨middle, front, links⟩ := passes.split
      rw [first.termAt_eq front (links.rest ▸ closes.operand rest) floor
        (by rw [level_operandOf]; exact Nat.le_succ_of_le tight)]
      exact rest.operatorsAt_eq links closes floor tight

theorem Grammar.Links.operatorsAt_eq {tier : Tier} {left : Term} {start stop : Cursor} :
    (links : Links tier) → start.Passes links.text stop → Closes (.tier tier) stop.rest →
      ∀ floor ≤ tier.level,
        operatorsAt floor left start = operatorsAt floor (links.join left) stop
  | .nil, passes, closes, floor, tight => by
      rw [(passes_refl start).stop_unique passes]
      rfl
  | .cons gap operator fits operand rest, passes, closes, floor, tight => by
      rw [Links.text, ← List.singleton_append, ← List.append_assoc] at passes
      obtain ⟨next, sign, others⟩ := passes.split
      obtain ⟨behind, own, links⟩ := others.split
      have follows : Closes (operandOf tier) behind.rest := links.rest ▸ closes.operand rest
      have level : (operandOf tier).level = operator.level + 1 := by
        rw [level_operandOf, Operator.level_eq, fits]
      have read : termAt (operator.level + 1) next = .ok (operand.term, behind.skipBlanks) := by
        rw [← level, operand.termAt_eq own follows _ (Nat.le_refl _),
          operatorsAt_of_stopsAt follows.stopsAt]
      rw [operatorsAt_of_sign (next?_eq_some_iff.2 ⟨isBlank_sign operator, gap, sign⟩)
        (by rwa [Operator.level_eq, fits]) read, operatorsAt_skipBlanks,
        rest.operatorsAt_eq links closes floor tight]
      rfl

end

/-! ## The language of expressions -/

def Grammar.Sentence.WordsMaximal (sentence : Sentence) : Prop :=
  sentence.root.WordsMaximal [] sentence.trailing.val

/-- A sentence is read up to the blanks at its end. -/
theorem exists_termAt_of_sentence (sentence : Sentence) (column : Nat) :
    ∃ stop, termAt 0 ⟨column, sentence.text⟩ = .ok (sentence.term, stop) ∧ stop.next? = none := by
  obtain ⟨root, trailing⟩ := sentence
  have passes : Passes ⟨column, root.text ++ trailing.val⟩ root.text
      ⟨column + width root.text, trailing.val⟩ := ⟨rfl, rfl⟩
  have ended : Cursor.next? ⟨column + width root.text, trailing.val⟩ = none :=
    next?_of_nil (dropWhile_gap_nil trailing)
  have stops : StopsAt 0 ⟨column + width root.text, trailing.val⟩ := by
    intro operator next found
    rw [ended] at found
    cases found
  refine ⟨_, ?_, (next?_skipBlanks _).trans ended⟩
  rw [Sentence.text, root.termAt_eq passes (closes_gap trailing) 0 (Nat.zero_le _),
    operatorsAt_of_stopsAt stops, Sentence.term]

theorem exists_sentence_of_termAt {column : Nat} {text : List Char} {root : Term} {stop : Cursor}
    (read : termAt 0 ⟨column, text⟩ = .ok (root, stop)) (ended : stop.next? = none) :
    ∃ sentence : Sentence, sentence.text = text ∧ sentence.term = root := by
  obtain ⟨⟨derivation, behind, term, passes, blanks⟩, -⟩ :=
    derives_of_termAt or_loose (by decide) read
  have nothing : behind.skipBlanks.rest = [] := by
    rw [blanks]
    exact next?_eq_none_iff.1 ended
  have trailing := behind.passes_gap.rest
  rw [nothing, List.append_nil] at trailing
  refine ⟨⟨derivation, behind.gap⟩, ?_, term⟩
  rw [Sentence.text, ← trailing]
  exact passes.rest.symm

/-- A text is read exactly if it is a sentence of the grammar, as the term that the sentence stands
for. No text is two sentences, and the words of a sentence are maximal runs of word characters. -/
theorem read_eq_ok_iff_sentence (source : String) :
    (∀ expression, Expression.read source = .ok expression ↔
      expression.source = String.ofList (trim source.toList) ∧
        ∃ sentence : Sentence, sentence.text = source.toList ∧ sentence.term = expression.root) ∧
    (∀ sentence other : Sentence, sentence.text = source.toList → other.text = source.toList →
      sentence = other) ∧
    ∀ sentence : Sentence, sentence.text = source.toList → sentence.WordsMaximal := by
  refine ⟨fun expression => ⟨fun read => ?_, ?_⟩, ?_, ?_⟩
  · rw [read_eq] at read
    obtain ⟨⟨root, stop⟩, term, rest⟩ := bind_eq_ok_iff.1 read
    split at rest
    · rename_i ended
      cases rest
      exact ⟨rfl, exists_sentence_of_termAt term ended⟩
    · cases rest
  · rintro ⟨trimmed, sentence, text, root⟩
    obtain ⟨stop, term, ended⟩ := exists_termAt_of_sentence sentence 0
    rw [text] at term
    rw [read_eq, term, Except.bind]
    simp only [ended, ← trimmed, root]
  · intro sentence other text text'
    exact Sentence.text_injective (text.trans text'.symm)
  · intro sentence _
    exact sentence.root.wordsMaximal (fun _ last => by cases last) (closes_gap sentence.trailing)

end BytePattern.Expression
