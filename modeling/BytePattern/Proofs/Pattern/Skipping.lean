import BytePattern.Pattern.Occurrence

/-!
# Skipping windows

Read from its end, a token list with a fixed token consists of some wildcards, the anchor and the
tokens before the anchor. The shift of a byte is the distance from the anchor to the nearest of
these earlier tokens that admits the byte. A window that starts nearer than the shift of the byte
under the anchor puts a token over that byte that does not admit it, so no occurrence is skipped.
-/

namespace BytePattern

namespace Anchor

/-- Read from the end: wildcards, the anchor, and the tokens before it, whose leading fixed
bytes are the run that the shift table looks up. -/
theorem reversed_eq_of_ofReversed? {reversed : List Token} {anchor : Anchor}
    (found : ofReversed? reversed = some anchor) :
    ∃ wildcards before,
      reversed = List.replicate wildcards .wildcard ++ .fixed anchor.byte :: before ∧
        anchor.index = before.length ∧ runOfReversed reversed = fixedRun before := by
  induction reversed with
  | nil => simp [ofReversed?] at found
  | cons token before ih =>
      cases token with
      | fixed byte =>
          simp only [ofReversed?, Option.some.injEq] at found
          subst found
          exact ⟨0, before, rfl, rfl, rfl⟩
      | wildcard =>
          obtain ⟨wildcards, earlier, split, index, run⟩ :=
            ih (by simpa [ofReversed?] using found)
          refine ⟨wildcards + 1, earlier, ?_, index, ?_⟩
          · rw [split, List.replicate_succ, List.cons_append]
          · simpa [runOfReversed] using run

theorem eq_wildcard_of_ofReversed?_eq_none {reversed : List Token} {token : Token}
    (absent : ofReversed? reversed = none) (member : token ∈ reversed) : token = .wildcard := by
  induction reversed with
  | nil => cases member
  | cons first before ih =>
      cases first with
      | fixed byte => simp [ofReversed?] at absent
      | wildcard =>
          rcases List.mem_cons.1 member with here | earlier
          · exact here
          · exact ih (by simpa [ofReversed?] using absent) earlier

theorem eq_wildcard_of_ofTokens?_eq_none {tokens : List Token} {token : Token}
    (absent : ofTokens? tokens = none) (member : token ∈ tokens) : token = .wildcard :=
  eq_wildcard_of_ofReversed?_eq_none absent (List.mem_reverse.2 member)

/-- The token at the anchor is fixed, and the run is read backwards from it. -/
theorem anchored_of_ofTokens? {tokens : List Token} {anchor : Anchor}
    (found : ofTokens? tokens = some anchor) :
    tokens[anchor.index]? = some (.fixed anchor.byte) ∧
      runBefore tokens = fixedRun (tokens.take anchor.index).reverse := by
  obtain ⟨wildcards, before, split, index, run⟩ := reversed_eq_of_ofReversed? found
  have forwards : tokens =
      before.reverse ++ .fixed anchor.byte :: List.replicate wildcards .wildcard := by
    rw [← List.reverse_reverse tokens, split]
    simp
  have atAnchor : anchor.index = before.reverse.length := by simpa using index
  refine ⟨?_, ?_⟩
  · rw [forwards, atAnchor, List.getElem?_append_right (Nat.le_refl _)]
    simp
  · rw [runBefore, run, forwards, atAnchor, List.take_left, List.reverse_reverse]

/-- The run of fixed bytes ends at the first wildcard, which admits every byte. -/
theorem findIdx_fixedRun (tokens : List Token) (byte : UInt8) :
    (fixedRun tokens).findIdx (· == byte) = tokens.findIdx (·.admits byte) := by
  induction tokens with
  | nil => rfl
  | cons token rest ih =>
      cases token with
      | wildcard => simp [fixedRun, List.findIdx_cons, Token.admits]
      | fixed first => simp [fixedRun, List.findIdx_cons, Token.admits, ih]

end Anchor

namespace ShiftTable

/-- Read backwards from a place, a list starts with what stands just before that place. -/
theorem getElem_reverse_take {tokens : List Token} {index distance : Nat}
    (inside : index ≤ tokens.length) (near : distance < (tokens.take index).reverse.length) :
    tokens[index - (distance + 1)]? = some (tokens.take index).reverse[distance] := by
  have bound : distance < index := by simpa [inside] using near
  simp only [List.getElem_reverse, List.getElem_take, List.length_take, Nat.min_eq_left inside]
  rw [List.getElem?_eq_getElem (by omega)]
  congr 2
  omega

/-- The shift counts the tokens before the anchor up to the first that admits the byte. -/
theorem get_eq_findIdx {tokens : List Token} {anchor : Anchor}
    (found : Anchor.ofTokens? tokens = some anchor) (byte : UInt8) :
    (ofTokens tokens).get byte =
      (tokens.take anchor.index).reverse.findIdx (·.admits byte) + 1 := by
  rw [get_ofTokens, (Anchor.anchored_of_ofTokens? found).2, Anchor.findIdx_fixedRun]

/-- Nearer to the anchor than the shift of a byte there are only fixed tokens of other bytes. -/
theorem fixed_of_lt_get {tokens : List Token} {anchor : Anchor} {byte : UInt8} {distance : Nat}
    (found : Anchor.ofTokens? tokens = some anchor) (pos : 0 < distance)
    (near : distance < (ofTokens tokens).get byte) :
    distance ≤ anchor.index ∧
      ∃ other, other ≠ byte ∧ tokens[anchor.index - distance]? = some (.fixed other) := by
  have inside := Nat.le_of_lt (Anchor.index_lt_of_ofTokens? found)
  rw [get_eq_findIdx found] at near
  have beforeFirst :
      distance - 1 < (tokens.take anchor.index).reverse.findIdx (·.admits byte) := by omega
  have within := Nat.lt_of_lt_of_le beforeFirst List.findIdx_le_length
  have refused := List.not_of_lt_findIdx beforeFirst
  have here := getElem_reverse_take inside within
  rw [Nat.sub_add_cancel pos] at here
  rw [List.length_reverse, List.length_take_of_le inside] at within
  refine ⟨by omega, ?_⟩
  cases token : (tokens.take anchor.index).reverse[distance - 1] with
  | wildcard => simp [token, Token.admits] at refused
  | fixed other =>
      refine ⟨other, ?_, token ▸ here⟩
      rintro rfl
      simp [token, Token.admits] at refused

end ShiftTable

namespace Pattern

theorem anchor_byte_of_occursAt {pattern : Pattern} {data : Bytes} {anchor : Anchor}
    {offset : Nat} {byte : UInt8} (anchored : pattern.anchor = some anchor)
    (seen : data[offset + anchor.index]? = some byte) (occurs : pattern.OccursAt data offset) :
    byte = anchor.byte := by
  have found := pattern.anchor_eq ▸ anchored
  have admitted := occurs.2 anchor.index _ byte (Anchor.anchored_of_ofTokens? found).1 seen
  exact ((Token.fixed_admits_iff _ _).1 admitted).symm

/-- Between a window and the one that its anchor byte shifts to, the pattern does not occur. -/
theorem not_occursAt_of_skipped {pattern : Pattern} {data : Bytes} {anchor : Anchor}
    {position offset : Nat} {byte : UInt8} (anchored : pattern.anchor = some anchor)
    (seen : data[position + anchor.index]? = some byte) (after : position < offset)
    (before : offset < position + pattern.shifts.get byte) :
    ¬ pattern.OccursAt data offset := by
  intro occurs
  have found := pattern.anchor_eq ▸ anchored
  rw [pattern.shifts_eq] at before
  have positive : 0 < offset - position := by omega
  have near : offset - position < (ShiftTable.ofTokens pattern.tokens).get byte := by omega
  obtain ⟨within, other, differs, token⟩ := ShiftTable.fixed_of_lt_get found positive near
  have sameByte : offset + (anchor.index - (offset - position)) = position + anchor.index := by
    omega
  have admitted := occurs.2 _ (.fixed other) byte token (sameByte ▸ seen)
  exact differs ((Token.fixed_admits_iff _ _).1 admitted)

end Pattern

end BytePattern
