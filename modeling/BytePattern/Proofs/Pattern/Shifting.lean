import BytePattern.Proofs.Pattern.Skipping
import Mathlib.Order.Bounds.Basic

/-!
# The shift table is exact

The shift of a byte is the distance from the anchor back to the nearest token that admits the byte,
or past the first token if there is none. A search that has seen the byte under the anchor may move
on by that much and by no more: no window in between can match, while the one at that distance does
match in some data.
-/

namespace BytePattern

namespace Anchor

/-- The last fixed token of a list: all tokens behind it are wildcards. -/
structure IsLastFixed (tokens : List Token) (anchor : Anchor) : Prop where
  fixed : tokens[anchor.index]? = some (.fixed anchor.byte)
  wildcards : ∀ token ∈ tokens.drop (anchor.index + 1), token = .wildcard

variable {tokens : List Token} {anchor : Anchor}

theorem IsLastFixed.index_lt (last : IsLastFixed tokens anchor) : anchor.index < tokens.length :=
  (List.getElem?_eq_some_iff.1 last.fixed).1

/-- What stands before the last fixed token can be anything. -/
theorem IsLastFixed.tokens_eq (last : IsLastFixed tokens anchor) :
    tokens = tokens.take anchor.index ++ .fixed anchor.byte ::
      List.replicate (tokens.length - (anchor.index + 1)) .wildcard := by
  have behind : tokens.drop (anchor.index + 1) =
      List.replicate (tokens.length - (anchor.index + 1)) .wildcard := by
    rw [List.eq_replicate_iff]
    exact ⟨List.length_drop, last.wildcards⟩
  obtain ⟨small, here⟩ := List.getElem?_eq_some_iff.1 last.fixed
  rw [← behind, ← here, ← List.drop_eq_getElem_cons, List.take_append_drop]

theorem IsLastFixed.take (last : IsLastFixed tokens anchor) :
    IsLastFixed (tokens.take (anchor.index + 1)) anchor where
  fixed := by rw [List.getElem?_take_of_lt (Nat.lt_succ_self _), last.fixed]
  wildcards := by simp

theorem ofReversed?_replicate_append (count : Nat) (reversed : List Token) :
    ofReversed? (List.replicate count .wildcard ++ reversed) = ofReversed? reversed := by
  induction count with
  | zero => rfl
  | succ count ih => rw [List.replicate_succ, List.cons_append, ofReversed?, ih]

theorem runOfReversed_replicate_append (count : Nat) (reversed : List Token) :
    runOfReversed (List.replicate count .wildcard ++ reversed) = runOfReversed reversed := by
  induction count with
  | zero => rfl
  | succ count ih => rw [List.replicate_succ, List.cons_append, runOfReversed, ih]

theorem IsLastFixed.ofTokens?_eq (last : IsLastFixed tokens anchor) :
    ofTokens? tokens = some anchor := by
  have inside := last.index_lt
  rw [last.tokens_eq, ofTokens?, List.reverse_append, List.reverse_cons, List.reverse_replicate,
    List.append_assoc, ofReversed?_replicate_append]
  simp only [List.singleton_append, ofReversed?, List.length_reverse, List.length_take]
  rw [Nat.min_eq_left (Nat.le_of_lt inside)]

end Anchor

namespace ShiftTable

/-- Whether a window that follows at this distance could match with the byte where the token at
the index was: the token that then lies over the byte admits it, or none lies there any more. -/
structure Reaches (tokens : List Token) (index : Nat) (byte : UInt8) (distance : Nat) : Prop where
  pos : 1 ≤ distance
  le : distance ≤ index + 1
  admits : distance = index + 1 ∨
    ∃ token, tokens[index - distance]? = some token ∧ token.admits byte = true

variable {tokens : List Token} {anchor : Anchor} {byte : UInt8}

theorem reaches_get (found : Anchor.ofTokens? tokens = some anchor) (byte : UInt8) :
    Reaches tokens anchor.index byte ((ofTokens tokens).get byte) := by
  have inside := Nat.le_of_lt (Anchor.index_lt_of_ofTokens? found)
  have length : (tokens.take anchor.index).reverse.length = anchor.index := by simp [inside]
  have bound : (tokens.take anchor.index).reverse.findIdx (·.admits byte) ≤
      (tokens.take anchor.index).reverse.length := List.findIdx_le_length
  rw [get_eq_findIdx found]
  refine ⟨by omega, by omega, ?_⟩
  rcases Nat.lt_or_ge ((tokens.take anchor.index).reverse.findIdx (·.admits byte))
    (tokens.take anchor.index).reverse.length with near | past
  · right
    exact ⟨_, getElem_reverse_take inside near, List.findIdx_getElem (w := near)⟩
  · left
    omega

theorem get_le_of_reaches {distance : Nat} (found : Anchor.ofTokens? tokens = some anchor)
    (reaches : Reaches tokens anchor.index byte distance) :
    (ofTokens tokens).get byte ≤ distance := by
  by_contra passed
  obtain ⟨within, other, differs, token⟩ :=
    fixed_of_lt_get found reaches.pos (Nat.lt_of_not_le passed)
  rcases reaches.admits with past | ⟨_, here, admitted⟩
  · omega
  · cases here.symm.trans token
    exact differs ((Token.fixed_admits_iff _ _).1 admitted)

theorem isLeast_get (found : Anchor.ofTokens? tokens = some anchor) (byte : UInt8) :
    IsLeast {distance | Reaches tokens anchor.index byte distance}
      ((ofTokens tokens).get byte) :=
  ⟨reaches_get found byte, fun _ => get_le_of_reaches found⟩

/-- The run before the anchor is not changed by leaving out what stands behind the anchor. -/
theorem ofTokens_take (last : Anchor.IsLastFixed tokens anchor) :
    ofTokens (tokens.take (anchor.index + 1)) = ofTokens tokens := by
  rw [ofTokens, ofTokens, (Anchor.anchored_of_ofTokens? last.ofTokens?_eq).2,
    (Anchor.anchored_of_ofTokens? last.take.ofTokens?_eq).2, List.take_take,
    Nat.min_eq_left (Nat.le_succ _)]

theorem get_eq_one (absent : ∀ token ∈ tokens, token = .wildcard) (byte : UInt8) :
    (ofTokens tokens).get byte = 1 := by
  have whole : tokens.reverse = List.replicate tokens.length .wildcard ++ [] := by
    rw [List.append_nil, List.eq_replicate_iff]
    refine ⟨List.length_reverse, fun token member => absent token ?_⟩
    exact List.mem_reverse.1 member
  rw [get_ofTokens, Anchor.runBefore, whole, Anchor.runOfReversed_replicate_append]
  rfl

theorem get_le_length (nonempty : tokens ≠ []) (byte : UInt8) :
    (ofTokens tokens).get byte ≤ tokens.length := by
  cases found : Anchor.ofTokens? tokens with
  | none =>
      rw [get_eq_one (fun _ => Anchor.eq_wildcard_of_ofTokens?_eq_none found)]
      exact List.length_pos_iff.2 nonempty
  | some anchor =>
      have inside := Anchor.index_lt_of_ofTokens? found
      have bound := (reaches_get found byte).le
      omega

end ShiftTable

namespace Pattern

/-- Whether a search that sees the byte under the token at the index may move on by the distance:
whatever the data, the pattern occurs at none of the offsets in between. -/
def MayShift (pattern : Pattern) (index : Nat) (byte : UInt8) (distance : Nat) : Prop :=
  ∀ (data : Bytes) (position offset : Nat), data[position + index]? = some byte →
    position < offset → offset < position + distance → ¬ pattern.OccursAt data offset

/-- Data in which the pattern occurs at the distance, while the byte at the index is given: every
other byte is that of the token over it. -/
def dataReaching (pattern : Pattern) (index : Nat) (byte : UInt8) (distance : Nat) : Bytes :=
  Array.ofFn fun (place : Fin (distance + pattern.span)) =>
    if place.val = index then byte
    else (pattern.tokens[place.val - distance]?.bind Token.byte?).getD 0

variable {pattern : Pattern} {index distance : Nat} {byte : UInt8}

theorem dataReaching_getElem? {place : Nat} (inside : place < distance + pattern.span) :
    (pattern.dataReaching index byte distance)[place]? = some (if place = index then byte
      else (pattern.tokens[place - distance]?.bind Token.byte?).getD 0) := by
  simp [dataReaching, inside]

theorem dataReaching_index (small : index < pattern.span) :
    (pattern.dataReaching index byte distance)[index]? = some byte := by
  rw [dataReaching_getElem? (Nat.lt_add_left _ small), if_pos rfl]

theorem occursAt_dataReaching (reaches : ShiftTable.Reaches pattern.tokens index byte distance) :
    pattern.OccursAt (pattern.dataReaching index byte distance) distance := by
  refine ⟨by simp [dataReaching], fun place token found isToken isFound => ?_⟩
  have inside : place < pattern.span := (List.getElem?_eq_some_iff.1 isToken).1
  rw [dataReaching_getElem? (by omega), Option.some.injEq] at isFound
  subst isFound
  by_cases under : distance + place = index
  · -- The token lies over the given byte, so the distance does not lead past the first token.
    rw [if_pos under]
    rcases reaches.admits with past | ⟨other, here, admitted⟩
    · omega
    · rw [← under, Nat.add_sub_cancel_left, isToken] at here
      cases here
      exact admitted
  · rw [if_neg under, Nat.add_sub_cancel_left, isToken]
    cases token <;> simp [Token.byte?]

theorem le_of_mayShift {shift : Nat} (small : index < pattern.span)
    (reaches : ShiftTable.Reaches pattern.tokens index byte distance)
    (may : pattern.MayShift index byte shift) : shift ≤ distance := by
  by_contra farther
  have seen : (pattern.dataReaching index byte distance)[0 + index]? = some byte := by
    rw [Nat.zero_add]
    exact dataReaching_index small
  exact may _ 0 distance seen reaches.pos (by omega) (occursAt_dataReaching reaches)

end Pattern

namespace ShiftTable

/-- Every shift is the least distance back from the last fixed token at which a token admits the
byte, or one past the first token; the tokens behind the last fixed one do not count, and without
any fixed token all shifts are one. A search that sees the byte under the last fixed token may move
on by the shift, and by no more, since in some data the pattern occurs just there. -/
theorem get_isLeast_reaching_distance (tokens : List Token) (byte : UInt8) :
    (∀ anchor, Anchor.IsLastFixed tokens anchor →
      Anchor.ofTokens? tokens = some anchor ∧
      IsLeast {distance | Reaches tokens anchor.index byte distance}
        ((ofTokens tokens).get byte) ∧
      ofTokens (tokens.take (anchor.index + 1)) = ofTokens tokens ∧
      ∀ pattern : Pattern, pattern.tokens = tokens →
        IsGreatest {distance | pattern.MayShift anchor.index byte distance}
          (pattern.shifts.get byte) ∧
        ∃ (data : Bytes) (position : Nat), data[position + anchor.index]? = some byte ∧
          pattern.OccursAt data (position + pattern.shifts.get byte)) ∧
    ((∀ token ∈ tokens, token = .wildcard) → (ofTokens tokens).get byte = 1) ∧
    1 ≤ (ofTokens tokens).get byte ∧
    (tokens ≠ [] → (ofTokens tokens).get byte ≤ tokens.length) := by
  refine ⟨fun anchor last => ?_, fun absent => get_eq_one absent byte,
    (ofTokens tokens).get_pos byte, fun nonempty => get_le_length nonempty byte⟩
  have found := last.ofTokens?_eq
  refine ⟨found, isLeast_get found byte, ofTokens_take last, ?_⟩
  rintro pattern rfl
  have reaches := reaches_get found byte
  rw [← pattern.shifts_eq] at reaches
  refine ⟨⟨?_, fun shift may => Pattern.le_of_mayShift last.index_lt reaches may⟩, ?_⟩
  · intro data position offset seen after before
    exact Pattern.not_occursAt_of_skipped (pattern.anchor_eq.trans found) seen after before
  · refine ⟨pattern.dataReaching anchor.index byte (pattern.shifts.get byte), 0, ?_, ?_⟩
    · rw [Nat.zero_add]
      exact Pattern.dataReaching_index last.index_lt
    · rw [Nat.zero_add]
      exact Pattern.occursAt_dataReaching reaches

-- The wildcard admits every byte; the token after it only its own.
example : (ofTokens [.fixed 1, .wildcard, .fixed 2, .fixed 3]).get 2 = 1 ∧
    (ofTokens [.fixed 1, .wildcard, .fixed 2, .fixed 3]).get 7 = 2 := by decide

end ShiftTable

end BytePattern
