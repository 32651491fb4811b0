import BytePattern.Pattern.Search

/-!
# Occurrences

Where a pattern occurs in a block of bytes, said without a search: the whole pattern fits there and
every token admits its byte. The offsets at which it occurs are listed by trying all of them, which
is what every search has to agree with.
-/

namespace BytePattern.Pattern

/-- Whether the pattern fits into the data at an offset and every token admits its byte. -/
def OccursAt (pattern : Pattern) (data : Bytes) (offset : Nat) : Prop :=
  offset + pattern.span ≤ data.size ∧
    ∀ (index : Nat) (token : Token) (byte : UInt8),
      pattern.tokens[index]? = some token → data[offset + index]? = some byte →
        token.admits byte = true

/-- Tokens are admitted one after another exactly if they fit and each admits its byte. -/
theorem admitsFrom_iff (data : Bytes) (tokens : List Token) (offset : Nat)
    (start : offset ≤ data.size) :
    admitsFrom data tokens offset = true ↔
      offset + tokens.length ≤ data.size ∧
        ∀ (index : Nat) (token : Token) (byte : UInt8),
          tokens[index]? = some token → data[offset + index]? = some byte →
            token.admits byte = true := by
  induction tokens generalizing offset with
  | nil => simpa [admitsFrom] using start
  | cons token rest ih =>
    cases found : data[offset]? with
    | none =>
      have outside : data.size ≤ offset := by simpa using found
      simp only [admitsFrom, found, List.length_cons]
      constructor
      · intro impossible
        cases impossible
      · rintro ⟨fits, _⟩
        omega
    | some byte =>
      have inside : offset < data.size := (Array.getElem?_eq_some_iff.1 found).1
      simp only [admitsFrom, found, Bool.and_eq_true, ih (offset + 1) inside, List.length_cons]
      constructor
      · rintro ⟨admitted, fits, others⟩
        refine ⟨by omega, fun index other => ?_⟩
        cases index with
        | zero =>
          intro behind isOther isBehind
          cases Option.some.inj isOther
          cases Option.some.inj (isBehind.symm.trans found)
          exact admitted
        | succ index =>
          intro behind isOther isBehind
          exact others index other behind (by simpa using isOther)
            (by simpa [Nat.add_assoc, Nat.add_comm 1] using isBehind)
      · rintro ⟨fits, others⟩
        refine ⟨others 0 token byte rfl (by simpa using found), by omega, ?_⟩
        intro index other behind isOther isBehind
        exact others (index + 1) other behind (by simpa using isOther)
          (by simpa [Nat.add_assoc, Nat.add_comm 1] using isBehind)

/-- A window that starts behind the end of the data admits nothing. -/
theorem admitsFrom_eq_false {data : Bytes} {tokens : List Token} {offset : Nat}
    (nonempty : tokens ≠ []) (outside : data.size ≤ offset) :
    admitsFrom data tokens offset = false := by
  cases tokens with
  | nil => exact absurd rfl nonempty
  | cons token rest => simp [admitsFrom, outside]

theorem matchesAt_iff_occursAt (pattern : Pattern) (data : Bytes) (offset : Nat) :
    pattern.matchesAt data offset = true ↔ pattern.OccursAt data offset := by
  rcases Nat.lt_or_ge offset data.size with inside | outside
  · exact admitsFrom_iff data pattern.tokens offset (Nat.le_of_lt inside)
  · constructor
    · intro matched
      rw [matchesAt, admitsFrom_eq_false pattern.tokens_ne_nil outside] at matched
      cases matched
    · rintro ⟨fits, _⟩
      have := pattern.span_pos
      omega

instance (pattern : Pattern) (data : Bytes) (offset : Nat) :
    Decidable (pattern.OccursAt data offset) :=
  decidable_of_iff _ (matchesAt_iff_occursAt pattern data offset)

/-- All offsets at which the pattern occurs, the lowest first. -/
def occurrences (pattern : Pattern) (data : Bytes) : List Nat :=
  (List.range data.size).filter fun offset => pattern.OccursAt data offset

theorem mem_occurrences_iff {pattern : Pattern} {data : Bytes} {offset : Nat} :
    offset ∈ pattern.occurrences data ↔ pattern.OccursAt data offset := by
  simp only [occurrences, List.mem_filter, List.mem_range, decide_eq_true_eq]
  constructor
  · rintro ⟨_, occurs⟩
    exact occurs
  · intro occurs
    have := pattern.span_pos
    exact ⟨by have := occurs.1; omega, occurs⟩

theorem pairwise_lt_occurrences (pattern : Pattern) (data : Bytes) :
    (pattern.occurrences data).Pairwise (· < ·) :=
  List.Pairwise.filter _ List.pairwise_lt_range

end BytePattern.Pattern
