import BytePattern.Proofs.Pattern.Searching

/-!
# Equal patterns are those that are found alike

A pattern occurs at the beginning of the data that it spells out itself, whatever byte fills the
places of its wildcards. Another pattern that occurs there as well is no longer, and admits each of
these bytes. If two patterns do so for each other, then with two different fillers no fixed token of
the one can lie over another token of the other. Hence four blocks of data tell all patterns apart.
-/

namespace BytePattern

namespace Token

/-- A byte that the token admits: its own one, or the filler in the place of a wildcard. -/
def filledWith (filler : UInt8) (token : Token) : UInt8 :=
  token.byte?.getD filler

theorem admits_filledWith (filler : UInt8) (token : Token) :
    token.admits (token.filledWith filler) = true := by
  cases token with
  | fixed byte => exact (fixed_admits_iff byte byte).2 rfl
  | wildcard => rfl

/-- A token that admits what another one is filled with, with two different fillers, demands no
more than the other one. -/
theorem eq_or_eq_wildcard_of_admits {token other : Token}
    (zero : token.admits (other.filledWith 0) = true)
    (one : token.admits (other.filledWith 1) = true) : token = other ∨ token = .wildcard := by
  cases token with
  | wildcard => exact .inr rfl
  | fixed byte =>
      cases other with
      | fixed found =>
          rw [(fixed_admits_iff byte found).1 zero]
          exact .inl rfl
      | wildcard =>
          have isZero : byte = 0 := (fixed_admits_iff byte 0).1 zero
          have isOne : byte = 1 := (fixed_admits_iff byte 1).1 one
          exact absurd (isZero.symm.trans isOne) (by decide)

end Token

namespace Pattern

/-- The data that the pattern spells out, with the filler in the places of its wildcards. -/
def filledWith (filler : UInt8) (pattern : Pattern) : Bytes :=
  (pattern.tokens.map (Token.filledWith filler)).toArray

variable {pattern another : Pattern} {filler : UInt8}

theorem size_filledWith (filler : UInt8) (pattern : Pattern) :
    (pattern.filledWith filler).size = pattern.span := by
  rw [filledWith, List.size_toArray, List.length_map, span]

theorem getElem?_filledWith (filler : UInt8) (pattern : Pattern) (index : Nat) :
    (pattern.filledWith filler)[index]? = pattern.tokens[index]?.map (Token.filledWith filler) := by
  rw [filledWith, List.getElem?_toArray, List.getElem?_map]

theorem occursAt_filledWith (filler : UInt8) (pattern : Pattern) :
    pattern.OccursAt (pattern.filledWith filler) 0 := by
  refine ⟨by rw [size_filledWith, Nat.zero_add], fun index token byte isToken isByte => ?_⟩
  rw [Nat.zero_add, getElem?_filledWith, isToken] at isByte
  cases isByte
  exact token.admits_filledWith filler

/-- A pattern that occurs where another one spells itself out admits its bytes. -/
theorem admits_of_occursAt_filledWith {index : Nat} {token other : Token}
    (occurs : another.OccursAt (pattern.filledWith filler) 0)
    (isToken : pattern.tokens[index]? = some token)
    (isOther : another.tokens[index]? = some other) :
    other.admits (token.filledWith filler) = true := by
  refine occurs.2 index other (token.filledWith filler) isOther ?_
  rw [Nat.zero_add, getElem?_filledWith, isToken]
  rfl

/-- Patterns that occur in what the other one spells out are equal. -/
theorem eq_of_occursAt_filledWith
    (there : ∀ filler ∈ [0, 1], another.OccursAt (pattern.filledWith filler) 0)
    (here : ∀ filler ∈ [0, 1], pattern.OccursAt (another.filledWith filler) 0) :
    pattern = another := by
  have zero : (0 : UInt8) ∈ [0, 1] := List.mem_cons_self
  have one : (1 : UInt8) ∈ [0, 1] := List.mem_cons_of_mem _ List.mem_cons_self
  have spans : pattern.tokens.length = another.tokens.length := by
    have longer := (there 0 zero).1
    have shorter := (here 0 zero).1
    rw [size_filledWith, Nat.zero_add] at longer shorter
    exact Nat.le_antisymm shorter longer
  refine Pattern.ext (List.ext_getElem spans fun index inside inside' => ?_)
  have isToken := List.getElem?_eq_getElem inside
  have isOther := List.getElem?_eq_getElem inside'
  have looser := Token.eq_or_eq_wildcard_of_admits
    (admits_of_occursAt_filledWith (there 0 zero) isToken isOther)
    (admits_of_occursAt_filledWith (there 1 one) isToken isOther)
  have tighter := Token.eq_or_eq_wildcard_of_admits
    (admits_of_occursAt_filledWith (here 0 zero) isOther isToken)
    (admits_of_occursAt_filledWith (here 1 one) isOther isToken)
  rcases tighter with same | wild
  · exact same
  · rcases looser with same | wild'
    · exact same.symm
    · exact wild.trans wild'.symm

/-- The data that are enough to tell two patterns apart: those that one of the two spells out. -/
def probes (pattern another : Pattern) : List Bytes :=
  [pattern.filledWith 0, pattern.filledWith 1, another.filledWith 0, another.filledWith 1]

theorem eq_of_scanAll_probes
    (same : ∀ data ∈ probes pattern another, pattern.scanAll data = another.scanAll data) :
    pattern = another := by
  have occurs {data : Bytes} (probe : data ∈ probes pattern another) :
      pattern.OccursAt data 0 ↔ another.OccursAt data 0 := by
    rw [← mem_toList_scanAll_iff, same data probe, mem_toList_scanAll_iff]
  apply eq_of_occursAt_filledWith
  · intro filler small
    have probe : pattern.filledWith filler ∈ probes pattern another := by
      rcases List.mem_pair.1 small with rfl | rfl <;> simp [probes]
    exact (occurs probe).1 (occursAt_filledWith filler pattern)
  · intro filler small
    have probe : another.filledWith filler ∈ probes pattern another := by
      rcases List.mem_pair.1 small with rfl | rfl <;> simp [probes]
    exact (occurs probe).2 (occursAt_filledWith filler another)

/-- Patterns are equal exactly if they are found at the same offsets of all data. Equality compares
the tokens alone, so equal tokens are always found alike, and patterns with different tokens are
told apart by data that one of the two spells out. -/
theorem beq_iff_scanAll_eq (pattern another : Pattern) :
    ((pattern == another) = true ↔ pattern.tokens = another.tokens) ∧
    ((pattern == another) = true ↔
      ∀ data : Bytes, pattern.scanAll data = another.scanAll data) ∧
    ((pattern == another) = false ↔
      ∃ data ∈ probes pattern another, pattern.scanAll data ≠ another.scanAll data) := by
  have alike : (pattern == another) = true ↔
      ∀ data ∈ probes pattern another, pattern.scanAll data = another.scanAll data := by
    rw [beq_iff_eq]
    constructor
    · rintro rfl data _
      rfl
    · exact eq_of_scanAll_probes
  refine ⟨?_, ?_, ?_⟩
  · rw [beq_iff_eq]
    exact ⟨fun same => same ▸ rfl, Pattern.ext⟩
  · constructor
    · intro same data
      rw [beq_iff_eq.1 same]
    · exact fun same => alike.2 fun data _ => same data
  · rw [← Bool.not_eq_true, alike]
    simp only [not_forall, exists_prop, ne_eq]

end Pattern

end BytePattern
