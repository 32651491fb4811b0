import BytePattern.Json.Node
import BytePattern.Proofs.Json.Lexing

/-!
# Written values read as nodes

A node represents a value if it has the shape of the value and its strings and numbers are those of
the value; the places that it keeps do not matter. The compact text of a value is read as a node
that represents it, and nothing is left of the text.
-/

namespace BytePattern.Json

mutual

/-- The node holds the value. -/
inductive Node.Represents : Node → Value → Prop
  | null {stop : Nat} : Represents (.null stop) .null
  | bool {value : Bool} {stop : Nat} : Represents (.bool value stop) (.bool value)
  | number {value stop : Nat} :
      Represents (.number (Numeral.ofNat value) stop) (.number value)
  | string {pieces : List Piece} {text : String} {stop : Nat} :
      joinPieces? pieces = some text.toList → Represents (.string pieces stop) (.string text)
  | array {nodes : List Node} {items : List Value} {start stop : Nat} :
      ItemsRepresent nodes items → Represents (.array start nodes (some stop)) (.array items)
  | object {nodes : List (Node × Nat × Node)} {members : List (String × Value)}
      {start stop : Nat} :
      MembersRepresent nodes members →
      Represents (.object start nodes (some stop)) (.object members)

inductive Node.ItemsRepresent : List Node → List Value → Prop
  | nil : ItemsRepresent [] []
  | cons {node : Node} {item : Value} {nodes : List Node} {items : List Value} :
      Represents node item → ItemsRepresent nodes items →
      ItemsRepresent (node :: nodes) (item :: items)

inductive Node.MembersRepresent : List (Node × Nat × Node) → List (String × Value) → Prop
  | nil : MembersRepresent [] []
  | cons {pieces : List Piece} {name : String} {stop place : Nat} {node : Node} {value : Value}
      {nodes : List (Node × Nat × Node)} {members : List (String × Value)} :
      joinPieces? pieces = some name.toList → Represents node value →
      MembersRepresent nodes members →
      MembersRepresent ((.string pieces stop, place, node) :: nodes) ((name, value) :: members)

end

namespace Value

/-- The first lexeme of a value closes nothing. -/
theorem exists_lexemes_eq_cons (value : Value) :
    ∃ first rest, value.lexemes = first :: rest ∧ first ≠ .closeBracket := by
  cases value <;> exact ⟨_, _, rfl, by simp⟩

theorem exists_itemLexemes_eq_cons (item : Value) (items : List Value) :
    ∃ first rest, itemLexemes (item :: items) = first :: rest ∧ first ≠ .closeBracket := by
  obtain ⟨first, rest, front, opens⟩ := item.exists_lexemes_eq_cons
  cases items <;> rw [itemLexemes, front] <;> exact ⟨first, _, rfl, opens⟩

theorem exists_memberLexemes_eq_cons (name : String) (value : Value)
    (members : List (String × Value)) :
    ∃ rest, memberLexemes ((name, value) :: members) =
      .string (name.toList.map Piece.ofChar) :: rest := by
  cases members <;> rw [memberLexemes] <;> exact ⟨_, rfl⟩

theorem length_lexemes_pos (value : Value) : 0 < value.lexemes.length := by
  obtain ⟨first, rest, front, -⟩ := value.exists_lexemes_eq_cons
  rw [front]
  exact Nat.succ_pos _

section Reading

variable {placed rest : List Placed} {behind : List Lexeme} {lexeme : Lexeme}

theorem exists_placed_of_map_eq_cons (spelled : placed.map Placed.lexeme = lexeme :: behind) :
    ∃ start stop rest, placed = ⟨lexeme, start, stop⟩ :: rest ∧
      rest.map Placed.lexeme = behind := by
  obtain ⟨⟨own, start, stop⟩, rest, rfl, rfl, others⟩ := List.map_eq_cons_iff.1 spelled
  exact ⟨start, stop, rest, rfl, others⟩

theorem read_string {fuel start stop : Nat} {pieces : List Piece} (pos : 0 < fuel) :
    Node.read fuel (⟨.string pieces, start, stop⟩ :: rest) = (.string pieces stop, rest) := by
  cases fuel with
  | zero => cases pos
  | succ fuel => rfl

theorem read_openBracket {fuel start stop : Nat} (front : lexeme ≠ .closeBracket)
    (first : placed.map Placed.lexeme = lexeme :: behind) :
    Node.read (fuel + 1) (⟨.openBracket, start, stop⟩ :: placed) =
      (.array start (Node.readItems fuel placed).1 (Node.readItems fuel placed).2.1,
        (Node.readItems fuel placed).2.2) := by
  obtain ⟨start', stop', rest, rfl, -⟩ := exists_placed_of_map_eq_cons first
  rw [Node.read]
  rintro _ _ _ ⟨⟩
  exact front rfl

theorem read_openBrace {fuel start stop : Nat} (front : lexeme ≠ .closeBrace)
    (first : placed.map Placed.lexeme = lexeme :: behind) :
    Node.read (fuel + 1) (⟨.openBrace, start, stop⟩ :: placed) =
      (.object start (Node.readMembers fuel placed).1 (Node.readMembers fuel placed).2.1,
        (Node.readMembers fuel placed).2.2) := by
  obtain ⟨start', stop', rest, rfl, -⟩ := exists_placed_of_map_eq_cons first
  rw [Node.read]
  rintro _ _ _ ⟨⟩
  exact front rfl

mutual

-- The recursion is on the value. There is fuel for two levels a lexeme, and one more for the items
-- and members, which start with the first lexeme behind a bracket.
theorem read_spec {behind : List Lexeme} : (value : Value) → (fuel : Nat) → (placed : List Placed) →
    2 * value.lexemes.length ≤ fuel → placed.map Placed.lexeme = value.lexemes ++ behind →
    ∃ node rest, Node.read fuel placed = (node, rest) ∧ node.Represents value ∧
      rest.map Placed.lexeme = behind
  | value, 0, _, enough, _ => by
      have := value.length_lexemes_pos
      omega
  | .null, fuel + 1, placed, _, spelled => by
      obtain ⟨start, stop, rest, rfl, others⟩ := exists_placed_of_map_eq_cons spelled
      exact ⟨_, rest, rfl, .null, others⟩
  | .bool value, fuel + 1, placed, _, spelled => by
      obtain ⟨start, stop, rest, rfl, others⟩ := exists_placed_of_map_eq_cons spelled
      exact ⟨_, rest, rfl, .bool, others⟩
  | .number value, fuel + 1, placed, _, spelled => by
      obtain ⟨start, stop, rest, rfl, others⟩ := exists_placed_of_map_eq_cons spelled
      exact ⟨_, rest, rfl, .number, others⟩
  | .string text, fuel + 1, placed, _, spelled => by
      obtain ⟨start, stop, rest, rfl, others⟩ := exists_placed_of_map_eq_cons spelled
      exact ⟨_, rest, rfl, .string (joinPieces?_map_ofChar _), others⟩
  | .array [], fuel + 1, placed, _, spelled => by
      obtain ⟨start, stop, rest, rfl, closing⟩ := exists_placed_of_map_eq_cons spelled
      obtain ⟨start', stop', rest, rfl, others⟩ := exists_placed_of_map_eq_cons closing
      exact ⟨_, rest, rfl, .array .nil, others⟩
  | .array (item :: items), fuel + 1, placed, enough, spelled => by
      obtain ⟨start, stop, rest, rfl, others⟩ := exists_placed_of_map_eq_cons spelled
      have inside : rest.map Placed.lexeme =
          itemLexemes (item :: items) ++ .closeBracket :: behind := by simpa using others
      obtain ⟨first, following, front, opens⟩ := exists_itemLexemes_eq_cons item items
      obtain ⟨nodes, stop', rest', read, represent, behind'⟩ :=
        readItems_spec item items fuel rest (by simp [lexemes] at enough; omega) inside
      rw [read_openBracket opens (by rw [inside, front, List.cons_append]), read]
      exact ⟨_, rest', rfl, .array represent, behind'⟩
  | .object [], fuel + 1, placed, _, spelled => by
      obtain ⟨start, stop, rest, rfl, closing⟩ := exists_placed_of_map_eq_cons spelled
      obtain ⟨start', stop', rest, rfl, others⟩ := exists_placed_of_map_eq_cons closing
      exact ⟨_, rest, rfl, .object .nil, others⟩
  | .object ((name, value) :: members), fuel + 1, placed, enough, spelled => by
      obtain ⟨start, stop, rest, rfl, others⟩ := exists_placed_of_map_eq_cons spelled
      have inside : rest.map Placed.lexeme =
          memberLexemes ((name, value) :: members) ++ .closeBrace :: behind := by
        simpa using others
      obtain ⟨following, front⟩ := exists_memberLexemes_eq_cons name value members
      obtain ⟨nodes, stop', rest', read, represent, behind'⟩ :=
        readMembers_spec name value members fuel rest (by simp [lexemes] at enough; omega) inside
      rw [read_openBrace Lexeme.noConfusion (by rw [inside, front, List.cons_append]), read]
      exact ⟨_, rest', rfl, .object represent, behind'⟩

theorem readItems_spec {behind : List Lexeme} : (item : Value) → (items : List Value) →
    (fuel : Nat) → (placed : List Placed) → 2 * (itemLexemes (item :: items)).length < fuel →
    placed.map Placed.lexeme = itemLexemes (item :: items) ++ .closeBracket :: behind →
    ∃ nodes stop rest, Node.readItems fuel placed = (nodes, some stop, rest) ∧
      Node.ItemsRepresent nodes (item :: items) ∧ rest.map Placed.lexeme = behind
  | item, [], fuel + 1, placed, enough, spelled => by
      rw [itemLexemes] at enough spelled
      obtain ⟨node, rest, read, represents, others⟩ :=
        read_spec item fuel placed (by omega) spelled
      obtain ⟨start, stop, rest, rfl, behind'⟩ := exists_placed_of_map_eq_cons others
      rw [Node.readItems, read]
      exact ⟨[node], stop, rest, rfl, .cons represents .nil, behind'⟩
  | item, next :: items, fuel + 1, placed, enough, spelled => by
      rw [itemLexemes] at enough spelled
      simp only [List.length_append, List.length_cons] at enough
      rw [List.append_assoc, List.cons_append] at spelled
      obtain ⟨node, rest, read, represents, others⟩ :=
        read_spec item fuel placed (by omega) spelled
      obtain ⟨start, stop, rest, rfl, following⟩ := exists_placed_of_map_eq_cons others
      obtain ⟨nodes, stop', rest', readOthers, represent, behind'⟩ :=
        readItems_spec next items fuel rest (by omega) following
      rw [Node.readItems, read]
      simp only [readOthers]
      exact ⟨node :: nodes, stop', rest', rfl, .cons represents represent, behind'⟩

theorem readMembers_spec {behind : List Lexeme} : (name : String) → (value : Value) →
    (members : List (String × Value)) → (fuel : Nat) → (placed : List Placed) →
    2 * (memberLexemes ((name, value) :: members)).length < fuel →
    placed.map Placed.lexeme = memberLexemes ((name, value) :: members) ++ .closeBrace :: behind →
    ∃ nodes stop rest, Node.readMembers fuel placed = (nodes, some stop, rest) ∧
      Node.MembersRepresent nodes ((name, value) :: members) ∧ rest.map Placed.lexeme = behind
  | name, value, [], fuel + 1, placed, enough, spelled => by
      rw [memberLexemes] at enough spelled
      simp only [List.length_cons] at enough
      obtain ⟨nameStart, nameStop, rest, rfl, colon⟩ := exists_placed_of_map_eq_cons spelled
      obtain ⟨colonStart, colonStop, rest, rfl, following⟩ := exists_placed_of_map_eq_cons colon
      obtain ⟨node, rest, read, represents, others⟩ :=
        read_spec value fuel rest (by omega) following
      obtain ⟨start, stop, rest, rfl, behind'⟩ := exists_placed_of_map_eq_cons others
      rw [Node.readMembers, read_string (by omega)]
      simp only [read]
      exact ⟨_, stop, rest, rfl, .cons (joinPieces?_map_ofChar _) represents .nil, behind'⟩
  | name, value, (name', value') :: members, fuel + 1, placed, enough, spelled => by
      rw [memberLexemes] at enough spelled
      simp only [List.length_append, List.length_cons] at enough
      simp only [List.cons_append, List.append_assoc] at spelled
      obtain ⟨nameStart, nameStop, rest, rfl, colon⟩ := exists_placed_of_map_eq_cons spelled
      obtain ⟨colonStart, colonStop, rest, rfl, following⟩ := exists_placed_of_map_eq_cons colon
      obtain ⟨node, rest, read, represents, others⟩ :=
        read_spec value fuel rest (by omega) following
      obtain ⟨start, stop, rest, rfl, following⟩ := exists_placed_of_map_eq_cons others
      obtain ⟨nodes, stop', rest', readOthers, represent, behind'⟩ :=
        readMembers_spec name' value' members fuel rest (by omega) following
      rw [Node.readMembers, read_string (by omega)]
      simp only [read, readOthers]
      exact ⟨_, stop', rest', rfl, .cons (joinPieces?_map_ofChar _) represents represent, behind'⟩

end

end Reading

/-- The text of a value holds a node that represents the value, and nothing else. -/
theorem read_compact (value : Value) :
    (Document.read value.compact).root.Represents value ∧
      (Document.read value.compact).trailing = false := by
  have cut : (Json.lexemes value.compact).map Placed.lexeme = value.lexemes ++ [] := by
    have whole := isCutInto_compact value ends_nil isCutInto_nil
    rw [List.append_nil] at whole
    exact whole 0 value.compact.length (Nat.le_refl _)
  have length : (Json.lexemes value.compact).length = value.lexemes.length := by
    rw [← List.length_map Placed.lexeme, cut, List.append_nil]
  obtain ⟨node, rest, read, represents, others⟩ :=
    read_spec value (2 * (Json.lexemes value.compact).length) (Json.lexemes value.compact)
      (by rw [length]) cut
  rw [Document.read, read]
  exact ⟨represents, by simp [List.map_eq_nil_iff.1 others]⟩

end Value

end BytePattern.Json
