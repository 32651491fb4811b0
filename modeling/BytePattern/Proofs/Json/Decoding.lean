import BytePattern.Json.Decode
import BytePattern.Proofs.Json.Lawful
import BytePattern.Proofs.Json.Reading
import BytePattern.Proofs.Traversal

/-!
# Decoding written values

A node that represents a value is decoded as the contents of the value. An object is decoded as a
record by taking its members one after the other, each of them into a field that has not been set
before. So the codec of nodes is lawful.
-/

namespace BytePattern.Json

namespace Node

variable {α : Type} {node : Node} {text : String} {decode : Node → Except Fault α}

theorem textOf_eq {pieces : List Piece} (joined : joinPieces? pieces = some text.toList) :
    textOf pieces = .ok text := by
  simp only [textOf, joined, String.ofList_toList]

theorem asString_of_represents (represents : node.Represents (.string text)) :
    node.asString = .ok text := by
  cases represents with
  | string joined => exact textOf_eq joined

theorem asBool_of_represents {value : Bool} (represents : node.Represents (.bool value)) :
    node.asBool = .ok value := by
  cases represents
  rfl

theorem asWord_of_represents {value : UInt64} (represents : node.Represents (.number value.toNat)) :
    node.asWord = .ok value := by
  cases represents
  simp only [asWord, numberOf, Numeral.value?_ofNat value.toNat_lt, UInt64.ofNat_toNat]
  rfl

theorem asNullable_of_represents {value : Value} {result : α} (present : value ≠ .null)
    (represents : node.Represents value) (decoded : decode node = .ok result) :
    node.asNullable decode = .ok (some result) := by
  cases represents with
  | null => exact absurd rfl present
  | _ =>
      rw [asNullable, decoded]
      · rfl
      · simp

theorem asVariant_of_represents {variants : List (String × α)} {value : α}
    (known : variants.lookup text = some value) (represents : node.Represents (.string text)) :
    node.asVariant variants = .ok value := by
  cases represents with
  | string joined =>
      simp only [asVariant, asChoice, textOf_eq joined, bind, Except.bind, known]

/-- Nodes that represent items are decoded as what the items are decoded as. -/
theorem mapM_of_represent {nodes : List Node} {items : List Value} {results : List α}
    (represent : ItemsRepresent nodes items)
    (decodes : List.Forall₂ (fun item result => ∀ node : Node, node.Represents item →
      decode node = .ok result) items results) : nodes.mapM decode = .ok results := by
  rw [Traversal.mapM_eq_ok_iff]
  induction decodes generalizing nodes with
  | nil =>
      cases represent
      exact .nil
  | cons decodesFirst _ ih =>
      cases represent with
      | cons first others => exact .cons (decodesFirst _ first) (ih others)

theorem asList_of_represents {items : List Value} {results : List α}
    (decodes : List.Forall₂ (fun item result => ∀ node : Node, node.Represents item →
      decode node = .ok result) items results)
    (represents : node.Represents (.array items)) : node.asList decode = .ok results := by
  cases represents with
  | array represent =>
      rw [asList, mapM_of_represent represent decodes]
      rfl

end Node

namespace RecordShape

variable {δ ρ : Type} {shape : RecordShape Node Fault δ ρ} {node : Node} {draft final : δ}
  {members : List (String × Value)}

theorem decodeMembers_of_takes (takes : shape.Takes Node.Represents draft members final)
    {nodes : List (Node × Nat × Node)} (represent : Node.MembersRepresent nodes members) :
    shape.decodeMembers draft nodes = .ok final := by
  induction takes generalizing nodes with
  | nil =>
      cases represent
      rfl
  | cons found unset decodes takes ih =>
      cases represent with
      | cons joined represents others =>
          simp only [decodeMembers, Node.textOf_eq joined, bind, Except.bind, found, unset,
            Bool.false_eq_true, if_false, decodes _ represents]
          exact ih others

theorem decode_of_takes {result : ρ}
    (takes : shape.Takes Node.Represents shape.empty members final)
    (complete : ∀ field ∈ shape.fields, field.isRequired = true → field.isSet final = true)
    (finished : shape.finish? final = some result)
    (represents : node.Represents (.object members)) : shape.decode node = .ok result := by
  cases represents with
  | object represent =>
      have nothing : (shape.fields.find? fun field => field.isRequired && !field.isSet final) =
          none := by
        rw [List.find?_eq_none]
        intro field member missing
        rw [Bool.and_eq_true, Bool.not_eq_true'] at missing
        rw [complete field member missing.1] at missing
        cases missing.2
      simp only [decode, decodeDraft, decodeMembers_of_takes takes represent, bind, Except.bind,
        nothing, finished]

end RecordShape

/-- What the root of a value's text is decoded as, the text is decoded as: nothing follows. -/
theorem decodeText_text {α : Type} {decode : Node → Except Fault α} {value : Value} {result : α}
    (decoded : decode (Document.read value.compact).root = .ok result) :
    decodeText decode value.text = .ok result := by
  have ended := value.read_compact.2
  rw [decodeText, Value.text, String.toList_ofList]
  simp only [decoded, ended, Bool.false_eq_true, if_false]

theorem codec_lawful : codec.Lawful Node.Represents where
  exists_holds {value} _ := ⟨_, value.read_compact.1, decodeText_text⟩
  bool := Node.asBool_of_represents
  word := Node.asWord_of_represents
  string := Node.asString_of_represents
  nullable := Node.asNullable_of_represents
  list := Node.asList_of_represents
  variant := Node.asVariant_of_represents
  record := RecordShape.decode_of_takes

end BytePattern.Json
