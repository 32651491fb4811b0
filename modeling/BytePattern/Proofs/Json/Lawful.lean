import BytePattern.Json.Codec
import Mathlib.Data.List.Forall2

/-!
# Lawful codecs

What a codec is relied on for. A text that it has written is read as a tree that holds the written
value. A tree is decoded by the value that it holds, and an object as a record by taking its members
one after the other, each of them into a field that has not been set before. How values are spelled,
what trees are and which faults other texts have is left open.
-/

namespace BytePattern.Json

/-- How deep arrays and objects may stand inside each other in a text that is read. -/
def nestingLimit : Nat := 127

/-- Whether the numbers in a value are words and its arrays and objects do not stand inside each
other deeper than stated. -/
inductive Value.Plain : Nat → Value → Prop
  | null {depth : Nat} : Plain depth .null
  | bool {depth : Nat} (value : Bool) : Plain depth (.bool value)
  | number {depth : Nat} (value : UInt64) : Plain depth (.number value.toNat)
  | string {depth : Nat} (text : String) : Plain depth (.string text)
  | array {depth : Nat} {items : List Value} :
      (∀ item ∈ items, Plain depth item) → Plain (depth + 1) (.array items)
  | object {depth : Nat} {members : List (String × Value)} :
      (∀ member ∈ members, Plain depth member.2) → Plain (depth + 1) (.object members)

namespace RecordShape

variable {Tree Fault δ ρ : Type} {shape : RecordShape Tree Fault δ ρ}
  {Holds : Tree → Value → Prop} {draft next final : δ} {members others : List (String × Value)}

/-- Taking the members of an object in order leads from a draft to another one: each member has the
name of a field that is not set yet, and the field decodes its value. -/
inductive Takes (shape : RecordShape Tree Fault δ ρ) (Holds : Tree → Value → Prop) :
    δ → List (String × Value) → δ → Prop
  | nil {draft : δ} : Takes shape Holds draft [] draft
  | cons {draft next final : δ} {name : String} {value : Value} {field : Field Tree Fault δ}
      {members : List (String × Value)} :
      shape.field? name = some field → field.isSet draft = false →
      (∀ tree, Holds tree value → field.decode tree draft = .ok next) →
      Takes shape Holds next members final →
      Takes shape Holds draft ((name, value) :: members) final

theorem Takes.append (first : shape.Takes Holds draft members next)
    (second : shape.Takes Holds next others final) :
    shape.Takes Holds draft (members ++ others) final := by
  induction first with
  | nil => exact second
  | cons found unset decodes _ ih => exact .cons found unset decodes (ih second)

end RecordShape

/-- The laws of a codec, in which `Holds` says which value a tree holds. -/
structure Codec.Lawful (codec : Codec) (Holds : codec.Tree → Value → Prop) : Prop where
  /-- The text of a plain value is read as a tree that holds the value, and nothing is left of the
  text: what the tree is decoded as, the text is read as. -/
  exists_holds {value : Value} (plain : value.Plain nestingLimit) :
    ∃ tree, Holds tree value ∧
      ∀ {α : Type} {decode : codec.Tree → Except codec.Fault α} {result : α},
        decode tree = .ok result → codec.read decode (codec.write value) = .ok result
  /-- Booleans, words and strings are decoded as what they are. -/
  bool {tree : codec.Tree} {value : Bool} (holds : Holds tree (.bool value)) :
    codec.bool tree = .ok value
  word {tree : codec.Tree} {value : UInt64} (holds : Holds tree (.number value.toNat)) :
    codec.word tree = .ok value
  string {tree : codec.Tree} {text : String} (holds : Holds tree (.string text)) :
    codec.string tree = .ok text
  /-- What is not null is there. -/
  nullable {α : Type} {decode : codec.Tree → Except codec.Fault α} {tree : codec.Tree}
    {value : Value} {result : α} (present : value ≠ .null) (holds : Holds tree value)
    (decoded : decode tree = .ok result) : codec.nullable decode tree = .ok (some result)
  /-- The items of an array are decoded one by one. -/
  list {α : Type} {decode : codec.Tree → Except codec.Fault α} {tree : codec.Tree}
    {items : List Value} {results : List α}
    (decodes : List.Forall₂ (fun item result => ∀ tree, Holds tree item →
      decode tree = .ok result) items results)
    (holds : Holds tree (.array items)) : codec.list decode tree = .ok results
  /-- A string that is one of the known names stands for what is named. -/
  variant {α : Type} {variants : List (String × α)} {tree : codec.Tree} {name : String}
    {value : α} (known : variants.lookup name = some value) (holds : Holds tree (.string name)) :
    codec.variant variants tree = .ok value
  /-- An object is a record if its members fill an empty draft, no required field is missing then,
  and the draft can be finished. -/
  record {δ ρ : Type} {shape : RecordShape codec.Tree codec.Fault δ ρ} {tree : codec.Tree}
    {members : List (String × Value)} {final : δ} {result : ρ}
    (takes : shape.Takes Holds shape.empty members final)
    (complete : ∀ field ∈ shape.fields, field.isRequired = true → field.isSet final = true)
    (finished : shape.finish? final = some result) (holds : Holds tree (.object members)) :
    codec.record shape tree = .ok result

/-- What all trees that hold a value are decoded as, its text is read as. -/
theorem Codec.Lawful.read_write {codec : Codec} {Holds : codec.Tree → Value → Prop}
    (lawful : codec.Lawful Holds) {α : Type} {decode : codec.Tree → Except codec.Fault α}
    {value : Value} {result : α} (plain : value.Plain nestingLimit)
    (decodes : ∀ tree, Holds tree value → decode tree = .ok result) :
    codec.read decode (codec.write value) = .ok result := by
  obtain ⟨tree, holds, answers⟩ := lawful.exists_holds plain
  exact answers (decodes tree holds)

end BytePattern.Json
