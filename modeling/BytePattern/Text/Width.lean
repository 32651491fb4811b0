/-!
# Byte widths of texts

Columns in messages count UTF-8 bytes. The column of a place in a text is the width of what stands
before it.
-/

namespace BytePattern.Text

/-- How many bytes a run of characters takes in UTF-8. -/
def width : List Char → Nat
  | [] => 0
  | c :: rest => c.utf8Size + width rest

@[simp] theorem width_nil : width [] = 0 := rfl

@[simp] theorem width_cons (c : Char) (rest : List Char) :
    width (c :: rest) = c.utf8Size + width rest := rfl

@[simp] theorem width_append (first second : List Char) :
    width (first ++ second) = width first + width second := by
  induction first with
  | nil => simp
  | cons c rest ih => simp [ih, Nat.add_assoc]

/-- The width of a whole text is its size in bytes. -/
theorem width_toList (text : String) : width text.toList = text.utf8ByteSize := by
  have spelled (characters : List Char) :
      width characters = (String.ofList characters).utf8ByteSize := by
    induction characters with
    | nil => rfl
    | cons c rest ih =>
      rw [width_cons, ih, String.ofList_cons]
      simp
  rw [spelled, String.ofList_toList]

/-- The width of what stands before a place is no position inside of a character. -/
theorem isValid_width {source : String} {before after : List Char}
    (whole : source.toList = before ++ after) :
    (⟨width before⟩ : String.Pos.Raw).IsValid source := by
  have spelled : source = String.ofList before ++ String.ofList after := by
    rw [← String.ofList_append, ← whole, String.ofList_toList]
  refine String.Pos.Raw.isValid_iff_exists_append.2 ⟨_, _, spelled, String.Pos.Raw.ext ?_⟩
  show width before = (String.ofList before).utf8ByteSize
  rw [← width_toList, String.toList_ofList]

end BytePattern.Text
