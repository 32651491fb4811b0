import BytePattern.Pattern.Basic

/-!
# Texts as bytes

Files and outside callers hand over texts as bytes in UTF-8. Bytes that are not valid UTF-8 hold no
text.
-/

namespace BytePattern.Text

def decode? (bytes : Bytes) : Option String :=
  String.fromUTF8? ⟨bytes⟩

def encode (text : String) : Bytes :=
  text.toUTF8.data

theorem decode?_eq_some_iff {bytes : Bytes} {text : String} :
    decode? bytes = some text ↔ bytes = encode text := by
  unfold decode? encode String.fromUTF8?
  constructor
  · intro decoded
    split at decoded
    · cases decoded
      rfl
    · cases decoded
  · rintro rfl
    exact dif_pos text.isValidUTF8

end BytePattern.Text
