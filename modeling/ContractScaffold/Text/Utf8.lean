/-
Texts as bytes in UTF-8.

* `utf8`: the bytes of a text.
* `ofUtf8?`: the text of some bytes, where they are well formed.
* `ofUtf8?_utf8`: the bytes of a text give that text back.
-/
import ContractScaffold.Text.Basic

namespace ContractScaffold

namespace Text

/-- The bytes of a text. -/
def utf8 (t : Text) : List UInt8 :=
  t.flatMap String.utf8EncodeChar

/-- The text that the bytes stand for; none, where they are not well formed. -/
def ofUtf8? (bytes : List UInt8) : Option Text :=
  (String.fromUTF8? bytes.toByteArray).map String.toList

/-- The bytes of a text stand for it. -/
theorem ofUtf8?_utf8 (t : Text) : ofUtf8? (utf8 t) = some t := by
  have h : (utf8 t).toByteArray = (String.ofList t).toByteArray := rfl
  rw [ofUtf8?, h, String.fromUTF8?, dif_pos (String.ofList t).isValidUTF8]
  exact congrArg some String.toList_ofList

end Text

end ContractScaffold
